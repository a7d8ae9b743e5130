import FormRouting.Proofs.Reading
import FormRouting.Store.Postgres.Run
import Mathlib.Data.List.Basic

/-!
# Calls that fail

The calls of an operation are made one after the other until one of them fails, and which one that
is decides how the operation ends. `Database.attempt_cases` is the only place where the making of
calls is opened: either all are made and none fails, or they are made up to the first one that does.
So a call that was made and fails is the failure that the operation meets (`attempt_of_failing`), and
a start ends in one of three ways (`start_cases`).

A loading asks for the rows of questions and rules only once it has the row of the form. Which calls
it makes depends on that row, and not on what fails (`loadCalls`). So both a loading (`getForm_eq`) and
a writing (`record_eq`) are the making of calls that are known beforehand, which ends with a failure or
with what the operation comes to otherwise (`Outcome.ending`).
-/

namespace FormRouting.Postgres

namespace Database

variable {db : Database} {calls : List Call}

/-- Calls are all made, or up to the first one that fails. -/
theorem attempt_cases (db : Database) (calls : List Call) :
    ((∀ call ∈ calls, db.failing call = none) ∧ db.attempt calls = (calls, none)) ∨
      ∃ before call after f, calls = before ++ call :: after ∧
        (∀ earlier ∈ before, db.failing earlier = none) ∧ db.failing call = some f ∧
        db.attempt calls = (before ++ [call], some f) := by
  induction calls with
  | nil => exact .inl ⟨by simp, rfl⟩
  | cons first rest ih =>
    rw [attempt]
    cases hfirst : db.failing first with
    | some f => exact .inr ⟨[], first, rest, f, rfl, by simp, hfirst, rfl⟩
    | none =>
      rcases ih with ⟨hall, hmade⟩ | ⟨before, call, after, f, rfl, hbefore, hf, hmade⟩
      · refine .inl ⟨?_, by rw [hmade]⟩
        rw [List.forall_mem_cons]
        exact ⟨hfirst, hall⟩
      · refine .inr ⟨first :: before, call, after, f, rfl, ?_, hf, by rw [hmade]; rfl⟩
        rw [List.forall_mem_cons]
        exact ⟨hfirst, hbefore⟩

/-- Only the calls of the operation are made. -/
theorem mem_of_mem_attempt {call : Call} (h : call ∈ (db.attempt calls).1) : call ∈ calls := by
  rcases db.attempt_cases calls with ⟨-, hmade⟩ | ⟨before, failed, after, f, rfl, -, -, hmade⟩
  · rwa [hmade] at h
  · rw [hmade] at h
    simp only [List.mem_append, List.mem_cons, List.not_mem_nil, or_false] at h ⊢
    exact h.imp_right Or.inl

/-- A call that is made and fails is the one whose failure ends the making of calls. -/
theorem attempt_of_failing {call : Call} {f : Failure} (hmade : call ∈ (db.attempt calls).1)
    (hf : db.failing call = some f) : (db.attempt calls).2 = some f := by
  rcases db.attempt_cases calls with ⟨hall, h⟩ | ⟨before, last, after, f', rfl, hbefore, hf', h⟩
  · rw [h] at hmade
    rw [hall call hmade] at hf
    cases hf
  · rw [h] at hmade ⊢
    rcases List.mem_append.mp hmade with hearlier | hlast
    · rw [hbefore call hearlier] at hf
      cases hf
    · rw [List.mem_singleton.mp hlast, hf'] at hf
      exact hf

/-- The making of calls ends without a failure exactly if none of them fails. -/
theorem attempt_eq_none_iff :
    (db.attempt calls).2 = none ↔ ∀ call ∈ calls, db.failing call = none := by
  rcases db.attempt_cases calls with ⟨hall, hmade⟩ | ⟨before, call, after, f, rfl, -, hf, hmade⟩
  · exact iff_of_true (by rw [hmade]) hall
  · refine iff_of_false (by rw [hmade]; exact Option.some_ne_none f) fun hall => ?_
    rw [hall call (by simp)] at hf
    cases hf

/-- Calls of which none fails are all made. -/
theorem attempt_of_forall (h : ∀ call ∈ calls, db.failing call = none) :
    db.attempt calls = (calls, none) := by
  rcases db.attempt_cases calls with ⟨-, hmade⟩ | ⟨before, call, after, f, rfl, -, hf, -⟩
  · exact hmade
  · rw [h call (by simp)] at hf
    cases hf

/-- A call that comes first is made, whether it fails or not. -/
theorem attempt_singleton (db : Database) (call : Call) : (db.attempt [call]).1 = [call] := by
  rw [attempt]
  cases db.failing call <;> rfl

/-- Calls are made as far as they go: in their order, up to the first one that fails. -/
structure Makes (db : Database) (calls made : List Call) : Prop where
  order : made <+: calls
  /-- Nothing is called behind a call that fails. -/
  stops : ∀ call ∈ made.dropLast, db.failing call = none
  /-- If none fails, no call is left out. -/
  complete : (∀ call ∈ made, db.failing call = none) → made = calls

theorem makes_attempt (db : Database) (calls : List Call) :
    db.Makes calls (db.attempt calls).1 := by
  rcases db.attempt_cases calls with ⟨hall, hmade⟩ | ⟨before, call, after, f, rfl, hbefore, hf, hmade⟩
  · rw [hmade]
    exact ⟨List.prefix_rfl, fun call hcall => hall call (List.dropLast_subset _ hcall), fun _ => rfl⟩
  · rw [hmade]
    refine ⟨⟨after, by simp⟩, ?_, fun hall => ?_⟩
    · rwa [List.dropLast_concat]
    · rw [hall call (by simp)] at hf
      cases hf

/-- The first call is always made. -/
theorem Makes.cons {first : Call} {rest made : List Call} (h : db.Makes (first :: rest) made) :
    ∃ more, made = first :: more ∧ more <+: rest := by
  cases made with
  | nil => cases h.complete (by simp)
  | cons call more =>
    obtain ⟨rfl, hmore⟩ := List.cons_prefix_cons.mp h.order
    exact ⟨more, rfl, hmore⟩

/-- When a call is made, none of the calls that come before it fails. -/
theorem Makes.of_earlier {first later made : List Call} (h : db.Makes (first ++ later) made)
    {call : Call} (hcall : call ∈ made) (hnot : call ∉ first) :
    ∀ earlier ∈ first, db.failing earlier = none := by
  intro earlier hearlier
  rcases List.prefix_or_prefix_of_prefix h.order (List.prefix_append first later) with hmade | hfirst
  · exact absurd (hmade.subset hcall) hnot
  · obtain ⟨more, rfl⟩ := hfirst
    have hmore : more ≠ [] := by
      rintro rfl
      rw [List.append_nil] at hcall
      exact hnot hcall
    refine h.stops earlier ?_
    rw [List.dropLast_append_of_ne_nil hmore]
    exact List.mem_append_left _ hearlier

/-- Calls of two lists are made one list after the other, the second one if nothing in the first one
fails. -/
theorem attempt_append (db : Database) (first second : List Call) :
    db.attempt (first ++ second) =
      match db.attempt first with
      | (made, some f) => (made, some f)
      | (made, none) => (made ++ (db.attempt second).1, (db.attempt second).2) := by
  induction first with
  | nil => rfl
  | cons call rest ih =>
    rw [List.cons_append, attempt, attempt]
    cases db.failing call with
    | some f => rfl
    | none =>
      rw [ih]
      rcases db.attempt rest with ⟨made, _ | f⟩ <;> rfl

end Database

/-- An error of the service that says that its store failed. -/
def Error.IsUnavailable (error : Error) : Prop :=
  ∃ e, error = .service e ∧ e.IsUnavailable

theorem isUnavailable_failed (message : String) : (failed message).IsUnavailable :=
  ⟨_, rfl, ServiceError.isUnavailable_store _ _ _⟩

/-- A start has three ends. Connecting fails, and the store is as connected as before; or a statement
fails behind a connection that was made; or nothing fails. -/
theorem start_cases (dsn : String) (connected : Bool) (db : Database) :
    (∃ f, db.failing (.connect dsn) = some f ∧ (start dsn connected db).calls = [.connect dsn] ∧
        (start dsn connected db).connected = connected ∧
        (start dsn connected db).result = .error (failed f.message)) ∨
      (∃ f, db.failing (.connect dsn) = none ∧ (db.attempt schemaCalls).2 = some f ∧
        (start dsn connected db).calls = .connect dsn :: (db.attempt schemaCalls).1 ∧
        (start dsn connected db).connected = true ∧
        (start dsn connected db).result = .error (failed f.message)) ∨
      (db.failing (.connect dsn) = none ∧ (∀ call ∈ schemaCalls, db.failing call = none) ∧
        (start dsn connected db).calls = .connect dsn :: schemaCalls ∧
        (start dsn connected db).connected = true ∧ (start dsn connected db).result = .ok ()) := by
  unfold start
  cases hconnect : db.failing (.connect dsn) with
  | some f => exact .inl ⟨f, rfl, rfl, rfl, rfl⟩
  | none =>
    refine .inr ?_
    rcases db.attempt_cases schemaCalls with ⟨hall, hmade⟩ | ⟨before, call, after, f, -, -, -, hmade⟩
    · rw [hmade]
      exact .inr ⟨rfl, hall, rfl, rfl, rfl⟩
    · rw [hmade]
      exact .inl ⟨f, rfl, rfl, rfl, rfl, rfl⟩

/-! ## Outcomes -/

namespace Outcome

variable {α : Type}

/-- What an operation comes to that makes calls at a store with a pool: an interruption if one of
them fails, and else what is given. -/
def ending (attempted : List Call × Option Failure) (report : Failure → LogEntry) (message : String)
    (reports : List LogEntry) (result : Except Error α) : Outcome α :=
  match attempted with
  | (made, some f) => .interrupted made f (report f) message
  | (made, none) => ⟨made, reports, true, result⟩

variable {attempted : List Call × Option Failure} {report : Failure → LogEntry} {message : String}
  {reports : List LogEntry} {result : Except Error α}

@[simp]
theorem calls_ending : (ending attempted report message reports result).calls = attempted.1 := by
  obtain ⟨made, _ | ⟨kind, told⟩⟩ := attempted
  · rfl
  · cases kind <;> rfl

@[simp]
theorem connected_ending : (ending attempted report message reports result).connected = true := by
  obtain ⟨made, _ | ⟨kind, told⟩⟩ := attempted
  · rfl
  · cases kind <;> rfl

/-- An operation that makes its calls comes to a result only if none of them fails, and then to the
one that is given. -/
theorem result_of_ending {a : α} (h : (ending attempted report message reports result).result = .ok a) :
    result = .ok a := by
  obtain ⟨made, _ | ⟨kind, told⟩⟩ := attempted
  · exact h
  · cases kind <;> cases h

/-- A result comes only of calls of which none fails. -/
theorem attempted_of_ending {a : α}
    (h : (ending attempted report message reports result).result = .ok a) : attempted.2 = none := by
  obtain ⟨made, _ | ⟨kind, told⟩⟩ := attempted
  · rfl
  · cases kind <;> cases h

end Outcome

/-! ## Loading -/

/-- The row of the form that is asked for, as a record with its id. -/
def formRow (db : Database) : Except RowError (List (Value × Value) × Value) :=
  (recordOfRow db.form).bind fun form =>
    ((Value.need form "id").mapError .read).map (form, ·)

/-- The row of a form is a record that has an id. -/
theorem formRow_eq_ok_iff {db : Database} {row : List (Value × Value)} {id : Value} :
    formRow db = .ok (row, id) ↔ db.form = .map row ∧ Value.need row "id" = .ok id := by
  have hrecord : recordOfRow db.form = .ok row ↔ db.form = .map row := by
    cases db.form <;> simp [recordOfRow]
  rw [← hrecord]
  change (recordOfRow db.form >>= fun form => ((Value.need form "id").mapError .read).map (form, ·)) =
    .ok (row, id) ↔ _
  rw [bind_eq_ok_iff]
  constructor
  · rintro ⟨form, hform, hid⟩
    obtain ⟨id', hid', hpair⟩ := map_eq_ok_iff.mp hid
    obtain ⟨rfl, rfl⟩ := Prod.mk.inj hpair
    exact ⟨hform, mapError_eq_ok_iff.mp hid'⟩
  · rintro ⟨hform, hid⟩
    exact ⟨row, hform, map_eq_ok_iff.mpr ⟨id, mapError_eq_ok_iff.mpr hid, rfl⟩⟩

/-- A row that has an id counts as found. -/
theorem truthy_of_formRow {db : Database} {row : List (Value × Value)} {id : Value}
    (h : formRow db = .ok (row, id)) : db.form.truthy = true := by
  obtain ⟨hrow, hid⟩ := formRow_eq_ok_iff.mp h
  rw [hrow]
  cases row with
  | nil => cases hid
  | cons entry rest => rfl

/-- The calls of a loading. -/
def loadCalls (db : Database) (slug : Value) : List Call :=
  [.transaction, .fetchRow formsTable [slug]] ++
    match db.form.truthy, formRow db with
    | true, .ok (_, id) => [.fetch questionsTable [id], .fetch rulesTable [id]]
    | _, _ => []

/-- What the rows of a loading amount to, with what is reported. -/
def loaded (db : Database) : List LogEntry × Except Error (Option Form) :=
  match db.form.truthy, formRow db with
  | false, _ => ([], .ok none)
  | true, .error e => ([], .error (.row e))
  | true, .ok (form, _) =>
    let (reports, result) := formOfRows form db.questions db.rules
    (reports, (result.map some).mapError .row)

/-- A loading that finds a row goes on with its id, for the questions and then for the rules. -/
theorem loadCalls_of_formRow {db : Database} {slug : Value} {row : List (Value × Value)} {id : Value}
    (h : formRow db = .ok (row, id)) :
    loadCalls db slug = [.transaction, .fetchRow formsTable [slug], .fetch questionsTable [id],
      .fetch rulesTable [id]] := by
  rw [loadCalls, truthy_of_formRow h, h]
  rfl

/-- A loading that finds none asks for nothing else. -/
theorem loadCalls_of_not_truthy {db : Database} {slug : Value} (h : db.form.truthy = false) :
    loadCalls db slug = [.transaction, .fetchRow formsTable [slug]] := by
  rw [loadCalls, h]
  rfl

/-- A loading asks for the row of the form and stops there, or goes on with the id of that row. -/
theorem loadCalls_cases (db : Database) (slug : Value) :
    loadCalls db slug = [.transaction, .fetchRow formsTable [slug]] ∨
      ∃ row id, formRow db = .ok (row, id) ∧
        loadCalls db slug = [.transaction, .fetchRow formsTable [slug], .fetch questionsTable [id],
          .fetch rulesTable [id]] := by
  cases hrow : formRow db with
  | ok found => exact .inr ⟨found.1, found.2, rfl, loadCalls_of_formRow hrow⟩
  | error e =>
    rw [loadCalls, hrow]
    exact .inl (by cases db.form.truthy <;> rfl)

/-- What is true of a transaction and of queries of rows is true of the calls of a loading. -/
theorem forall_mem_loadCalls {P : Call → Prop} (htransaction : P .transaction)
    (hrow : ∀ table arguments, P (.fetchRow table arguments))
    (hrows : ∀ table arguments, P (.fetch table arguments)) (db : Database) (slug : Value) :
    ∀ call ∈ loadCalls db slug, P call := by
  rcases loadCalls_cases db slug with hload | ⟨row, id, -, hload⟩
  · simp [hload, htransaction, hrow]
  · simp [hload, htransaction, hrow, hrows]

/-- What the rows amount to is a form only if there is a row with an id, and then it is made of that
row and all the rows of questions and rules. -/
theorem loaded_eq_some_iff {db : Database} {form : Form} :
    (loaded db).2 = .ok (some form) ↔
      ∃ row id, formRow db = .ok (row, id) ∧ (formOfRows row db.questions db.rules).2 = .ok form := by
  unfold loaded
  constructor
  · intro h
    split at h
    case h_1 => cases h
    case h_2 => cases h
    case h_3 row id _ hrow =>
      obtain ⟨form', hform', hsome⟩ := map_eq_ok_iff.mp (mapError_eq_ok_iff.mp h)
      obtain rfl := Option.some.inj hsome
      exact ⟨row, id, hrow, hform'⟩
  · rintro ⟨row, id, hrow, hform⟩
    rw [truthy_of_formRow hrow, hrow]
    exact mapError_eq_ok_iff.mpr (map_eq_ok_iff.mpr ⟨form, hform, rfl⟩)

/-- The rows amount to no form exactly if there is no row. -/
theorem loaded_eq_none_iff {db : Database} :
    (loaded db).2 = .ok none ↔ db.form.truthy = false := by
  unfold loaded
  constructor
  · intro h
    split at h
    case h_1 hform => exact hform
    case h_2 => cases h
    case h_3 =>
      obtain ⟨form, -, hsome⟩ := map_eq_ok_iff.mp (mapError_eq_ok_iff.mp h)
      cases hsome
  · intro h
    rw [h]

/-- A loading makes its calls, and then reads the rows. -/
theorem getForm_eq (db : Database) (slug : Value) :
    getForm true db slug =
      .ending (db.attempt (loadCalls db slug))
        (fun f =>
          ⟨.error, "Error loading routing form", [("slug", slug), ("error", .text f.message)]⟩)
        ("cannot load form '" ++ slug.toText ++ "'") (loaded db).1 (loaded db).2 := by
  rw [loadCalls, Database.attempt_append]
  unfold getForm loaded
  rcases db.attempt [.transaction, .fetchRow formsTable [slug]] with ⟨asked, _ | f⟩
  · cases db.form.truthy with
    | false => simp [Database.attempt, Outcome.quiet, Outcome.ending]
    | true =>
      have hrow : ((recordOfRow db.form).bind fun form =>
          ((Value.need form "id").mapError RowError.read).map (form, ·)) = formRow db := rfl
      rw [hrow]
      rcases formRow db with e | ⟨form, id⟩
      · simp [Database.attempt, Outcome.quiet, Outcome.ending]
      · dsimp only
        rcases db.attempt [.fetch questionsTable [id], .fetch rulesTable [id]] with
          ⟨fetched, _ | f⟩ <;> rfl
  · rfl

/-- A loading returns what the rows amount to, if none of its calls fails. -/
theorem getForm_eq_ok_iff {slug : Value} {found : Option Form} :
    (getForm true db slug).result = .ok found ↔
      (∀ call ∈ loadCalls db slug, db.failing call = none) ∧ (loaded db).2 = .ok found := by
  rw [getForm_eq]
  constructor
  · intro h
    exact ⟨Database.attempt_eq_none_iff.mp (Outcome.attempted_of_ending h),
      Outcome.result_of_ending h⟩
  · rintro ⟨hall, hfound⟩
    rw [Database.attempt_of_forall hall]
    exact hfound

/-- A loading makes only its calls, and leaves the connection as it was. -/
theorem getForm_frame (connected : Bool) (db : Database) (slug : Value) :
    (∀ call ∈ (getForm connected db slug).calls, call ∈ loadCalls db slug) ∧
      (getForm connected db slug).connected = connected := by
  cases connected with
  | false => exact ⟨fun call hcall => absurd hcall List.not_mem_nil, rfl⟩
  | true =>
    rw [getForm_eq, Outcome.calls_ending, Outcome.connected_ending]
    exact ⟨fun call => Database.mem_of_mem_attempt, rfl⟩

/-! ## Writing -/

/-- A writing of answers that have a JSON form makes its insertion. -/
theorem record_eq {db : Database} {s : Submission} {answers : String}
    (h : Json.write? s.answers = some answers) :
    record true db s =
      .ending (db.attempt [insertion s answers])
        (fun f => ⟨.error, "Error recording submission",
          [("routing_form_id", s.formId), ("error", .text f.message)]⟩)
        "cannot record submission" [] (.ok ()) := by
  rw [record, if_neg (by simp), h]
  dsimp only
  rcases db.attempt [insertion s answers] with ⟨made, _ | f⟩ <;> rfl

/-- A writing of other answers fails before a call is made. -/
theorem record_of_unwritten {db : Database} {s : Submission} (h : Json.write? s.answers = none) :
    record true db s = .quiet true [] (.error .answers) := by
  rw [record, if_neg (by simp), h]

/-- A writing makes no call but its insertion, and leaves the connection as it was. -/
theorem record_frame (connected : Bool) (db : Database) (s : Submission) :
    (∀ call ∈ (record connected db s).calls, ∃ answers, call = insertion s answers) ∧
      (record connected db s).connected = connected := by
  cases connected with
  | false => exact ⟨fun call hcall => absurd hcall List.not_mem_nil, rfl⟩
  | true =>
    cases hanswers : Json.write? s.answers with
    | none =>
      rw [record_of_unwritten hanswers]
      exact ⟨fun call hcall => absurd hcall List.not_mem_nil, rfl⟩
    | some answers =>
      rw [record_eq hanswers, Outcome.calls_ending, Outcome.connected_ending]
      exact ⟨fun call hcall =>
        ⟨answers, List.mem_singleton.mp (Database.mem_of_mem_attempt hcall)⟩, rfl⟩

/-! ## Requests -/

/-- What is asked of a store between its start and its stop. -/
inductive Request where
  | health
  | getForm (slug : Value)
  | record (s : Submission)

/-- The step that asks it, while the database answers in some way. -/
def Request.step (db : Database) : Request → Step
  | .health => .health db
  | .getForm slug => .getForm db slug
  | .record s => .record db s

/-- A step is a start, a stop or a request. -/
theorem Step.start_or_stop_or_request (step : Step) :
    (∃ db, step = .start db) ∨ (∃ db, step = .stop db) ∨
      ∃ (db : Database) (request : Request), step = request.step db := by
  cases step with
  | start db => exact .inl ⟨db, rfl⟩
  | stop db => exact .inr (.inl ⟨db, rfl⟩)
  | health db => exact .inr (.inr ⟨db, .health, rfl⟩)
  | getForm db slug => exact .inr (.inr ⟨db, .getForm slug, rfl⟩)
  | record db s => exact .inr (.inr ⟨db, .record s, rfl⟩)

/-- A request leaves the connection as it was. -/
@[simp]
theorem connected_take_request (dsn : String) (connected : Bool) (db : Database)
    (request : Request) : (take dsn connected (request.step db)).connected = connected := by
  cases request with
  | health => cases connected <;> rfl
  | getForm slug => exact (getForm_frame connected db slug).2
  | record s => exact (record_frame connected db s).2

end FormRouting.Postgres
