import FormRouting.Proofs.Reading
import FormRouting.Proofs.Store.Pool

/-!
# Outages of the database

A request that a store makes of its database ends with the first call that fails. A health check then
answers that the database is not there. A loading or a writing that the database refuses says that
the store is unavailable, but a connection that is lost goes through it as it is
(`lost_connection_goes_through`), though a start and a health check foresee that failure too.

Whichever it was, nothing is left of it: once the database has recovered, after any other requests,
the same request is answered as it should be (`failed_requests_change_nothing`). What it should be
answered depends on what the database holds alone (`Answers`).

What the database refuses is reported with what was asked for. A request that shows an integer with
too many digits there (`Request.isWritable`) ends with the failure to report it.
-/

namespace FormRouting.Postgres

/-- The database when it works: it holds the same, and no call fails. -/
def Database.recovered (db : Database) : Database :=
  { db with failing := fun _ => none }

/-- The answer to a request that a database which works calls for. -/
inductive Answers (db : Database) : Request → StepResult → Prop where
  | health : Answers db .health (.flag true)
  | missing (slug : Value) (h : db.form.truthy = false) : Answers db (.getForm slug) (.form none)
  | found (slug : Value) {row : List (Value × Value)} {form : Form} (hrow : db.form = .map row)
      (hform : (formOfRows row db.questions db.rules).2 = .ok form) :
      Answers db (.getForm slug) (.form (some form))
  | recorded {s : Submission} {answers : String} (h : Json.write? s.answers = some answers) :
      Answers db (.record s) .done

/-- An error that tells of a failure: what the database refuses is an error of the service, which
says that the store is unavailable, and a lost connection is no error of the service. -/
def Failure.IsToldBy (f : Failure) (error : Error) : Prop :=
  match f.kind with
  | .database => error.IsUnavailable
  | .system => error = .failure f

/-- Whether a report of a request can be written. -/
def Request.isWritable : Request → Bool
  | .health => true
  | .getForm slug => slug.isWritable
  | .record s => s.formId.isWritable

/-- What a request ends with when a call of it fails. -/
inductive Tells (f : Failure) : Request → Except Error StepResult → Prop where
  | health : Tells f .health (.ok (.flag false))
  | unreported {request : Request} (hkind : f.kind = .database)
      (hlong : request.isWritable = false) : Tells f request (.error .report)
  | getForm (slug : Value) {error : Error} (h : f.IsToldBy error) :
      Tells f (.getForm slug) (.error error)
  | record (s : Submission) {error : Error} (h : f.IsToldBy error) :
      Tells f (.record s) (.error error)

variable {dsn : String} {db : Database} {call : Call} {f : Failure}

/-! ## Requests that fail -/

/-- An operation of which a call fails ends with an error that tells of it, or that what the database
refuses cannot be reported. -/
theorem ending_tells {α : Type} {calls : List Call} {report : Failure → LogEntry} {message : String}
    {reports : List LogEntry} {result : Except Error α} (hcall : call ∈ (db.attempt calls).1)
    (hf : db.failing call = some f) :
    ∃ error, (Outcome.ending (db.attempt calls) report message reports result).result =
      .error error ∧
        (f.IsToldBy error ∨ f.kind = .database ∧ (report f).isWritable = false ∧ error = .report) := by
  have hfailed := Database.attempt_of_failing hcall hf
  obtain ⟨made, hmade⟩ : ∃ made, db.attempt calls = (made, some f) := ⟨_, Prod.ext rfl hfailed⟩
  rw [hmade]
  obtain ⟨kind, told⟩ := f
  cases kind with
  | database =>
    refine ⟨_, rfl, ?_⟩
    cases hreport : (report ⟨.database, told⟩).isWritable with
    | true => exact .inl (isUnavailable_failed message)
    | false => exact .inr ⟨rfl, rfl, rfl⟩
  | system => exact ⟨.failure ⟨.system, told⟩, rfl, .inl rfl⟩

/-- A loading of which a call fails tells of it. -/
theorem getForm_tells {slug : Value} (hcall : call ∈ (getForm true db slug).calls)
    (hf : db.failing call = some f) :
    Tells f (.getForm slug) ((getForm true db slug).result.map .form) := by
  rw [getForm_eq, Outcome.calls_ending] at hcall
  rw [getForm_eq]
  obtain ⟨error, herror, htold | ⟨hkind, hlong, rfl⟩⟩ := ending_tells hcall hf
  · rw [herror]
    exact .getForm slug htold
  · rw [herror]
    refine .unreported hkind ?_
    simpa [LogEntry.isWritable, Request.isWritable] using hlong

/-- A writing of which the insertion fails tells of it. -/
theorem record_tells {s : Submission} (hcall : call ∈ (record true db s).calls)
    (hf : db.failing call = some f) :
    Tells f (.record s) ((record true db s).result.map fun _ => .done) := by
  cases hanswers : Json.write? s.answers with
  | none =>
    rw [record_of_unwritten hanswers] at hcall
    exact absurd hcall List.not_mem_nil
  | some answers =>
    rw [record_eq hanswers, Outcome.calls_ending] at hcall
    rw [record_eq hanswers]
    obtain ⟨error, herror, htold | ⟨hkind, hlong, rfl⟩⟩ := ending_tells hcall hf
    · rw [herror]
      exact .record s htold
    · rw [herror]
      refine .unreported hkind ?_
      simpa [LogEntry.isWritable, Request.isWritable] using hlong

/-- A request of which a call fails tells of it. -/
theorem take_tells (dsn : String) {request : Request}
    (hcall : call ∈ (take dsn true (request.step db)).calls) (hf : db.failing call = some f) :
    Tells f request (take dsn true (request.step db)).result := by
  cases request with
  | health =>
    obtain rfl : call = probe := List.mem_singleton.mp hcall
    change Tells f .health (.ok (.flag (db.failing probe).isNone))
    rw [hf]
    exact .health
  | getForm slug => exact getForm_tells hcall hf
  | record s => exact record_tells hcall hf

/-! ## Requests that do not -/

/-- A loading whose calls do not fail answers what the rows amount to. -/
theorem result_getForm_recovered (db : Database) (slug : Value) :
    (getForm true db.recovered slug).result = (loaded db).2 := by
  rw [getForm_eq, Database.attempt_of_forall (fun _ _ => rfl)]
  rfl

/-- Of a row without an id no form is made. -/
theorem exists_id_of_form {row : List (Value × Value)} {questions rules : List Value} {form : Form}
    (hform : (formOfRows row questions rules).2 = .ok form) :
    ∃ id, Value.need row "id" = .ok id := by
  unfold formOfRows at hform
  split at hform
  · cases hform
  · split at hform
    · cases hform
    · -- The questions and the records of the rules are read, so the form is assembled.
      rw [mapError_eq_ok_iff] at hform
      obtain ⟨kept, -, hassemble⟩ := bind_eq_ok_iff.mp hform
      obtain ⟨id, hid, -⟩ := bind_eq_ok_iff.mp hassemble
      exact ⟨id, hid⟩

/-- Rows of which a form is made amount to it. -/
theorem loaded_of_form {row : List (Value × Value)} {form : Form} (hrow : db.form = .map row)
    (hform : (formOfRows row db.questions db.rules).2 = .ok form) :
    (loaded db).2 = .ok (some form) := by
  obtain ⟨id, hid⟩ := exists_id_of_form hform
  exact loaded_eq_some_iff.mpr ⟨row, id, formRow_eq_ok_iff.mpr ⟨hrow, hid⟩, hform⟩

/-- A request is answered as it should be when the database works. -/
theorem take_recovered (dsn : String) {request : Request} {answer : StepResult}
    (h : Answers db request answer) :
    (take dsn true (request.step db.recovered)).result = .ok answer := by
  cases h with
  | health => rfl
  | missing slug h =>
    change (getForm true db.recovered slug).result.map StepResult.form = _
    rw [result_getForm_recovered, loaded, h]
    rfl
  | found slug hrow hform =>
    change (getForm true db.recovered slug).result.map StepResult.form = _
    rw [result_getForm_recovered, loaded_of_form hrow hform]
    rfl
  | @recorded s answers h =>
    change (record true db.recovered s).result.map (fun _ => StepResult.done) = _
    rw [record_eq h, Database.attempt_of_forall (fun _ _ => rfl)]
    rfl

/-! ## Outages -/

/-- The steps of requests, each with what the database answers to it. -/
def asked (requests : List (Database × Request)) : List Step :=
  requests.map fun asked => asked.2.step asked.1

/-- Requests leave the pool that is held. -/
theorem heldAfter_asked (held : Bool) (requests : List (Database × Request)) :
    heldAfter dsn held (asked requests) = held := by
  induction requests with
  | nil => rfl
  | cons first rest ih =>
    calc heldAfter dsn held (asked (first :: rest))
        = heldAfter dsn (take dsn held (first.2.step first.1)).connected (asked rest) := rfl
      _ = heldAfter dsn held (asked rest) := by rw [connected_take_request]
      _ = held := ih

/-- A request to a store that holds a pool of which a call fails: what it ends with tells of the
failure, and nothing else comes of it. Whatever is asked after it and however that ends, the store
holds its pool, and the same request is answered as it should be once the database works. -/
theorem failed_requests_change_nothing (dsn : String) {db : Database} {request : Request}
    {call : Call} {f : Failure} (hcall : call ∈ (take dsn true (request.step db)).calls)
    (hf : db.failing call = some f) :
    Tells f request (take dsn true (request.step db)).result ∧
      ∀ later, heldAfter dsn true (asked ((db, request) :: later)) = true ∧
        ∀ answer, Answers db request answer →
          (take dsn (heldAfter dsn true (asked ((db, request) :: later)))
            (request.step db.recovered)).result = .ok answer := by
  refine ⟨take_tells dsn hcall hf, fun later => ?_⟩
  have hheld : heldAfter dsn true (asked ((db, request) :: later)) = true :=
    heldAfter_asked true _
  refine ⟨hheld, fun answer hanswer => ?_⟩
  rw [hheld]
  exact take_recovered dsn hanswer

/-- The row of a form. -/
def shopRow : List (Value × Value) :=
  [(.text "id", .int 1), (.text "slug", .text "shop"), (.text "title", .text "Shop"),
    (.text "description", .null), (.text "is_active", .bool true), (.text "owner_name", .null)]

/-- A database with a form, in which some calls fail. -/
def shop (failing : Call → Option Failure) : Database where
  failing
  form := .map shopRow
  questions := []
  rules := []

/-- The rows of rules are refused when they are asked for, after those of the form and its questions
were read. -/
theorem failed_requests_change_nothing_rules :
    let refused : Failure := ⟨.database, "no permission"⟩
    let db := shop fun call =>
      match call with
      | .fetch table _ => if table = rulesTable then some refused else none
      | _ => none
    (∃ error, (take "" true (.getForm db (.text "shop"))).result = .error error ∧
        error.IsUnavailable) ∧
      ∃ form, (take "" (heldAfter "" true (asked [(db, .getForm (.text "shop")), (db, .health)]))
          (.getForm db.recovered (.text "shop"))).result = .ok (.form (some form)) ∧
        form.title = .text "Shop" := by
  intro refused db
  have hcall : Call.fetch rulesTable [.int 1] ∈
      (take "" true (Request.step db (.getForm (.text "shop")))).calls :=
    .tail _ (.tail _ (.tail _ (.head _)))
  obtain ⟨htells, hlater⟩ := failed_requests_change_nothing "" hcall rfl
  constructor
  · cases htells with
    | getForm slug htold => exact ⟨_, rfl, htold⟩
  · obtain ⟨-, hanswers⟩ := hlater [(db, .health)]
    exact ⟨_, hanswers _ (.found _ rfl rfl), rfl⟩

/-- A submission without answers. -/
def emptySubmission : Submission :=
  ⟨.int 1, .map [], .text "no_match", .null, .null, .null, .null⟩

/-- When the connection is lost, a loading and a writing fail with that, and not with an error that
says that the store is unavailable. A start does say so, and a health check fails. -/
theorem lost_connection_goes_through :
    let lost : Failure := ⟨.system, "lost"⟩
    let db := shop fun _ => some lost
    (getForm true db (.text "shop")).result = .error (.failure lost) ∧
      (record true db emptySubmission).result = .error (.failure lost) ∧
      ¬(Error.failure lost).IsUnavailable ∧
      (health true db).result = .ok false ∧ (start "" true db).result = .error (failed "lost") := by
  refine ⟨rfl, rfl, ?_, rfl, rfl⟩
  rintro ⟨e, he, -⟩
  cases he

end FormRouting.Postgres
