import FormRouting.Proofs.Store.Pool

/-!
# How a database is accessed

What a store asks of its database, over any run of steps, whatever rows come back and whichever calls
fail (`database_is_accessed_in_order`).

Each step has calls that it sets out to make, which depend on whether the store holds a pool and on
the row of the form (`Step.plan`), and it makes these and no others, up to the first one that fails
(`makes_take`). So which step makes which call is a matter of the plans, and that only the last call
of a step can fail is one of `Database.Makes`. What a loading returns is the other matter: a form
only behind four calls of which none failed, and no form only if there was no row
(`readsForm_getForm`).

A run keeps to an order if each step does (`Along`), at a store that holds a pool or not as the step
before it left it.
-/

namespace FormRouting.Postgres

/-! ## Calls -/

/-- A call executes a statement that begins with a word. -/
def Call.executes (word : String) : Call → Bool
  | .execute statement _ => word.toList.isPrefixOf statement.toList
  | _ => false

/-- A call puts a row into a table. -/
def Call.inserts : Call → Bool :=
  Call.executes "INSERT"

/-- A call creates a table or an index. -/
def Call.creates : Call → Bool :=
  Call.executes "CREATE"

/-- A call opens a transaction that sees one state of the database and changes nothing. -/
structure Call.OpensSnapshot (call : Call) : Prop where
  transaction : call = .transaction
  isolation : ("isolation", .text "repeatable_read") ∈ call.options
  readonly : ("readonly", .bool true) ∈ call.options

theorem opensSnapshot_transaction : Call.transaction.OpensSnapshot :=
  ⟨rfl, .head _, .tail _ (.head _)⟩

/-- The calls that a step sets out to make. -/
def Step.plan (dsn : String) (held : Bool) : Step → List Call
  | .start _ => .connect dsn :: schemaCalls
  | .stop _ => if held then [.close] else []
  | .health _ => if held then [probe] else []
  | .getForm db slug => if held then loadCalls db slug else []
  | .record _ s => if held then ((Json.write? s.answers).map (insertion s)).toList else []

variable {dsn : String} {held : Bool} {db : Database}

/-- A step makes the calls of its plan, up to the first one that fails. -/
theorem calls_take (dsn : String) (held : Bool) (step : Step) :
    (take dsn held step).calls = (step.database.attempt (step.plan dsn held)).1 := by
  cases step with
  | start db =>
    change (start dsn held db).calls = (db.attempt (.connect dsn :: schemaCalls)).1
    rw [Database.attempt]
    rcases start_cases dsn held db with ⟨f, hf, h, -⟩ | ⟨f, hok, -, h, -⟩ | ⟨hok, hall, h, -⟩
    · rw [h, hf]
    · rw [h, hok]
    · rw [h, hok, Database.attempt_of_forall hall]
  | stop db =>
    cases held with
    | false => rfl
    | true =>
      change (stop true db).calls = (db.attempt [.close]).1
      rw [Database.attempt_singleton, stop]
      cases db.failing .close <;> rfl
  | health db =>
    cases held with
    | false => rfl
    | true => exact (Database.attempt_singleton db probe).symm
  | getForm db slug =>
    cases held with
    | false => rfl
    | true =>
      change (getForm true db slug).calls = (db.attempt (loadCalls db slug)).1
      rw [getForm_eq, Outcome.calls_ending]
  | record db s =>
    cases held with
    | false => rfl
    | true =>
      change (record true db s).calls =
        (db.attempt ((Json.write? s.answers).map (insertion s)).toList).1
      cases hanswers : Json.write? s.answers with
      | none => rw [record_of_unwritten hanswers]; rfl
      | some answers => rw [record_eq hanswers, Outcome.calls_ending]; rfl

theorem makes_take (dsn : String) (held : Bool) (step : Step) :
    step.database.Makes (step.plan dsn held) (take dsn held step).calls := by
  rw [calls_take]
  exact Database.makes_attempt _ _

/-- Only what is planned is called. -/
theorem mem_plan_of_mem_calls {step : Step} {call : Call}
    (h : call ∈ (take dsn held step).calls) : call ∈ step.plan dsn held :=
  (makes_take dsn held step).order.subset h

/-! ## Loading -/

/-- What is called to load a form at a store that holds a pool, and what the loading returns. -/
structure ReadsForm (db : Database) (slug : Value) (calls : List Call)
    (result : Except Error StepResult) : Prop where
  /-- A transaction is opened before anything is read, and no other one after that. -/
  opens : ∃ first reads, calls = first :: reads ∧ first.OpensSnapshot ∧ Call.transaction ∉ reads
  /-- The row of the form is read, then questions by an id, and then rules by the same one. -/
  order : ∃ id, calls <+: [.transaction, .fetchRow formsTable [slug], .fetch questionsTable [id],
    .fetch rulesTable [id]]
  /-- Questions and rules are read only after a row was, and by the id of that row. -/
  found : ∀ table arguments, .fetch table arguments ∈ calls →
    db.failing (.fetchRow formsTable [slug]) = none ∧
      ∃ row id, db.form = .map row ∧ Value.need row "id" = .ok id ∧ arguments = [id]
  /-- A form is returned exactly if nothing failed, and it is made of all the rows. -/
  whole : ∀ form, result = .ok (.form (some form)) ↔
    ∃ row id, db.form = .map row ∧ Value.need row "id" = .ok id ∧
      calls = [.transaction, .fetchRow formsTable [slug], .fetch questionsTable [id],
        .fetch rulesTable [id]] ∧
      (∀ call ∈ calls, db.failing call = none) ∧
      (formOfRows row db.questions db.rules).2 = .ok form
  /-- No form is returned exactly if nothing failed and there is no row. -/
  missing : result = .ok (.form none) ↔
    calls = [.transaction, .fetchRow formsTable [slug]] ∧
      (∀ call ∈ calls, db.failing call = none) ∧ db.form.truthy = false

/-- What a loading returns is taken over into the result of the step. -/
theorem take_getForm_eq_ok_iff {slug : Value} {found : Option Form} :
    (take dsn true (.getForm db slug)).result = .ok (.form found) ↔
      (∀ call ∈ loadCalls db slug, db.failing call = none) ∧ (loaded db).2 = .ok found := by
  rw [← getForm_eq_ok_iff]
  change (getForm true db slug).result.map StepResult.form = _ ↔ _
  rw [map_eq_ok_iff]
  constructor
  · rintro ⟨found', h, hform⟩
    obtain rfl := StepResult.form.inj hform
    exact h
  · exact fun h => ⟨found, h, rfl⟩

section

variable {slug : Value} {calls : List Call}

/-- Of the calls of a loading the first one opens the transaction. -/
theorem opens_of_makes (h : db.Makes (loadCalls db slug) calls) :
    ∃ first reads, calls = first :: reads ∧ first.OpensSnapshot ∧ Call.transaction ∉ reads := by
  have hplan : ∃ reads, loadCalls db slug = .transaction :: reads ∧ Call.transaction ∉ reads := by
    rcases loadCalls_cases db slug with hload | ⟨row, id, -, hload⟩
    · exact ⟨_, hload, by simp⟩
    · exact ⟨_, hload, by simp⟩
  obtain ⟨reads, hload, hreads⟩ := hplan
  rw [hload] at h
  obtain ⟨made, rfl, hmade⟩ := h.cons
  exact ⟨.transaction, made, rfl, opensSnapshot_transaction, fun hmem => hreads (hmade.subset hmem)⟩

/-- The calls of a loading come in a fixed order. -/
theorem order_of_makes (h : db.Makes (loadCalls db slug) calls) :
    ∃ id, calls <+: [.transaction, .fetchRow formsTable [slug], .fetch questionsTable [id],
      .fetch rulesTable [id]] := by
  rcases loadCalls_cases db slug with hload | ⟨row, id, -, hload⟩
  · refine ⟨.null, h.order.trans ?_⟩
    rw [hload]
    exact List.prefix_append [Call.transaction, .fetchRow formsTable [slug]] _
  · exact ⟨id, hload ▸ h.order⟩

/-- Rows of questions and rules are asked for by the id of the row that was found. -/
theorem found_of_makes (h : db.Makes (loadCalls db slug) calls) {table : String}
    {arguments : List Value} (hfetch : .fetch table arguments ∈ calls) :
    db.failing (.fetchRow formsTable [slug]) = none ∧
      ∃ row id, db.form = .map row ∧ Value.need row "id" = .ok id ∧ arguments = [id] := by
  have hplanned := h.order.subset hfetch
  rcases loadCalls_cases db slug with hload | ⟨row, id, hrow, hload⟩
  · rw [hload] at hplanned
    simp at hplanned
  · rw [hload] at h hplanned
    have hsplit : db.Makes ([.transaction, .fetchRow formsTable [slug]] ++
        [.fetch questionsTable [id], .fetch rulesTable [id]]) calls := h
    obtain ⟨hform, hid⟩ := formRow_eq_ok_iff.mp hrow
    refine ⟨hsplit.of_earlier hfetch (by simp) _ (by simp), row, id, hform, hid, ?_⟩
    simp only [List.mem_cons, Call.fetch.injEq, List.not_mem_nil, or_false, reduceCtorEq,
      false_or] at hplanned
    rcases hplanned with ⟨-, harguments⟩ | ⟨-, harguments⟩
    · exact harguments
    · exact harguments

end

theorem readsForm_getForm (dsn : String) (db : Database) (slug : Value) :
    ReadsForm db slug (take dsn true (.getForm db slug)).calls
      (take dsn true (.getForm db slug)).result := by
  have hmakes : db.Makes (loadCalls db slug) (take dsn true (.getForm db slug)).calls :=
    makes_take dsn true (.getForm db slug)
  have hresult (found : Option Form) := @take_getForm_eq_ok_iff dsn db slug found
  generalize (take dsn true (.getForm db slug)).calls = calls at hmakes ⊢
  -- None of the calls that are planned fails exactly if they are all made and none of those fails.
  have hall : (∀ call ∈ loadCalls db slug, db.failing call = none) ↔
      calls = loadCalls db slug ∧ ∀ call ∈ calls, db.failing call = none := by
    constructor
    · intro h
      have hmade : ∀ call ∈ calls, db.failing call = none := fun call hcall =>
        h call (hmakes.order.subset hcall)
      exact ⟨hmakes.complete hmade, hmade⟩
    · rintro ⟨rfl, h⟩
      exact h
  refine ⟨opens_of_makes hmakes, order_of_makes hmakes,
    fun table arguments => found_of_makes hmakes, fun form => ?_, ?_⟩
  · rw [hresult, loaded_eq_some_iff, hall]
    constructor
    · rintro ⟨⟨rfl, hmade⟩, row, id, hrow, hform⟩
      obtain ⟨hrecord, hid⟩ := formRow_eq_ok_iff.mp hrow
      exact ⟨row, id, hrecord, hid, loadCalls_of_formRow hrow, hmade, hform⟩
    · rintro ⟨row, id, hrecord, hid, hcalls, hmade, hform⟩
      have hrow := formRow_eq_ok_iff.mpr ⟨hrecord, hid⟩
      exact ⟨⟨hmakes.complete hmade, hmade⟩, row, id, hrow, hform⟩
  · rw [hresult, loaded_eq_none_iff, hall]
    constructor
    · rintro ⟨⟨rfl, hmade⟩, hnone⟩
      exact ⟨loadCalls_of_not_truthy hnone, hmade, hnone⟩
    · rintro ⟨-, hmade, hnone⟩
      exact ⟨⟨hmakes.complete hmade, hmade⟩, hnone⟩

/-! ## Steps -/

/-- The rows that a step inserts: one if it is a writing that gets to the connection. Its answers are
brought into their JSON form first, and may have none. -/
def inserted (held : Bool) : Step → ℕ
  | .record _ s => (held && (Json.write? s.answers).isSome).toNat
  | _ => 0

/-- The order that a step keeps to, at a store that holds a pool or does not. -/
structure InOrder (dsn : String) (held : Bool) (step : Step) (outcome : Outcome StepResult) :
    Prop where
  /-- Nothing is called behind a call that fails. -/
  stops : ∀ call ∈ outcome.calls.dropLast, step.database.failing call = none
  /-- Without a pool only a start gets to the database, and no loading returns. -/
  unconnected : held = false → (∀ db, step ≠ .start db) →
    outcome.calls = [] ∧ ∀ found, outcome.result ≠ .ok (.form found)
  loads : held = true → ∀ db slug, step = .getForm db slug →
    ReadsForm db slug outcome.calls outcome.result
  inserts : outcome.calls.countP Call.inserts = inserted held step
  /-- A writing inserts its row exactly if it gets to the connection at all. -/
  records : ∀ db s, step = .record db s → (outcome.calls ≠ [] ↔ inserted held step = 1)
  /-- Tables are created only by a start, one after the other up to the first failure. -/
  creates : ∀ call ∈ outcome.calls, call.creates → ∃ db, step = .start db
  starts : ∀ db, step = .start db → db.Makes (.connect dsn :: schemaCalls) outcome.calls
  /-- A pool comes and goes only by a start or a stop. -/
  pool : outcome.connected ≠ held → (∃ db, step = .start db) ∨ ∃ db, step = .stop db

/-- A loading executes no statement. -/
theorem executes_of_mem_loadCalls {slug : Value} {call : Call} (h : call ∈ loadCalls db slug)
    (word : String) : call.executes word = false :=
  forall_mem_loadCalls (P := fun call => call.executes word = false) rfl
    (fun _ _ => rfl) (fun _ _ => rfl) db slug call h

/-- Without a pool only a start sets out to call anything. -/
theorem held_of_mem_plan {step : Step} {call : Call} (hstart : ∀ db, step ≠ .start db)
    (h : call ∈ step.plan dsn held) : held = true := by
  cases held with
  | true => rfl
  | false =>
    cases step with
    | start db => exact absurd rfl (hstart db)
    | _ => exact absurd h List.not_mem_nil

/-- What a step plans to create, it plans as a start, and what it plans to insert, as a writing. -/
theorem kinds_of_mem_plan {step : Step} {call : Call} (h : call ∈ step.plan dsn held) :
    (call.creates → ∃ db, step = .start db) ∧ (call.inserts → ∃ db s, step = .record db s) := by
  have hheld (hstart : ∀ db, step ≠ .start db) : held = true := held_of_mem_plan hstart h
  cases step with
  | start db =>
    have hnone : ∀ call ∈ .connect dsn :: schemaCalls, call.inserts = false :=
      List.forall_mem_cons.mpr ⟨rfl, by decide⟩
    exact ⟨fun _ => ⟨db, rfl⟩, fun hinserts => by simp [hnone call h] at hinserts⟩
  | record db s =>
    obtain rfl := hheld nofun
    obtain ⟨answers, -, rfl⟩ := Option.map_eq_some_iff.mp (Option.mem_toList.mp h)
    exact ⟨nofun, fun _ => ⟨db, s, rfl⟩⟩
  | getForm db slug =>
    obtain rfl := hheld nofun
    have hnone := executes_of_mem_loadCalls h
    exact ⟨fun hcreates => by simp [Call.creates, hnone] at hcreates,
      fun hinserts => by simp [Call.inserts, hnone] at hinserts⟩
  | stop db =>
    obtain rfl := hheld nofun
    rw [List.mem_singleton.mp h]
    exact ⟨nofun, nofun⟩
  | health db =>
    obtain rfl := hheld nofun
    rw [List.mem_singleton.mp h]
    exact ⟨nofun, nofun⟩

/-- A writing calls for its insertion alone, if it gets to the connection. -/
theorem calls_record (dsn : String) (held : Bool) (db : Database) (s : Submission) :
    (take dsn held (.record db s)).calls = Step.plan dsn held (.record db s) := by
  rw [calls_take, Step.plan]
  cases held with
  | false => rfl
  | true =>
    cases Json.write? s.answers with
    | none => rfl
    | some answers => exact Database.attempt_singleton _ _

theorem countP_inserts_take (dsn : String) (held : Bool) (step : Step) :
    (take dsn held step).calls.countP Call.inserts = inserted held step := by
  by_cases hrecord : ∃ db s, step = .record db s
  · obtain ⟨db, s, rfl⟩ := hrecord
    rw [calls_record, Step.plan, inserted]
    cases held with
    | false => rfl
    | true => cases Json.write? s.answers <;> rfl
  · have hnone : inserted held step = 0 := by
      cases step with
      | record db s => exact absurd ⟨db, s, rfl⟩ hrecord
      | _ => rfl
    rw [hnone, List.countP_eq_zero]
    exact fun call hcall hinserts =>
      hrecord ((kinds_of_mem_plan (mem_plan_of_mem_calls hcall)).2 hinserts)

/-- Without a pool only a start gets to the database. -/
theorem unconnected_take {step : Step} (h : ∀ db, step ≠ .start db) :
    (take dsn false step).calls = [] ∧ ∀ found, (take dsn false step).result ≠ .ok (.form found) := by
  cases step with
  | start db => exact absurd rfl (h db)
  | _ => exact ⟨rfl, nofun⟩

/-- Every step keeps to the order. -/
theorem inOrder_take (dsn : String) (held : Bool) (step : Step) :
    InOrder dsn held step (take dsn held step) where
  stops := (makes_take dsn held step).stops
  unconnected := by
    rintro rfl
    exact unconnected_take
  loads := by
    rintro rfl db slug rfl
    exact readsForm_getForm dsn db slug
  inserts := countP_inserts_take dsn held step
  records := by
    rintro db s rfl
    rw [calls_record, Step.plan, inserted]
    cases held with
    | false => simp
    | true => cases Json.write? s.answers <;> simp
  creates call hcall := (kinds_of_mem_plan (mem_plan_of_mem_calls hcall)).1
  starts := by
    rintro db rfl
    exact makes_take dsn held (.start db)
  pool := by
    rcases step.start_or_stop_or_request with hstart | hstop | ⟨db, request, rfl⟩
    · exact fun _ => .inl hstart
    · exact fun _ => .inr hstop
    · exact fun hchanged => absurd (connected_take_request dsn held db request) hchanged

/-! ## Runs -/

/-- Each step of a run keeps to something, at a store that holds a pool or not as the step before it
left it. -/
inductive Along (P : Bool → Step → Outcome StepResult → Prop) :
    Bool → List Step → List (Outcome StepResult) → Prop where
  | nil (held : Bool) : Along P held [] []
  | cons {held : Bool} {step : Step} {outcome : Outcome StepResult} {rest : List Step}
      {outcomes : List (Outcome StepResult)} (hstep : P held step outcome)
      (hrest : Along P outcome.connected rest outcomes) :
      Along P held (step :: rest) (outcome :: outcomes)

/-- What every step keeps to, every run does. -/
theorem along_run {P : Bool → Step → Outcome StepResult → Prop}
    (h : ∀ held step, P held step (take dsn held step)) (held : Bool) (steps : List Step) :
    Along P held steps (run dsn held steps) := by
  induction steps generalizing held with
  | nil => exact .nil held
  | cons step rest ih => exact .cons (h held step) (ih _)

/-- The rows that a run inserts are those that its steps do. -/
theorem countP_inserts_run (dsn : String) (held : Bool) (steps : List Step) :
    ((run dsn held steps).flatMap Outcome.calls).countP Call.inserts =
      total dsn inserted held steps := by
  induction steps generalizing held with
  | nil => rfl
  | cons step rest ih =>
    rw [run, List.flatMap_cons, List.countP_append, countP_inserts_take, ih, total]

/-- Whatever steps are taken on a store, whatever rows its database returns and whichever calls fail:
each step keeps to the order, and the rows that are inserted are one for each writing that gets to
the connection. -/
theorem database_is_accessed_in_order (dsn : String) (held : Bool) (steps : List Step) :
    Along (InOrder dsn) held steps (run dsn held steps) ∧
      ((run dsn held steps).flatMap Outcome.calls).countP Call.inserts =
        total dsn inserted held steps :=
  ⟨along_run (inOrder_take dsn) held steps, countP_inserts_run dsn held steps⟩

end FormRouting.Postgres
