import FormRouting.Proofs.Store.Calls
import Mathlib.Data.Bool.Basic

/-!
# The pool of a database store

A store opens a pool of connections when it starts, and closes it when it stops. Over any run, every
pool that was opened is closed, or the store holds it, or it was dropped: a start opened another one
in its place (`pools_are_held_closed_or_dropped`). So the pools that are open are the one that the
store holds, exactly as long as no start that can connect finds a pool held.

A start that fails behind its connection brings this about. It leaves the store with a pool, and the
start that is tried next drops that one (`failed_start_keeps_pool`).

The numbers of pools are sums over the steps of a run (`total`), and `balance_take` is what one step
does to them. A start, a stop and the other steps have a lemma each that says what they open, close
and leave (`pools_start`, `pools_stop`, `pools_request`); nothing else looks into a step.
-/

namespace FormRouting.Postgres

/-! ## What a step does to pools -/

/-- A call opens a pool, if it does not fail. -/
def Call.opens : Call → Bool
  | .connect _ => true
  | _ => false

/-- A call closes a pool, if it does not fail. -/
def Call.closes : Call → Bool
  | .close => true
  | _ => false

variable (dsn : String)

/-- The number of calls of some kind that a step makes and that do not fail, at a store that holds a
pool or does not. -/
def succeeding (kind : Call → Bool) (held : Bool) (step : Step) : ℕ :=
  (take dsn held step).calls.countP fun call =>
    kind call && (step.database.failing call).isNone

/-- The number of pools that a step opens. -/
def opened (held : Bool) (step : Step) : ℕ :=
  succeeding dsn Call.opens held step

/-- The number of pools that a step closes. -/
def closed (held : Bool) (step : Step) : ℕ :=
  succeeding dsn Call.closes held step

/-- The number of pools that a step drops: one that is held while another one is opened is dropped. -/
def dropped (held : Bool) (step : Step) : ℕ :=
  if held then opened dsn held step else 0

/-- Whether the store holds a pool after steps. -/
def heldAfter (held : Bool) (steps : List Step) : Bool :=
  steps.foldl (fun held step => (take dsn held step).connected) held

/-- The sum of what the steps of a run add, which depends on whether a pool is held before them. -/
def total (number : Bool → Step → ℕ) (held : Bool) : List Step → ℕ
  | [] => 0
  | step :: rest => number held step + total number (take dsn held step).connected rest

variable {dsn} {held : Bool} {db : Database}

theorem succeeding_eq_zero {kind : Call → Bool} {step : Step}
    (h : ∀ call ∈ (take dsn held step).calls, kind call = false) :
    succeeding dsn kind held step = 0 := by
  rw [succeeding, List.countP_eq_zero]
  intro call hcall
  simp [h call hcall]

/-- A start counts by its connecting alone, as its statements have nothing to do with pools. -/
theorem succeeding_start {kind : Call → Bool} (hkind : ∀ call ∈ schemaCalls, kind call = false) :
    succeeding dsn kind held (.start db) =
      (kind (.connect dsn) && (db.failing (.connect dsn)).isNone).toNat := by
  -- However the start ends, what it does after connecting are statements.
  have hcalls : ∃ made, (∀ call ∈ made, kind call = false) ∧
      (take dsn held (.start db)).calls = .connect dsn :: made := by
    rcases start_cases dsn held db with ⟨f, -, h, -⟩ | ⟨f, -, -, h, -⟩ | ⟨-, -, h, -⟩
    · exact ⟨[], by simp, h⟩
    · exact ⟨_, fun call hcall => hkind call (Database.mem_of_mem_attempt hcall), h⟩
    · exact ⟨_, hkind, h⟩
  obtain ⟨made, hmade, hcalls⟩ := hcalls
  have hnone : made.countP (fun call => kind call && (db.failing call).isNone) = 0 := by
    rw [List.countP_eq_zero]
    intro call hcall
    simp [hmade call hcall]
  rw [succeeding, hcalls, Step.database, List.countP_cons, hnone, Nat.zero_add]
  split_ifs with hconnect
  · rw [hconnect]
    rfl
  · rw [Bool.eq_false_iff.mpr hconnect]
    rfl

/-- A start opens a pool if it can connect, whatever happens to its statements, and then the store
holds that one. -/
theorem pools_start (held : Bool) (db : Database) :
    opened dsn held (.start db) = (db.failing (.connect dsn)).isNone.toNat ∧
      closed dsn held (.start db) = 0 ∧
      (take dsn held (.start db)).connected = (held || (db.failing (.connect dsn)).isNone) := by
  refine ⟨succeeding_start (by decide), succeeding_start (by decide), ?_⟩
  change (start dsn held db).connected = _
  rcases start_cases dsn held db with ⟨f, hf, -, h, -⟩ | ⟨f, hok, -, -, h, -⟩ | ⟨hok, -, -, h, -⟩
  · simpa [hf] using h
  · simpa [hok] using h
  · simpa [hok] using h

/-- A stop closes the pool that is held, and it is held no more. -/
theorem pools_stop (held : Bool) (db : Database) :
    opened dsn held (.stop db) = 0 ∧
      closed dsn held (.stop db) = (held && (db.failing .close).isNone).toNat ∧
      (take dsn held (.stop db)).connected = (held && (db.failing .close).isSome) := by
  cases held with
  | false => exact ⟨rfl, rfl, rfl⟩
  | true =>
    cases hclose : db.failing .close <;>
      simp [opened, closed, succeeding, take, stop, Outcome.map, Outcome.quiet, Step.database,
        Call.opens, Call.closes, hclose]

/-- A loading has nothing to do with pools. -/
theorem pools_loadCalls {slug : Value} {call : Call} (h : call ∈ loadCalls db slug) :
    call.opens = false ∧ call.closes = false :=
  forall_mem_loadCalls (P := fun call => call.opens = false ∧ call.closes = false) ⟨rfl, rfl⟩
    (fun _ _ => ⟨rfl, rfl⟩) (fun _ _ => ⟨rfl, rfl⟩) db slug call h

/-- A request leaves pools alone. -/
theorem pools_request (held : Bool) (db : Database) (request : Request) :
    opened dsn held (request.step db) = 0 ∧ closed dsn held (request.step db) = 0 := by
  have hframe : ∀ call ∈ (take dsn held (request.step db)).calls,
      call.opens = false ∧ call.closes = false := by
    intro call hcall
    cases request with
    | health =>
      have hprobe : call ∈ [probe] := by
        cases held with
        | false => exact absurd hcall List.not_mem_nil
        | true => exact hcall
      rw [List.mem_singleton.mp hprobe]
      exact ⟨rfl, rfl⟩
    | getForm slug => exact pools_loadCalls ((getForm_frame held db slug).1 call hcall)
    | record s =>
      obtain ⟨answers, rfl⟩ := (record_frame held db s).1 call hcall
      exact ⟨rfl, rfl⟩
  exact ⟨succeeding_eq_zero fun call hcall => (hframe call hcall).1,
    succeeding_eq_zero fun call hcall => (hframe call hcall).2⟩

/-- What a step does to pools: the one that was held and those that it opens are closed, held
afterwards or dropped. -/
theorem balance_take (held : Bool) (step : Step) :
    held.toNat + opened dsn held step =
      closed dsn held step + (take dsn held step).connected.toNat + dropped dsn held step := by
  rw [dropped]
  rcases step.start_or_stop_or_request with ⟨db, rfl⟩ | ⟨db, rfl⟩ | ⟨db, request, rfl⟩
  · -- A pool that is opened takes the place of the one that is held, which is dropped.
    obtain ⟨hopened, hclosed, hheld⟩ := @pools_start dsn held db
    rw [hopened, hclosed, hheld]
    cases held <;> cases (db.failing (.connect dsn)).isNone <;> rfl
  · obtain ⟨hopened, hclosed, hheld⟩ := @pools_stop dsn held db
    rw [hopened, hclosed, hheld]
    cases held <;> cases db.failing .close <;> rfl
  · obtain ⟨hopened, hclosed⟩ := @pools_request dsn held db request
    rw [hopened, hclosed, connected_take_request]
    simp

/-- A step drops a pool exactly if it is a start that can connect while the store holds one. -/
theorem dropped_eq_zero_iff (held : Bool) (step : Step) :
    dropped dsn held step = 0 ↔
      ∀ db, step = .start db → held = true → (db.failing (.connect dsn)).isSome := by
  rw [dropped]
  rcases step.start_or_stop_or_request with ⟨db, rfl⟩ | ⟨db, rfl⟩ | ⟨db, request, rfl⟩
  · obtain ⟨hopened, -⟩ := @pools_start dsn held db
    rw [hopened]
    cases held <;> cases hconnect : db.failing (.connect dsn) <;> simp [hconnect]
  · obtain ⟨hopened, -⟩ := @pools_stop dsn held db
    simp [hopened]
  · obtain ⟨hopened, -⟩ := @pools_request dsn held db request
    rw [hopened, ite_self]
    cases request <;> simp [Request.step]

/-! ## Runs -/

/-- Over a run the balance of pools is the one of its steps. -/
theorem balance_run (held : Bool) (steps : List Step) :
    held.toNat + total dsn (opened dsn) held steps =
      total dsn (closed dsn) held steps + (heldAfter dsn held steps).toNat +
        total dsn (dropped dsn) held steps := by
  induction steps generalizing held with
  | nil => simp [total, heldAfter]
  | cons step rest ih =>
    -- What the step leaves held is what the rest of the run starts from, and cancels out.
    have hstep := @balance_take dsn held step
    have hrest := ih (take dsn held step).connected
    rw [heldAfter, List.foldl_cons, ← heldAfter, total, total, total]
    omega

/-- Steps add nothing in total exactly if none of them does. -/
theorem total_eq_zero_iff (number : Bool → Step → ℕ) (held : Bool) (steps : List Step) :
    total dsn number held steps = 0 ↔
      ∀ before step after, steps = before ++ step :: after →
        number (heldAfter dsn held before) step = 0 := by
  induction steps generalizing held with
  | nil => simp [total]
  | cons first rest ih =>
    rw [total, Nat.add_eq_zero_iff, ih]
    constructor
    · rintro ⟨hfirst, hrest⟩ before step after hsplit
      rcases List.cons_eq_append_iff.mp hsplit with ⟨rfl, hstep⟩ | ⟨between, rfl, hrest'⟩
      · obtain ⟨rfl, -⟩ := List.cons.inj hstep
        exact hfirst
      · exact hrest between step after hrest'
    · intro h
      exact ⟨h [] first rest rfl,
        fun before step after hsplit => h (first :: before) step after (by rw [hsplit]; rfl)⟩

/-- A start succeeds exactly if none of its calls fails. -/
theorem start_eq_ok_iff (held : Bool) (db : Database) :
    (start dsn held db).result = .ok () ↔
      ∀ call ∈ .connect dsn :: schemaCalls, db.failing call = none := by
  rw [List.forall_mem_cons, ← Database.attempt_eq_none_iff]
  rcases start_cases dsn held db with ⟨f, hf, -, -, h⟩ | ⟨f, -, hf, -, -, h⟩ | ⟨hok, hall, -, -, h⟩
  · simp [h, hf]
  · simp [h, hf]
  · exact iff_of_true h ⟨hok, Database.attempt_eq_none_iff.mpr hall⟩

/-- A start that fails says that the store is unavailable. -/
theorem isUnavailable_of_start {error : Error} (h : (start dsn held db).result = .error error) :
    error.IsUnavailable := by
  rcases start_cases dsn held db with ⟨f, -, -, -, hf⟩ | ⟨f, -, -, -, -, hf⟩ | ⟨-, -, -, -, hok⟩
  · obtain rfl := Except.error.inj (h.symm.trans hf)
    exact isUnavailable_failed f.message
  · obtain rfl := Except.error.inj (h.symm.trans hf)
    exact isUnavailable_failed f.message
  · rw [hok] at h
    cases h

/-- What is true of the pools of a store that was made and took some steps. -/
structure PoolsAfter (dsn : String) (steps : List Step) : Prop where
  /-- Every pool that was opened was closed, is held or was dropped. -/
  balance : total dsn (opened dsn) false steps =
    total dsn (closed dsn) false steps + (heldAfter dsn false steps).toNat +
      total dsn (dropped dsn) false steps
  /-- None was dropped exactly if no start could connect while a pool was held. -/
  none_dropped_iff : total dsn (dropped dsn) false steps = 0 ↔
    ∀ before db after, steps = before ++ .start db :: after →
      heldAfter dsn false before = true → (db.failing (.connect dsn)).isSome
  /-- A start that is tried next succeeds exactly if it can connect and no statement fails. -/
  start_succeeds_iff (db : Database) :
    (start dsn (heldAfter dsn false steps) db).result = .ok () ↔
      ∀ call ∈ .connect dsn :: schemaCalls, db.failing call = none
  /-- Otherwise it says that the store is unavailable. -/
  start_fails (db : Database) (error : Error) :
    (start dsn (heldAfter dsn false steps) db).result = .error error → error.IsUnavailable
  /-- It leaves the store without a pool exactly if there was none and it cannot connect. -/
  start_leaves_none_iff (db : Database) :
    (start dsn (heldAfter dsn false steps) db).connected = false ↔
      heldAfter dsn false steps = false ∧ (db.failing (.connect dsn)).isSome

/-- Whatever steps are taken on a store, and whichever calls fail during them: the pools that were
opened and not closed are the one that the store holds, if it holds one, and those that were dropped
by a start that found one. -/
theorem pools_are_held_closed_or_dropped (dsn : String) (steps : List Step) :
    PoolsAfter dsn steps where
  balance := by
    have hbalance := @balance_run dsn false steps
    rwa [Bool.toNat_false, Nat.zero_add] at hbalance
  none_dropped_iff := by
    rw [total_eq_zero_iff]
    constructor
    · intro h before db after hsplit
      exact (dropped_eq_zero_iff _ _).mp (h before (.start db) after hsplit) db rfl
    · -- Only a start can drop a pool, so the other steps need not be asked about.
      intro h before step after hsplit
      rw [dropped_eq_zero_iff]
      rintro db rfl
      exact h before db after hsplit
  start_succeeds_iff := start_eq_ok_iff _
  start_fails db error := isUnavailable_of_start
  start_leaves_none_iff db := by
    obtain ⟨-, -, hheld⟩ := @pools_start dsn (heldAfter dsn false steps) db
    change (start dsn (heldAfter dsn false steps) db).connected = _ at hheld
    rw [hheld]
    cases heldAfter dsn false steps <;> cases db.failing (.connect dsn) <;> simp

/-- A database without rows, in which the creation of tables fails. -/
def withoutPermission : Database where
  failing call := if call matches .execute .. then some ⟨.database, "no permission"⟩ else none
  form := .null
  questions := []
  rules := []

/-- A start whose statements are refused fails, and leaves the store with a pool. When it is tried
again, two pools have been opened and none is closed, though the store holds but one. -/
theorem failed_start_keeps_pool :
    (start "" false withoutPermission).result = .error (failed "no permission") ∧
      (start "" false withoutPermission).connected = true ∧
      total "" (opened "") false [.start withoutPermission, .start withoutPermission] = 2 ∧
      total "" (closed "") false [.start withoutPermission, .start withoutPermission] = 0 ∧
      heldAfter "" false [.start withoutPermission, .start withoutPermission] = true :=
  ⟨rfl, rfl, rfl, rfl, rfl⟩

end FormRouting.Postgres
