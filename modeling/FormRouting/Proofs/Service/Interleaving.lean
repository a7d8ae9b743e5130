import FormRouting.Proofs.Service.Steps
import FormRouting.Proofs.Store.Memory
import Mathlib.Logic.Function.Basic

/-!
# Submissions that are handled at the same time

Nothing interrupts the steps of a submission, so submissions that are handled at the same time come
down to some order of their steps, with the forms of the store edited in between (`Traffic.moves`).
`interleaved_submissions_run_alone` is about any such order, of any number of submissions: each is
answered, and recorded, as if it had been handled alone by a service that has nothing but the form
that its first step found, and the store keeps the most recent of the records in the order in which
they were made. `Traffic.Consistent` is the invariant, which every move preserves
(`Consistent.move`).
-/

namespace FormRouting

/-- A move of the traffic: a step of one of the attempts, or an edit of the forms of the store. -/
inductive Move (ι : Type) where
  | advance (i : ι)
  | put (form : Form)
  | remove (slug : String)

/-- A service with attempts that are under way. -/
structure Traffic (ι : Type) where
  service : Service
  progress : ι → Progress
  /-- The form that the first step of an attempt found under its slug. -/
  version : ι → Option Form
  /-- The records that were kept, in the order of the steps that did it, each with the attempt that it
  is of. -/
  recorded : List (ι × Submission)

variable {ι : Type} [DecidableEq ι]

/-- Whether a move is a step of an attempt. -/
def Move.advances (i : ι) : Move ι → Bool
  | .advance j => j = i
  | _ => false

namespace Traffic

/-- Attempts that have all arrived at a service. -/
def start (s : Service) : Traffic ι :=
  ⟨s, fun _ => .arrived, fun _ => none, []⟩

/-- The form that an attempt is handled with, once it takes its next step. -/
def versionAfter (w : Traffic ι) (a : Attempt) (i : ι) : Option Form :=
  match w.progress i with
  | .arrived => w.service.store.get? a.slug
  | _ => w.version i

/-- Makes a move. -/
def move (attempts : ι → Attempt) (w : Traffic ι) : Move ι → Traffic ι
  | .advance i =>
    let next := w.service.advance (attempts i) (w.progress i)
    { service := next.1
      progress := Function.update w.progress i next.2
      version := Function.update w.version i (w.versionAfter (attempts i) i)
      recorded := w.recorded ++
        ((w.service.kept? (attempts i) (w.progress i)).map (i, ·)).toList }
  | .put form => { w with service.store := w.service.store.put form }
  | .remove slug => { w with service.store := w.service.store.remove slug }

/-- Makes moves one after the other. -/
def moves (attempts : ι → Attempt) (w : Traffic ι) (ms : List (Move ι)) : Traffic ι :=
  ms.foldl (move attempts) w

/-- The records that were kept of an attempt. -/
def recordsOf (w : Traffic ι) (i : ι) : List Submission :=
  (w.recorded.filter (·.1 = i)).map (·.2)

/-! ## One move -/

variable {s : Service} {attempts : ι → Attempt} {w : Traffic ι}

/-- A step keeps a record of its own attempt only. -/
theorem recordsOf_advance (attempts : ι → Attempt) (w : Traffic ι) (i j : ι) :
    (w.move attempts (.advance i)).recordsOf j =
      w.recordsOf j ++
        if i = j then (w.service.kept? (attempts i) (w.progress i)).toList else [] := by
  unfold recordsOf move
  dsimp only
  rw [List.filter_append, List.map_append]
  cases w.service.kept? (attempts i) (w.progress i) with
  | none => simp
  | some record =>
    by_cases hij : i = j
    · simp [hij]
    · simp [hij]

/-- Where attempts are under way, and what was kept of them, agrees with handling each of them alone
and with the store. -/
structure Consistent (s : Service) (attempts : ι → Attempt) (w : Traffic ι) : Prop where
  settings : s.SameSettings w.service
  limit : w.service.store.limit = s.store.limit
  /-- An attempt has come as far as it would have alone, with the form that it found. -/
  handled : ∀ i, (s.holding (attempts i).slug (w.version i)).Handled (attempts i) (w.recordsOf i)
    (w.progress i)
  /-- The store keeps the most recent records. -/
  kept : w.service.store.submissions =
    MemoryStore.keep s.store.limit ((w.recorded.map (·.2)).reverse ++ s.store.submissions)

theorem consistent_start (attempts : ι → Attempt)
    (hstore : MemoryStore.keep s.store.limit s.store.submissions = s.store.submissions) :
    Consistent s attempts (start s) where
  settings := .refl s
  limit := rfl
  handled _ := rfl
  kept := hstore.symm

/-- The attempt that takes a step comes as far as it would alone: its first step finds the form that
it is handled with from then on, and no later step looks at the forms of the store. -/
theorem Consistent.handled_advance (h : Consistent s attempts w) (i : ι) :
    (s.holding (attempts i).slug (w.versionAfter (attempts i) i)).Handled (attempts i)
      (w.recordsOf i ++ (w.service.kept? (attempts i) (w.progress i)).toList)
      (w.service.advance (attempts i) (w.progress i)).2 := by
  have hsofar := h.handled i
  have hsettings : (s.holding (attempts i).slug (w.versionAfter (attempts i) i)).SameSettings
      w.service := ⟨h.settings.config, h.settings.faults⟩
  have hbefore : (s.holding (attempts i).slug (w.versionAfter (attempts i) i)).Handled (attempts i)
      (w.recordsOf i) (w.progress i) := by
    -- Nothing has been said of a form yet before the first step, so any form will do there.
    unfold versionAfter
    cases hprogress : w.progress i with
    | arrived =>
      rw [hprogress] at hsofar
      exact hsofar
    | _ =>
      rw [hprogress] at hsofar
      exact hsofar
  refine hbefore.advance hsettings ⟨rfl, rfl⟩ fun harrived => ?_
  rw [Service.get?_holding]
  unfold versionAfter
  rw [harrived]

/-- The store keeps the record of a step in front of the others. -/
theorem Consistent.kept_advance (h : Consistent s attempts w) (i : ι) :
    (w.move attempts (.advance i)).service.store.submissions =
      MemoryStore.keep s.store.limit
        (((w.move attempts (.advance i)).recorded.map (·.2)).reverse ++ s.store.submissions) := by
  have hstore := w.service.store_advance (attempts i) (w.progress i)
  show (w.service.advance (attempts i) (w.progress i)).1.store.submissions =
    MemoryStore.keep s.store.limit (((w.recorded ++
      ((w.service.kept? (attempts i) (w.progress i)).map (i, ·)).toList).map (·.2)).reverse ++
        s.store.submissions)
  rw [hstore]
  cases w.service.kept? (attempts i) (w.progress i) with
  | none =>
    simp only [Option.map_none, Option.toList_none, List.append_nil]
    exact h.kept
  | some record =>
    rw [Option.map_some, Option.toList_some, List.map_append, List.reverse_append]
    show MemoryStore.keep w.service.store.limit ([record] ++ w.service.store.submissions) = _
    rw [h.limit, h.kept, MemoryStore.keep_append_keep, ← List.append_assoc]
    rfl

/-- Every move keeps the traffic consistent. -/
theorem Consistent.move (h : Consistent s attempts w) (m : Move ι) :
    Consistent s attempts (w.move attempts m) := by
  cases m with
  | advance i =>
    have hsettings := w.service.sameSettings_advance (attempts i) (w.progress i)
    refine ⟨h.settings.trans hsettings, ?_, fun j => ?_, h.kept_advance i⟩
    · show (w.service.advance (attempts i) (w.progress i)).1.store.limit = _
      rw [Service.store_advance, ← h.limit]
      cases w.service.kept? (attempts i) (w.progress i) with
      | none => rfl
      | some record => rfl
    · rw [recordsOf_advance]
      by_cases hij : i = j
      · subst hij
        have hadvanced := h.handled_advance i
        show (s.holding (attempts i).slug (Function.update w.version i _ i)).Handled (attempts i) _
          (Function.update w.progress i _ i)
        rw [Function.update_self, Function.update_self, if_pos rfl]
        exact hadvanced
      · -- The other attempts stay where they were.
        show (s.holding (attempts j).slug (Function.update w.version i _ j)).Handled (attempts j) _
          (Function.update w.progress i _ j)
        rw [Function.update_of_ne (Ne.symm hij), Function.update_of_ne (Ne.symm hij), if_neg hij,
          List.append_nil]
        exact h.handled j
  | put form => exact ⟨⟨h.settings.config, h.settings.faults⟩, h.limit, h.handled, h.kept⟩
  | remove slug => exact ⟨⟨h.settings.config, h.settings.faults⟩, h.limit, h.handled, h.kept⟩

/-- A move brings the attempt whose step it is further, and no other one. -/
theorem steps_move (attempts : ι → Attempt) (w : Traffic ι) (m : Move ι) (i : ι) :
    min 3 ((w.progress i).steps + if m.advances i then 1 else 0) ≤
      ((w.move attempts m).progress i).steps := by
  cases m with
  | advance j =>
    show _ ≤ (Function.update w.progress j _ i).steps
    by_cases hji : j = i
    · subst hji
      have hsteps := w.service.steps_advance (attempts j) (w.progress j)
      simpa [Move.advances] using hsteps
    · rw [Function.update_of_ne (Ne.symm hji)]
      simp [Move.advances, hji]
  | put form => exact min_le_right _ _
  | remove slug => exact min_le_right _ _

/-! ## All moves -/

theorem Consistent.moves (h : Consistent s attempts w) (ms : List (Move ι)) :
    Consistent s attempts (w.moves attempts ms) := by
  induction ms generalizing w with
  | nil => exact h
  | cons m rest ih => exact ih (h.move m)

theorem steps_moves (attempts : ι → Attempt) (w : Traffic ι) (ms : List (Move ι)) (i : ι) :
    min 3 ((w.progress i).steps + ms.countP (·.advances i)) ≤
      ((w.moves attempts ms).progress i).steps := by
  induction ms generalizing w with
  | nil => exact min_le_right _ _
  | cons m rest ih =>
    have hstep := steps_move attempts w m i
    have hrest := ih (w.move attempts m)
    rw [List.countP_cons]
    show _ ≤ (((w.move attempts m).moves attempts rest).progress i).steps
    omega

/-- An attempt that takes no step stays where it is. -/
theorem progress_moves (w : Traffic ι) {ms : List (Move ι)} {i : ι}
    (h : ∀ m ∈ ms, m.advances i = false) : (w.moves attempts ms).progress i = w.progress i := by
  induction ms generalizing w with
  | nil => rfl
  | cons m rest ih =>
    have hrest := ih (w.move attempts m) fun m hm => h m (List.mem_cons_of_mem _ hm)
    have hmove : (w.move attempts m).progress i = w.progress i := by
      cases m with
      | advance j =>
        have hji : j ≠ i := by simpa [Move.advances] using h _ List.mem_cons_self
        exact Function.update_of_ne (Ne.symm hji) _ _
      | put form => rfl
      | remove slug => rfl
    exact hrest.trans hmove

/-- Once an attempt has taken its first step, the form that it found stays the one that it is handled
with. -/
theorem version_moves {w : Traffic ι} {i : ι} (h : 0 < (w.progress i).steps) (ms : List (Move ι)) :
    (w.moves attempts ms).version i = w.version i := by
  induction ms generalizing w with
  | nil => rfl
  | cons m rest ih =>
    have hsteps := steps_move attempts w m i
    have hrest := ih (w := w.move attempts m) (by omega)
    have hmove : (w.move attempts m).version i = w.version i := by
      cases m with
      | advance j =>
        show Function.update w.version j _ i = w.version i
        by_cases hji : j = i
        · -- A later step of the attempt itself does not look for its form again.
          subst hji
          rw [Function.update_self]
          unfold versionAfter
          cases hprogress : w.progress j with
          | arrived =>
            rw [hprogress] at h
            exact absurd h (lt_irrefl 0)
          | _ => rfl
        · exact Function.update_of_ne (Ne.symm hji) _ _
      | put form => rfl
      | remove slug => rfl
    exact hrest.trans hmove

/-- Records are only added, behind those that are there. -/
theorem recorded_moves (attempts : ι → Attempt) (w : Traffic ι) (ms : List (Move ι)) :
    w.recorded <+: (w.moves attempts ms).recorded := by
  induction ms generalizing w with
  | nil => exact List.prefix_refl _
  | cons m rest ih =>
    have hmove : w.recorded <+: (w.move attempts m).recorded := by
      cases m with
      | advance i => exact List.prefix_append _ _
      | put form => exact List.prefix_refl _
      | remove slug => exact List.prefix_refl _
    exact hmove.trans (ih (w.move attempts m))

/-- The first step of an attempt finds the form that the store has then. -/
theorem version_first (attempts : ι → Attempt) (w : Traffic ι) (before after : List (Move ι)) {i : ι}
    (harrived : w.progress i = .arrived) (h : ∀ m ∈ before, m.advances i = false) :
    (w.moves attempts (before ++ .advance i :: after)).version i =
      (w.moves attempts before).service.store.get? (attempts i).slug := by
  have hbefore : (w.moves attempts before).progress i = .arrived :=
    (w.progress_moves h).trans harrived
  have hsteps := steps_move attempts (w.moves attempts before) (.advance i) i
  have hadvances : Move.advances i (.advance i) = true := decide_eq_true rfl
  rw [hbefore, hadvances, if_pos rfl] at hsteps
  have htaken : 0 < (((w.moves attempts before).move attempts (.advance i)).progress i).steps :=
    Nat.lt_of_lt_of_le (by decide) hsteps
  have hfound : ((w.moves attempts before).move attempts (.advance i)).version i =
      (w.moves attempts before).service.store.get? (attempts i).slug := by
    show Function.update _ i _ i = _
    rw [Function.update_self]
    unfold versionAfter
    rw [hbefore]
  have hmoves : w.moves attempts (before ++ .advance i :: after) =
      ((w.moves attempts before).move attempts (.advance i)).moves attempts after :=
    List.foldl_append
  rw [hmoves, version_moves htaken, hfound]

/-! ## Handling at the same time -/

/-- The handling of an attempt alone, by a service that has nothing but the form that the first step
of the attempt found. -/
def alone (s : Service) (attempts : ι → Attempt) (w : Traffic ι) (i : ι) :
    Service.Worked DecisionResponse :=
  (s.holding (attempts i).slug (w.version i)).submit (attempts i).slug (attempts i).request

/-- The attempts at a service have gone through some moves as if each had been alone. -/
structure Isolates (s : Service) (attempts : ι → Attempt) (ms : List (Move ι)) (w : Traffic ι) :
    Prop where
  /-- An attempt is handled with the form that the store had when the attempt took its first step. -/
  version : ∀ before i after, ms = before ++ .advance i :: after →
    (∀ m ∈ before, m.advances i = false) →
    w.version i = ((start s).moves attempts before).service.store.get? (attempts i).slug
  /-- After three steps it is answered. -/
  answered : ∀ i, 3 ≤ ms.countP (·.advances i) → ∃ result, w.progress i = .answered result
  /-- Its answer, and what is recorded of it, are those of its handling alone. -/
  same : ∀ i result, w.progress i = .answered result →
    result = (alone s attempts w i).result ∧
      w.recordsOf i = (alone s attempts w i).service.store.submissions
  /-- It has one record once it is answered with success, and else none. -/
  one : ∀ i, (w.recordsOf i).length =
    match w.progress i with
    | .answered (.ok _) => 1
    | _ => 0
  /-- The records are in the order of the steps that made them. -/
  order : ∀ before after, ms = before ++ after →
    ((start s).moves attempts before).recorded <+: w.recorded
  /-- The store has all records, the last ones first, in front of those that it had before; if it has
  a limit, it has as many of them as this allows. -/
  kept : w.service.store.submissions =
    MemoryStore.keep s.store.limit ((w.recorded.map (·.2)).reverse ++ s.store.submissions)

/-- What has been recorded of an attempt is one record exactly if it has been accepted. -/
theorem Consistent.one (h : Consistent s attempts w) (i : ι) :
    (w.recordsOf i).length =
      match w.progress i with
      | .answered (.ok _) => 1
      | _ => 0 := by
  have hhandled := h.handled i
  cases hprogress : w.progress i with
  | arrived =>
    rw [hprogress] at hhandled
    exact congrArg List.length hhandled
  | loaded form =>
    rw [hprogress] at hhandled
    exact congrArg List.length hhandled.1
  | decided form verdict =>
    rw [hprogress] at hhandled
    exact congrArg List.length hhandled.1
  | answered result =>
    rw [hprogress] at hhandled
    obtain ⟨hresult, hrecords⟩ := hhandled
    rw [hrecords, Service.length_submissions_submit ⟨rfl, rfl⟩, ← hresult]
    cases result with
    | ok response => rfl
    | error failure => rfl

/-- Any number of submissions that arrive at a service, of which all steps are taken in any order and
with any edits of the forms in between, are handled as if each had been alone with the form that it
found: none of them is lost, and none is answered from more than one version of its form. -/
theorem interleaved_submissions_run_alone (s : Service)
    (hstore : MemoryStore.keep s.store.limit s.store.submissions = s.store.submissions)
    (attempts : ι → Attempt) (ms : List (Move ι)) :
    ((start s).moves attempts ms).Isolates s attempts ms := by
  have hconsistent := (consistent_start attempts hstore).moves ms
  constructor
  · rintro before i after rfl hbefore
    exact version_first attempts (start s) before after rfl hbefore
  · intro i hthree
    have hsteps := steps_moves attempts (start s) ms i
    exact Progress.answered_of_steps (by omega)
  · intro i result hprogress
    have hhandled := hconsistent.handled i
    rw [hprogress] at hhandled
    exact hhandled
  · exact hconsistent.one
  · rintro before after rfl
    have hmoves : (start s).moves attempts (before ++ after) =
        ((start s).moves attempts before).moves attempts after := List.foldl_append
    rw [hmoves]
    exact recorded_moves attempts _ after
  · exact hconsistent.kept

/-- The form `stock` with another message. -/
def soldOut : Form :=
  { Service.stock with
    rules := [⟨7, "bulk", .equals, "true", ⟨.showMessage, "Sold out"⟩, 0, true⟩] }

/-- A service with the form `stock` that keeps one record. -/
def smallShop : Service :=
  { Service.shop with store := .ofForms [Service.stock] (some 1) }

/-- Two submissions of the same answers to the form. -/
def twoAttempts : Bool → Attempt := fun _ => ⟨"stock", [(.text "bulk", .bool true)], none, none⟩

/-- The form is replaced after the first submission has loaded it, and removed after the second one
has; the second one is recorded first. -/
def twoAtOnce : List (Move Bool) := [
  .advance false, .put soldOut, .advance true, .remove "stock", .advance true, .advance false,
  .advance true, .advance false]

/-- Each submission is answered from the version that it has loaded, and the record of the first one
displaces that of the second. -/
theorem interleaved_submissions_run_alone_stock :
    let w := (start smallShop).moves twoAttempts twoAtOnce
    w.Isolates smallShop twoAttempts twoAtOnce ∧
      w.version false = some Service.stock ∧ w.version true = some soldOut ∧
      (∃ result, w.progress false = .answered result ∧
        result.toOption.bind (·.message) = some "In stock") ∧
      (∃ result, w.progress true = .answered result ∧
        result.toOption.bind (·.message) = some "Sold out") ∧
      w.recorded.map (·.1) = [true, false] ∧ w.service.store.submissions = w.recordsOf false := by
  intro w
  have hisolates : w.Isolates smallShop twoAttempts twoAtOnce :=
    interleaved_submissions_run_alone smallShop rfl twoAttempts twoAtOnce
  have hnames : w.recorded.map (·.1) = [true, false] := by decide +kernel
  have hlast : w.service.store.submissions = w.recordsOf false := by
    rw [hisolates.kept]
    unfold recordsOf
    -- There are two records, of which the store keeps the one that was made last.
    match w.recorded, hnames with
    | [(true, second), (false, first)], _ => rfl
  obtain ⟨first, hfirst⟩ := hisolates.answered false (by decide)
  obtain ⟨second, hsecond⟩ := hisolates.answered true (by decide)
  refine ⟨hisolates, ?_, ?_, ⟨first, hfirst, ?_⟩, ⟨second, hsecond, ?_⟩, hnames, hlast⟩
  · exact hisolates.version [] false _ rfl (by simp)
  · exact hisolates.version [.advance false, .put soldOut] true _ rfl (by simp [Move.advances])
  · rw [(hisolates.same false first hfirst).1]
    decide +kernel
  · rw [(hisolates.same true second hsecond).1]
    decide +kernel

end Traffic

end FormRouting
