import FormRouting.Proofs.Store.Memory
import FormRouting.Store.Run
import Mathlib.Data.List.DropRight

/-!
# What a memory store remembers

A memory store is given forms and submissions by one call after the other, and what it is asked for
follows from the calls alone, whatever they are (`store_answers_as_told`). A slug has the form that
was put under it last, unless it was removed after that (`IsCurrent`). The submissions that are
listed are cut three times, in this order: to the newest ones that the limit allows
(`newest`), to those of a form (`isOf`), and to the number that is asked for.

`Remembers` ties the state of a store to the calls that led to it. Every call preserves it
(`Remembers.perform`), and it determines the answer to the next call (`Remembers.answers`).
-/

namespace FormRouting.MemoryStore

/-! ## Calls -/

/-- A call of a memory store. -/
inductive Operation where
  | put (form : Form)
  | remove (slug : String)
  | get (slug : String)
  | record (s : Submission)
  /-- Lists the newest submissions, up to a number: those of a form, or all if none is named. -/
  | list (formId : Option ℤ) (count : ℕ)

/-- Makes a call: the store afterwards, and the answer. -/
def perform (store : MemoryStore) : Operation → MemoryStore × StepResult
  | .put form => (store.put form, .done)
  | .remove slug => (store.remove slug, .flag (store.get? slug).isSome)
  | .get slug => (store, .form (store.get? slug))
  | .record s => (store.record s, .done)
  | .list formId count =>
    (store, .submissions (store.list ((formId.map Value.int).getD .null) (some count)))

/-- The store after calls. -/
def performAll (store : MemoryStore) (ops : List Operation) : MemoryStore :=
  ops.foldl (fun store op => (store.perform op).1) store

/-- A step on a store calls it. -/
inductive Step.Calls : Step → Operation → Prop where
  | put {definition : Value} {reports : List LogEntry} {form : Form}
      (h : Form.ofDefinition definition = (reports, .ok form)) :
      Calls (.put definition) (.put form)
  | remove (slug : String) : Calls (.remove slug) (.remove slug)
  | get (slug : String) : Calls (.get slug) (.get slug)
  | record {fields : List (Value × Value)} {s : Submission}
      (h : Submission.ofArguments fields = .ok s) : Calls (.record fields) (.record s)
  | list {given : List (Value × Value)} {formId : Option ℤ} {count : ℕ}
      (hcheck : Arguments.check [] ["routing_form_id", "limit"] given = .ok ())
      (hid : Value.field given "routing_form_id" = (formId.map Value.int).getD .null)
      (hcount : Value.fieldOr given "limit" (.int listedByDefault) = .int count) :
      Calls (.list given) (.list formId count)

/-- A step does to a store what the call does that it makes, and has the same result. -/
theorem take_of_calls {step : Step} {op : Operation} (h : step.Calls op) (store : MemoryStore) :
    (store.take step).1 = (store.perform op).1 ∧
      (store.take step).2.2 = .ok (store.perform op).2 := by
  cases h with
  | put h => simp [take, perform, h]
  | remove slug => exact ⟨rfl, rfl⟩
  | get slug => exact ⟨rfl, rfl⟩
  | record h => simp [take, perform, h]
  | list hcheck hid hcount =>
    simp [take, perform, listOfArguments, hcheck, hid, hcount, bind, Except.bind, pure,
      Except.pure]

/-! ## What calls amount to -/

/-- A call puts or removes the form under a slug. -/
def Operation.Touches (slug : String) : Operation → Prop
  | .put form => form.slug.toText = slug
  | .remove removed => removed = slug
  | .get _ | .record _ | .list _ _ => False

/-- A form was put under a slug, and since then none was put there or removed. -/
def IsCurrent (history : List Operation) (slug : String) (form : Form) : Prop :=
  ∃ before after, history = before ++ .put form :: after ∧ form.slug.toText = slug ∧
    ∀ op ∈ after, ¬op.Touches slug

/-- The submission that a call records. -/
def Operation.recorded? : Operation → Option Submission
  | .record s => some s
  | _ => none

/-- The last ones of submissions that were recorded one after the other, as many as a limit allows:
the newest first. -/
def newest (limit : Option ℕ) (recorded : List Submission) : List Submission :=
  (limit.elim recorded recorded.rtake).reverse

/-- A submission is of a form. Any is, if no form is named. -/
def isOf (formId : Option ℤ) (s : Submission) : Bool :=
  formId.all fun id => s.formId.same (.int id)

@[simp]
theorem isOf_int {formId : Option ℤ} {s : Submission} {n : ℤ} (h : s.formId = .int n) :
    isOf formId s ↔ ∀ id ∈ formId, n = id := by
  cases formId with
  | none => simp [isOf]
  | some id => simp [isOf, h, Value.same, Value.sameQuantity, Value.quantity?, Value.Quantity.same]

/-- The answer to a call that the calls before it call for, when a limit is set to the submissions
that are kept. -/
inductive Answers (limit : Option ℕ) (history : List Operation) : Operation → StepResult → Prop where
  | put (form : Form) : Answers limit history (.put form) .done
  | record (s : Submission) : Answers limit history (.record s) .done
  | found {slug : String} {form : Form} (h : IsCurrent history slug form) :
      Answers limit history (.get slug) (.form (some form))
  | missing {slug : String} (h : ∀ form, ¬IsCurrent history slug form) :
      Answers limit history (.get slug) (.form none)
  | removed {slug : String} {form : Form} (h : IsCurrent history slug form) :
      Answers limit history (.remove slug) (.flag true)
  | absent {slug : String} (h : ∀ form, ¬IsCurrent history slug form) :
      Answers limit history (.remove slug) (.flag false)
  | listed (formId : Option ℤ) (count : ℕ) :
      Answers limit history (.list formId count)
        (.submissions (((newest limit (history.filterMap Operation.recorded?)).filter
          (isOf formId)).take count))

/-- After one more call a form is current if the call put it, or if it was before and the call has
nothing to do with its slug. -/
theorem isCurrent_append {history : List Operation} {op : Operation} {slug : String} {form : Form} :
    IsCurrent (history ++ [op]) slug form ↔
      op = .put form ∧ form.slug.toText = slug ∨ ¬op.Touches slug ∧ IsCurrent history slug form := by
  constructor
  · rintro ⟨before, after, hsplit, hslug, hafter⟩
    -- The call is the one that put the form, or it comes after that one.
    rcases List.eq_nil_or_concat after with rfl | ⟨between, last, rfl⟩
    · obtain ⟨-, hop⟩ := List.append_inj' hsplit rfl
      exact .inl ⟨List.singleton_inj.mp hop, hslug⟩
    · rw [List.concat_eq_append] at hsplit hafter
      rw [← List.cons_append, ← List.append_assoc] at hsplit
      obtain ⟨hhistory, hop⟩ := List.append_inj' hsplit rfl
      obtain rfl := List.singleton_inj.mp hop
      exact .inr ⟨hafter _ (by simp), before, between, hhistory, hslug,
        fun other hother => hafter other (by simp [hother])⟩
  · rintro (⟨rfl, hslug⟩ | ⟨htouches, before, after, rfl, hslug, hafter⟩)
    · exact ⟨history, [], rfl, hslug, by simp⟩
    · refine ⟨before, after ++ [op], by simp, hslug, fun other hother => ?_⟩
      rcases List.mem_append.mp hother with hother | hother
      · exact hafter other hother
      · rwa [List.mem_singleton.mp hother]

/-! ## The store -/

/-- The state of a store is what calls amount to. -/
structure Remembers (limit : Option ℕ) (history : List Operation) (store : MemoryStore) : Prop where
  found : ∀ slug form, store.get? slug = some form ↔ IsCurrent history slug form
  kept : store.submissions = newest limit (history.filterMap Operation.recorded?)
  limit : store.limit = limit

section

variable {limit : Option ℕ} {history : List Operation} {store : MemoryStore}

theorem remembers_empty (limit : Option ℕ) : Remembers limit [] (empty limit) := by
  refine ⟨fun slug form => iff_of_false (by simp [get?, empty]) ?_, ?_, rfl⟩
  · rintro ⟨before, after, h, -⟩
    simp at h
  · cases limit <;> simp [newest, empty]

/-- The newest submissions are the first ones that the store would keep of all, from the newest
on. -/
theorem newest_eq_keep (limit : Option ℕ) (recorded : List Submission) :
    newest limit recorded = keep limit recorded.reverse := by
  cases limit with
  | none => rfl
  | some n =>
    show (recorded.rtake n).reverse = recorded.reverse.take n
    rw [List.rtake_eq_reverse_take_reverse, List.reverse_reverse]

/-- A call that puts no form and removes none leaves the forms under a slug as they are. -/
theorem get?_perform (store : MemoryStore) {op : Operation} {slug : String}
    (h : ¬op.Touches slug) : (store.perform op).1.get? slug = store.get? slug := by
  cases op with
  | put form => exact (get?_put store form slug).trans (if_neg h)
  | remove removed => exact (get?_remove store removed slug).trans (if_neg h)
  | _ => rfl

/-- Only a call that records a submission changes which ones are kept. -/
theorem submissions_perform (store : MemoryStore) (op : Operation) :
    (store.perform op).1.submissions =
      (op.recorded?.map fun s => keep store.limit (s :: store.submissions)).getD
        store.submissions := by
  cases op <;> rfl

theorem limit_perform (store : MemoryStore) (op : Operation) :
    (store.perform op).1.limit = store.limit := by
  cases op <;> rfl

/-- A call that touches a slug puts a form there, or leaves nothing there. -/
theorem found_of_touches {op : Operation} {slug : String} (h : op.Touches slug) (form : Form) :
    (store.perform op).1.get? slug = some form ↔ op = .put form ∧ form.slug.toText = slug := by
  cases op with
  | put other =>
    have hslug : other.slug.toText = slug := h
    show (store.put other).get? slug = some form ↔ _
    rw [get?_put, if_pos hslug, Option.some.injEq, Operation.put.injEq]
    exact ⟨fun heq => ⟨heq, heq ▸ hslug⟩, And.left⟩
  | remove removed =>
    have hslug : removed = slug := h
    show (store.remove removed).get? slug = some form ↔ _
    rw [get?_remove, if_pos hslug]
    simp
  | _ => exact h.elim

/-- A call keeps the state of a store what the calls amount to. -/
theorem Remembers.perform (h : Remembers limit history store) (op : Operation) :
    Remembers limit (history ++ [op]) (store.perform op).1 where
  found := by
    intro slug form
    rw [isCurrent_append]
    by_cases htouches : op.Touches slug
    · rw [found_of_touches htouches]
      simp [htouches]
    · rw [get?_perform store htouches, h.found]
      have hput : ¬(op = .put form ∧ form.slug.toText = slug) := by
        rintro ⟨rfl, hslug⟩
        exact htouches hslug
      simp [htouches, hput]
  kept := by
    rw [submissions_perform, h.kept, h.limit, List.filterMap_append]
    cases hrecorded : op.recorded? with
    | none => simp [hrecorded]
    | some s =>
      -- What the limit left out before stays left out behind the new submission.
      rw [newest_eq_keep, newest_eq_keep]
      simpa [hrecorded] using
        keep_append_keep limit [s] (history.filterMap Operation.recorded?).reverse
  limit := by rw [limit_perform, h.limit]

/-- Calls keep the state of a store what they amount to. -/
theorem Remembers.performAll (h : Remembers limit history store) (ops : List Operation) :
    Remembers limit (history ++ ops) (store.performAll ops) := by
  induction ops generalizing history store with
  | nil => rwa [List.append_nil]
  | cons op ops ih =>
    rw [List.append_cons]
    exact ih (h.perform op)

theorem list_eq (store : MemoryStore) (formId : Option ℤ) (count : ℕ) :
    store.list ((formId.map Value.int).getD .null) (some count) =
      (store.submissions.filter (isOf formId)).take count := by
  have hcount (items : List Submission) : takeUpTo (some (count : ℤ)) items = items.take count := by
    rw [takeUpTo, if_neg (by omega), Int.toNat_natCast]
  rw [list, hcount]
  cases formId <;> rfl

/-- A store that remembers the calls before answers the next one as they call for. -/
theorem Remembers.answers (h : Remembers limit history store) (op : Operation) :
    Answers limit history op (store.perform op).2 := by
  have hmissing {slug : String} (hnone : store.get? slug = none) (form : Form) :
      ¬IsCurrent history slug form := by
    rw [← h.found, hnone]
    simp
  cases op with
  | put form => exact .put form
  | record s => exact .record s
  | get slug =>
    show Answers limit history (.get slug) (.form (store.get? slug))
    cases hget : store.get? slug with
    | none => exact .missing (hmissing hget)
    | some form => exact .found ((h.found slug form).mp hget)
  | remove slug =>
    show Answers limit history (.remove slug) (.flag (store.get? slug).isSome)
    cases hget : store.get? slug with
    | none => exact .absent (hmissing hget)
    | some form => exact .removed ((h.found slug form).mp hget)
  | list formId count =>
    show Answers limit history (.list formId count) (.submissions _)
    rw [list_eq, h.kept]
    exact .listed formId count

/-- There is no other answer that the calls before call for. -/
theorem Remembers.eq_of_answers (h : Remembers limit history store) {op : Operation}
    {answer : StepResult} (hanswer : Answers limit history op answer) :
    answer = (store.perform op).2 := by
  have hnone {slug : String} (hmissing : ∀ form, ¬IsCurrent history slug form) :
      store.get? slug = none := by
    rw [Option.eq_none_iff_forall_ne_some]
    exact fun form hform => hmissing form ((h.found slug form).mp hform)
  cases hanswer with
  | put form => rfl
  | record s => rfl
  | found hform =>
    rw [MemoryStore.perform, (h.found _ _).mpr hform]
  | missing hmissing =>
    rw [MemoryStore.perform, hnone hmissing]
  | removed hform =>
    rw [MemoryStore.perform, (h.found _ _).mpr hform]
    rfl
  | absent hmissing =>
    rw [MemoryStore.perform, hnone hmissing]
    rfl
  | listed formId count =>
    rw [MemoryStore.perform, list_eq, h.kept]

/-- A store with forms at the start has been given them by calls, in their order. -/
theorem ofForms_eq (initial : List Form) (limit : Option ℕ) :
    ofForms initial limit = (empty limit).performAll (initial.map .put) := by
  rw [ofForms, MemoryStore.performAll, List.foldl_map]
  rfl

end

/-- What a call leaves as it was: the forms under other slugs than the one it puts or removes, and,
unless it records a submission, those that are kept. -/
structure LeavesRest (store : MemoryStore) (op : Operation) : Prop where
  forms : ∀ slug, ¬op.Touches slug → (store.perform op).1.get? slug = store.get? slug
  submissions : op.recorded? = none → (store.perform op).1.submissions = store.submissions

/-- After any calls, the answer to the next one is the one that the calls before it call for, the
forms that the store was given at the start being counted as put in their order. What the call is not
about stays as it was, and a step that makes the call does all of this as well. -/
theorem store_answers_as_told (limit : Option ℕ) (initial : List Form) (ops : List Operation)
    (op : Operation) :
    let store := (ofForms initial limit).performAll ops
    (∀ answer, Answers limit (initial.map .put ++ ops) op answer ↔ answer = (store.perform op).2) ∧
      LeavesRest store op ∧
      ∀ step : Step, step.Calls op →
        (store.take step).1 = (store.perform op).1 ∧
          (store.take step).2.2 = .ok (store.perform op).2 := by
  intro store
  have hstart : Remembers limit (initial.map .put) (ofForms initial limit) := by
    rw [ofForms_eq]
    exact (remembers_empty limit).performAll _
  have hstore : Remembers limit (initial.map .put ++ ops) store := hstart.performAll ops
  refine ⟨fun answer => ⟨hstore.eq_of_answers, ?_⟩, ⟨fun slug => get?_perform store, ?_⟩,
    fun step hstep => take_of_calls hstep store⟩
  · rintro rfl
    exact hstore.answers op
  · intro hnone
    rw [submissions_perform, hnone]
    rfl

/-- A submission to the form with the given id. -/
def enquiry (formId : ℤ) (about : String) : Submission :=
  ⟨.int formId, .map [(.text "about", .text about)], .text "no_match", .null, .null, .null, .null⟩

/-- Of three submissions two are kept, and of these only the one to the form with id zero is listed:
the limit comes before the form. -/
theorem store_answers_as_told_enquiries :
    let ops : List Operation := [.record (enquiry 0 "size"), .record (enquiry 1 "colour"),
      .remove "stock", .record (enquiry 0 "price")]
    let store := (ofForms [] (some 2)).performAll ops
    (Step.list [(.text "routing_form_id", .int 0), (.text "limit", .int 5)]).Calls
        (.list (some 0) 5) ∧
      (store.perform (.list (some 0) 5)).2 = .submissions [enquiry 0 "price"] ∧
      (store.take (.list [(.text "routing_form_id", .int 0), (.text "limit", .int 5)])).2.2 =
        .ok (.submissions [enquiry 0 "price"]) := by
  intro ops store
  obtain ⟨hanswer, -, hsteps⟩ := store_answers_as_told (some 2) [] ops (.list (some 0) 5)
  have hcalls : (Step.list [(.text "routing_form_id", .int 0), (.text "limit", .int 5)]).Calls
      (.list (some 0) 5) := .list (by rfl) rfl rfl
  have hlisted : (store.perform (.list (some 0) 5)).2 = .submissions [enquiry 0 "price"] :=
    ((hanswer _).mp (.listed (some 0) 5)).symm.trans (by cbv)
  exact ⟨hcalls, hlisted, hlisted ▸ (hsteps _ hcalls).2⟩

end FormRouting.MemoryStore
