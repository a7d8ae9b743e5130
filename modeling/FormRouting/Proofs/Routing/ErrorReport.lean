import FormRouting.Proofs.Form.Presentable
import FormRouting.Proofs.Routing.Acceptance
import Mathlib

/-!
# What validation reports

Validation reports every problem of a submission, question by question in the order in which these
are put. `Question.Reports` is the rule for one question, in terms of the submitted value alone: at
most one problem for a question with one answer, and for a question with several one for each item
that has one. `reports_iff` shows that checking the value reports just that, and
`validate_reports_each_question` that a report is made of the reports that the questions get when
each of them is asked alone. So a problem is never caused by what another question was answered, and
the ids in a report go through the form as a visitor sees it.
-/

namespace FormRouting

/-! ## Runs of one element -/

section

variable {ι α : Type} [DecidableEq α] {a : α} {run rest : List α}

/-- Collapsing repeats skips what repeats the element in front. -/
theorem destutter'_append_of_forall_eq (h : ∀ b ∈ run, b = a) :
    (run ++ rest).destutter' (· ≠ ·) a = rest.destutter' (· ≠ ·) a := by
  induction run with
  | nil => rfl
  | cons b run ih =>
    obtain rfl := h b List.mem_cons_self
    rw [List.cons_append, List.destutter'_cons_neg _ (not_not_intro rfl)]
    exact ih fun c hc => h c (List.mem_cons_of_mem _ hc)

variable {key : ι → α} {runs : ι → List α}

/-- Behind an element, runs of the keys of some items collapse to some of the keys, in the order of
the items. -/
theorem destutter'_flatMap_sublist (h : ∀ i, ∀ b ∈ runs i, b = key i) (items : List ι) (a : α) :
    ((items.flatMap runs).destutter' (· ≠ ·) a).Sublist (a :: items.map key) := by
  induction items generalizing a with
  | nil => exact List.Sublist.refl _
  | cons i items ih =>
    rw [List.flatMap_cons, List.map_cons]
    have hrun := h i
    generalize runs i = run at hrun
    cases run with
    | nil => exact (ih a).trans ((List.sublist_cons_self _ _).cons_cons a)
    | cons b run =>
      obtain rfl := hrun b List.mem_cons_self
      have htail : ∀ c ∈ run, c = key i := fun c hc => hrun c (List.mem_cons_of_mem _ hc)
      rw [List.cons_append, List.destutter'_cons]
      split_ifs with hne
      · rw [destutter'_append_of_forall_eq htail]
        exact (ih (key i)).cons_cons a
      · -- The run goes on with the element in front of it.
        obtain rfl := not_not.mp hne
        rw [destutter'_append_of_forall_eq htail]
        exact (ih (key i)).trans (List.sublist_cons_self _ _)

/-- Runs of the keys of some items, one after the other, collapse to some of the keys, in the order
of the items. -/
theorem destutter_flatMap_sublist (h : ∀ i, ∀ b ∈ runs i, b = key i) (items : List ι) :
    ((items.flatMap runs).destutter (· ≠ ·)).Sublist (items.map key) := by
  induction items with
  | nil => exact List.Sublist.refl _
  | cons i items ih =>
    rw [List.flatMap_cons, List.map_cons]
    have hrun := h i
    generalize runs i = run at hrun
    cases run with
    | nil => exact ih.cons _
    | cons b run =>
      obtain rfl := hrun b List.mem_cons_self
      rw [List.cons_append, List.destutter_cons',
        destutter'_append_of_forall_eq fun c hc => hrun c (List.mem_cons_of_mem _ hc)]
      exact destutter'_flatMap_sublist h items (key i)

end

namespace Question

open Value (field)

variable {q : Question} {v : Value} {expected : String}

/-! ## The rule for one question -/

/-- What is wrong with a value that should spell an answer to a question: it is no scalar, or the
text that it spells is not offered by a question that offers some. -/
inductive Objects (q : Question) (expected : String) : Value → AnswerError → Prop where
  | shape {v : Value} (h : ∀ s, ¬v.Spells s) : Objects q expected v (.wrongShape q.id expected)
  | option {v : Value} {s : String} (htype : q.type ≠ .text) (h : v.Spells s) (hs : s ∉ q.options) :
      Objects q expected v (.notAnOption q.id s)

/-- The problems with the items of a selection: one for each item that has one, in the order of the
items. -/
inductive ReportsItems (q : Question) : List Value → List AnswerError → Prop where
  | nil : ReportsItems q [] []
  | fine {item : Value} {items : List Value} {es : List AnswerError}
      (h : ∀ e, ¬q.Objects "a list of option values" item e) (rest : ReportsItems q items es) :
      ReportsItems q (item :: items) es
  | offending {item : Value} {e : AnswerError} {items : List Value} {es : List AnswerError}
      (h : q.Objects "a list of option values" item e) (rest : ReportsItems q items es) :
      ReportsItems q (item :: items) (e :: es)

/-- The problems with the value submitted for a question. -/
inductive Reports (q : Question) (v : Value) : List AnswerError → Prop where
  /-- A required question is left blank. -/
  | missing (hv : v.Blank) (h : q.required = true) : Reports q v [.missing q.id]
  | blank (hv : v.Blank) (h : q.required = false) : Reports q v []
  /-- A question with one answer gets a bad one. -/
  | scalar {e : AnswerError} (hv : ¬v.Blank) (htype : q.type ≠ .checkbox)
      (h : q.Objects "a single value" v e) : Reports q v [e]
  | fine (hv : ¬v.Blank) (htype : q.type ≠ .checkbox)
      (h : ∀ e, ¬q.Objects "a single value" v e) : Reports q v []
  /-- A question with several answers gets some, good or bad. -/
  | selection {es : List AnswerError} (hv : ¬v.Blank) (htype : q.type = .checkbox)
      (h : q.ReportsItems v.choices es) : Reports q v es

/-! ## Reports of the check -/

/-- At most one thing is wrong with a value. -/
theorem Objects.unique {e f : AnswerError} (he : q.Objects expected v e)
    (hf : q.Objects expected v f) : e = f := by
  cases he with
  | shape h =>
    cases hf with
    | shape _ => rfl
    | option _ hs _ => exact absurd hs (h _)
  | option htype h hs =>
    cases hf with
    | shape hnone => exact absurd h (hnone _)
    | option _ h' _ => rw [h.unique h']

/-- What is wrong with a value concerns the question. -/
theorem Objects.questionId {e : AnswerError} (h : q.Objects expected v e) : e.questionId = q.id := by
  cases h with
  | shape _ => rfl
  | option _ _ _ => rfl

/-- Nothing is wrong with a value that spells what the question offers. -/
theorem not_objects {s : String} (h : v.Spells s) (hs : q.type = .text ∨ s ∈ q.options)
    (e : AnswerError) : ¬q.Objects expected v e := by
  intro hobjects
  cases hobjects with
  | shape hnone => exact hnone s h
  | option htype h' hs' =>
    obtain rfl := h.unique h'
    exact hs.elim htype hs'

/-- No text is a value's exactly when it has none. -/
theorem forall_not_spells_iff : (∀ s, ¬v.Spells s) ↔ v.answerText? = none := by
  simp only [← Value.answerText?_eq_some_iff, Option.eq_none_iff_forall_not_mem, Option.mem_def]

/-- Checking an item finds what is wrong with it, if something is. -/
theorem objects_iff_checkItem (htype : q.type ≠ .text) {item : Value} {e : AnswerError} :
    q.Objects selectionShape item e ↔ q.checkItem item = .error e := by
  have hfound : ∀ e', q.checkItem item = .error e' → q.Objects selectionShape item e' := by
    intro e' h
    unfold checkItem at h
    cases htext : item.answerText? with
    | none =>
      rw [htext] at h
      cases h
      exact .shape (forall_not_spells_iff.mpr htext)
    | some s =>
      rw [htext] at h
      dsimp only at h
      split_ifs at h with hs
      cases h
      exact .option htype (Value.answerText?_eq_some_iff.mp htext)
        (by rwa [List.contains_iff_mem] at hs)
  constructor
  · intro h
    cases hcheck : q.checkItem item with
    | ok s =>
      obtain ⟨hspells, hs⟩ := checkItem_eq_ok_iff.mp hcheck
      exact absurd h (not_objects hspells (.inr hs) e)
    | error e' => rw [h.unique (hfound e' hcheck)]
  · exact hfound e

/-- The problems with a selection are those of its items. -/
theorem reportsItems_iff (htype : q.type ≠ .text) {items : List Value} {es : List AnswerError} :
    q.ReportsItems items es ↔ q.itemErrors items = es := by
  induction items generalizing es with
  | nil =>
    constructor
    · rintro ⟨⟩
      rfl
    · rintro rfl
      exact .nil
  | cons item items ih =>
    have hitem : ∀ e, q.Objects selectionShape item e ↔ q.checkItem item = .error e :=
      fun e => objects_iff_checkItem htype
    unfold itemErrors at ih ⊢
    cases hcheck : q.checkItem item with
    | ok s =>
      have hfine : ∀ e, ¬q.Objects selectionShape item e := by
        intro e
        rw [hitem, hcheck]
        rintro ⟨⟩
      rw [List.filterMap_cons_none (by rw [hcheck]), ← ih]
      constructor
      · intro h
        cases h with
        | fine _ rest => exact rest
        | offending h _ => exact absurd h (hfine _)
      · exact .fine hfine
    | error e =>
      have hoffending : q.Objects selectionShape item e := (hitem e).mpr hcheck
      rw [List.filterMap_cons_some (by rw [hcheck])]
      constructor
      · intro h
        cases h with
        | fine h _ => exact absurd hoffending (h e)
        | offending h rest => rw [h.unique hoffending, ih.mp rest]
      · rintro rfl
        exact .offending hoffending (ih.mpr rfl)

/-- Checking a scalar finds what is wrong with it, if something is. -/
theorem errors_checkScalar (q : Question) (v : Value) :
    (∃ e, q.Objects scalarShape v e ∧ (q.checkScalar v).errors = [e]) ∨
      ((∀ e, ¬q.Objects scalarShape v e) ∧ (q.checkScalar v).errors = []) := by
  unfold checkScalar
  cases htext : v.answerText? with
  | none => exact .inl ⟨_, .shape (forall_not_spells_iff.mpr htext), rfl⟩
  | some s =>
    have hspells := Value.answerText?_eq_some_iff.mp htext
    dsimp only
    split_ifs with h
    · rw [List.contains_iff_mem] at h
      exact .inl ⟨_, .option h.1 hspells h.2, rfl⟩
    · refine .inr ⟨not_objects hspells ?_, rfl⟩
      rw [List.contains_iff_mem] at h
      tauto

/-- The problem with leaving a question blank, if there is one. -/
theorem errors_check_of_blank (hv : v.Blank) :
    (q.check v).errors = if q.required then [.missing q.id] else [] := by
  unfold check
  rw [if_pos ((Value.isBlank_iff v).mpr hv)]
  split_ifs
  · rfl
  · cases hv <;> rfl

/-- A selection is refused for the problems with its items. -/
theorem errors_checkSelection (q : Question) (v : Value) :
    (q.checkSelection v).errors = q.itemErrors v.choices := by
  rw [checkSelection_eq]
  split_ifs with h
  · rw [List.isEmpty_iff.mp h]
    rfl
  · rfl

/-- Checking the value for a question reports its problems and nothing else. -/
theorem reports_iff {es : List AnswerError} : q.Reports v es ↔ (q.check v).errors = es := by
  by_cases hv : v.Blank
  · rw [errors_check_of_blank hv]
    constructor
    · intro h
      cases h with
      | missing _ h => rw [if_pos h]
      | blank _ h => rw [h, if_neg Bool.false_ne_true]
      | scalar hnot | fine hnot | selection hnot => exact absurd hv hnot
    · rintro rfl
      split_ifs with h
      · exact .missing hv h
      · exact .blank hv (Bool.not_eq_true _ ▸ h)
  · rw [check_of_not_blank q hv]
    by_cases htype : q.type = .checkbox
    · have hoffers : q.type ≠ .text := by
        rw [htype]
        decide
      rw [if_pos (isMultiValued_iff.mpr htype), errors_checkSelection, ← reportsItems_iff hoffers]
      constructor
      · intro h
        cases h with
        | missing hblank | blank hblank => exact absurd hblank hv
        | scalar _ hnot | fine _ hnot => exact absurd htype hnot
        | selection _ _ h => exact h
      · exact .selection hv htype
    · rw [if_neg (isMultiValued_iff.not.mpr htype)]
      constructor
      · intro h
        cases h with
        | missing hblank | blank hblank => exact absurd hblank hv
        | selection _ hcheckbox => exact absurd hcheckbox htype
        | scalar _ _ h =>
          rcases errors_checkScalar q v with ⟨e, he, herrors⟩ | ⟨hnone, -⟩
          · rw [herrors, he.unique h]
          · exact absurd h (hnone _)
        | fine _ _ h =>
          rcases errors_checkScalar q v with ⟨e, he, -⟩ | ⟨-, herrors⟩
          · exact absurd he (h e)
          · exact herrors
      · rintro rfl
        rcases errors_checkScalar q v with ⟨e, he, herrors⟩ | ⟨hnone, herrors⟩
        · rw [herrors]
          exact .scalar hv htype he
        · rw [herrors]
          exact .fine hv htype hnone

theorem ReportsItems.questionId {items : List Value} {es : List AnswerError}
    (h : q.ReportsItems items es) : ∀ e ∈ es, e.questionId = q.id := by
  induction h with
  | nil => simp
  | fine _ _ ih => exact ih
  | offending h _ ih => exact List.forall_mem_cons.mpr ⟨h.questionId, ih⟩

/-- The problems of a question name it. -/
theorem Reports.questionId {es : List AnswerError} (h : q.Reports v es) :
    ∀ e ∈ es, e.questionId = q.id := by
  intro e he
  cases h with
  | missing =>
    rw [List.mem_singleton.mp he]
    rfl
  | blank | fine => cases he
  | scalar _ _ h =>
    rw [List.mem_singleton.mp he]
    exact h.questionId
  | selection _ _ h => exact h.questionId e he

/-! ## Reports of validation -/

/-- The problems that validation reports, of which there are none when it accepts. -/
def reported : Except (List AnswerError) (AnswerSet Answer) → List AnswerError
  | .ok _ => []
  | .error errors => errors

variable {questions : List Question} {raw : List (Value × Value)}

theorem reported_validate (questions : List Question) (raw : List (Value × Value)) :
    reported (validate questions raw) =
      (inOrder questions).flatMap fun q => (q.check (field raw q.id)).errors := by
  rw [validate_eq]
  split_ifs with h
  · rw [List.isEmpty_iff.mp h]
    rfl
  · rfl

/-- Validation reports nothing exactly when it accepts. -/
theorem reported_validate_eq_nil_iff :
    reported (validate questions raw) = [] ↔ ∃ answers, validate questions raw = .ok answers := by
  rw [reported_validate, validate_eq, ← List.isEmpty_iff]
  split_ifs with h
  · exact iff_of_true h ⟨_, rfl⟩
  · refine iff_of_false h ?_
    rintro ⟨answers, ⟨⟩⟩

/-- The report on one question is that of its check. -/
theorem reported_validate_singleton (q : Question) (raw : List (Value × Value)) :
    reported (validate [q] raw) = (q.check (field raw q.id)).errors := by
  rw [reported_validate, inOrder, List.mergeSort_singleton, List.flatMap_singleton]

/-- A form is shown with the ids of its questions, in the order in which these are put. -/
theorem map_id_of_ofForm {form : Form} {shown : PublicForm}
    (h : PublicForm.ofForm form = .ok shown) :
    shown.questions.map (·.id) = (inOrder form.questions).map (·.id) := by
  have hshows := (PublicForm.ofForm_eq_ok_iff.mp h).questions
  unfold Form.orderedQuestions at hshows
  generalize inOrder form.questions = ordered, shown.questions = listed at hshows ⊢
  induction hshows with
  | nil => rfl
  | cons hshows _ ih => rw [List.map_cons, List.map_cons, hshows.id, ih]

/-- The report on a submission is made of the reports that the questions get when each is asked
alone, one after the other in the order in which they are put. Each of these is what the rule for
one question says. There are answers exactly when nothing is reported, and the ids in the report, but
for repeats behind each other, are ids of the questions as the form is shown, in this order. -/
theorem validate_reports_each_question (questions : List Question) (raw : List (Value × Value)) :
    PutInOrder questions (inOrder questions) ∧
      reported (validate questions raw) =
        (inOrder questions).flatMap (fun q => reported (validate [q] raw)) ∧
      (∀ q es, reported (validate [q] raw) = es ↔ q.Reports (field raw q.id) es) ∧
      ((∃ answers, validate questions raw = .ok answers) ↔
        reported (validate questions raw) = []) ∧
      ∀ form shown, form.questions = questions → PublicForm.ofForm form = .ok shown →
        List.Sublist (((reported (validate questions raw)).map (·.questionId)).destutter (· ≠ ·))
          (shown.questions.map (·.id)) := by
  refine ⟨putInOrder_inOrder questions, ?_, ?_, reported_validate_eq_nil_iff.symm, ?_⟩
  · simp only [reported_validate_singleton]
    exact reported_validate questions raw
  · intro q es
    rw [reported_validate_singleton, reports_iff]
  · rintro form shown rfl hshown
    rw [map_id_of_ofForm hshown, reported_validate, List.map_flatMap]
    refine destutter_flatMap_sublist (fun q id hid => ?_) _
    obtain ⟨e, he, rfl⟩ := List.mem_map.mp hid
    exact (reports_iff.mpr rfl).questionId e he

/-- A selection that repeats a bad item behind one that is no scalar, and a size that is missing. The
size is asked for first, though it is listed behind. -/
theorem validate_reports_each_question_stock :
    let extras : Question := ⟨"extras", .text "Extras", .checkbox, ["bag"], false, 2⟩
    let size : Question := ⟨"size", .text "Size", .radio, ["42"], true, 1⟩
    let form : Form :=
      ⟨.int 1, .text "stock", .text "Stock", .null, .bool true, .null, [extras, size], []⟩
    let raw : List (Value × Value) :=
      [(.text "extras", .list [.text "box", .text "bag", .null, .text "box"])]
    let report : List AnswerError :=
      [.notAnOption "extras" "box", .wrongShape "extras" "a list of option values",
        .notAnOption "extras" "box"]
    extras.Reports (field raw "extras") report ∧
      reported (validate [extras, size] raw) = .missing "size" :: report ∧
      ∃ shown, PublicForm.ofForm form = .ok shown ∧
        List.Sublist
          (((reported (validate [extras, size] raw)).map (·.questionId)).destutter (· ≠ ·))
          (shown.questions.map (·.id)) := by
  intro extras size form raw report
  obtain ⟨-, hreport, hrule, -, hids⟩ := validate_reports_each_question [extras, size] raw
  have horder : inOrder [extras, size] = [size, extras] := by cbv
  have hextras : reported (validate [extras] raw) = report := by cbv
  have hsize : reported (validate [size] raw) = [.missing "size"] := by cbv
  refine ⟨(hrule extras _).mp hextras, ?_, ?_⟩
  · rw [hreport, horder, List.flatMap_cons, List.flatMap_cons, hsize, hextras]
    rfl
  · obtain ⟨shown, hshown⟩ : ∃ shown, PublicForm.ofForm form = .ok shown := ⟨_, by cbv⟩
    exact ⟨shown, hshown, hids form shown rfl hshown⟩

end Question

end FormRouting
