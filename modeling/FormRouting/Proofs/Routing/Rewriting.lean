import FormRouting.Proofs.Routing.Acceptance
import FormRouting.Proofs.Routing.SameAnswers
import FormRouting.Service.Submit
import Mathlib.Logic.Relation

/-!
# Submissions that are not told apart

A visitor's choices can be written in many ways: as a list in any order and with repetitions, as a
tuple or a set, as a single value in place of a list of one, with numbers and truth values in place
of their texts, with nulls in place of what is left out, and next to entries that answer no
question. `RewritesTo` lists these rewritings, one at a time. `verdict_of_rewriting` shows that
validation and evaluation do not tell submissions apart that any number of them, in either
direction, turn into each other.

The argument goes question by question. What checking makes of a value depends only on which results
its items have (`checkSelection_same`), and each rewriting leaves these as they are
(`Reselects.results`); blanks are only ever rewritten to blanks (`Reselects.isBlank_eq`).
-/

namespace FormRouting

/-! ## Results that are the same -/

namespace Checked

/-- Two results of checking a value: both left out, the same answer, or the same problems in any
order. -/
inductive Same : Checked → Checked → Prop where
  | omitted : Same .omitted .omitted
  | answered {a b : Answer} (h : a.Same b) : Same (.answered a) (.answered b)
  | refused {es fs : List AnswerError} (h : ∀ e, e ∈ es ↔ e ∈ fs) : Same (.refused es) (.refused fs)

theorem Same.refl (c : Checked) : c.Same c := by
  cases c with
  | omitted => exact .omitted
  | answered a => exact .answered (.refl a)
  | refused es => exact .refused fun _ => Iff.rfl

theorem Same.symm {c d : Checked} (h : c.Same d) : d.Same c := by
  cases h with
  | omitted => exact .omitted
  | answered h => exact .answered h.symm
  | refused h => exact .refused fun e => (h e).symm

theorem Same.trans {c d e : Checked} (hcd : c.Same d) (hde : d.Same e) : c.Same e := by
  cases hcd with
  | omitted => exact hde
  | answered hcd =>
    cases hde with
    | answered hde => exact .answered (hcd.trans hde)
  | refused hcd =>
    cases hde with
    | refused hde => exact .refused fun e => (hcd e).trans (hde e)

/-- Same results have the same problems. -/
theorem Same.errors_iff {c d : Checked} (h : c.Same d) (e : AnswerError) :
    e ∈ c.errors ↔ e ∈ d.errors := by
  cases h with
  | omitted => exact Iff.rfl
  | answered h => exact Iff.rfl
  | refused h => exact h e

/-- Same results have same answers, if they have any. -/
theorem Same.answer? {c d : Checked} (h : c.Same d) :
    Option.Rel Answer.Same c.answer? d.answer? := by
  cases h with
  | omitted => exact .none
  | answered h => exact .some h
  | refused h => exact .none

end Checked

/-! ## Rewriting a value -/

namespace Value

/-- The ways to rewrite what is submitted for a question with several choices. -/
inductive Reselects : Value → Value → Prop where
  /-- The items of a list are put into another order. -/
  | permuted {xs ys : List Value} (h : xs.Perm ys) : Reselects (.list xs) (.list ys)
  /-- An item of a list is repeated. -/
  | repeated {item : Value} {xs : List Value} (h : item ∈ xs) :
      Reselects (.list xs) (.list (item :: xs))
  /-- A list of texts is written as a tuple. -/
  | asTuple (texts : List String) : Reselects (.list (texts.map .text)) (.tuple (texts.map .text))
  /-- A list of texts is written as a set, which holds them in some order. -/
  | asSet (frozen : Bool) {xs ys : List String} (h : ∀ s, s ∈ xs ↔ s ∈ ys) :
      Reselects (.list (xs.map .text)) (.set frozen (ys.map .text))
  /-- A single value is written as a list of one. -/
  | wrapped {v : Value} (hsingle : v.collection? = none) (hv : ¬v.Blank) : Reselects v (.list [v])
  /-- An item of a list is written as its text. -/
  | listItem (before after : List Value) {item : Value} {s : String} (h : item.Spells s) :
      Reselects (.list (before ++ item :: after)) (.list (before ++ .text s :: after))
  /-- An item of a tuple is written as its text. -/
  | tupleItem (before after : List Value) {item : Value} {s : String} (h : item.Spells s) :
      Reselects (.tuple (before ++ item :: after)) (.tuple (before ++ .text s :: after))
  /-- A member of a set is written as its text, which may have been a member before. -/
  | setItem (frozen : Bool) {xs ys : List Value} {item : Value} {s : String} (h : item.Spells s)
      (hitem : item ∈ xs) (hys : ∀ w, w ∈ ys ↔ w = .text s ∨ (w ∈ xs ∧ w ≠ item)) :
      Reselects (.set frozen xs) (.set frozen ys)

/-- A value and what it is rewritten to are both blank or both not. -/
theorem Reselects.isBlank_eq {v w : Value} (h : v.Reselects w) : v.isBlank = w.isBlank := by
  cases h with
  | permuted h => exact h.isEmpty_eq
  | @repeated item xs h =>
    show xs.isEmpty = false
    rw [List.isEmpty_eq_false_iff]
    exact List.ne_nil_of_mem h
  | asTuple texts => rfl
  | @asSet frozen xs ys h =>
    show (xs.map Value.text).isEmpty = (ys.map Value.text).isEmpty
    rw [List.isEmpty_map, List.isEmpty_map, Bool.eq_iff_iff, List.isEmpty_iff, List.isEmpty_iff]
    simp only [List.eq_nil_iff_forall_not_mem, h]
  | wrapped hsingle hv =>
    rw [← isBlank_iff, Bool.not_eq_true] at hv
    exact hv
  | listItem before after h => cases before <;> rfl
  | tupleItem before after h => cases before <;> rfl
  | @setItem frozen xs ys item s h hitem hys =>
    show xs.isEmpty = ys.isEmpty
    rw [List.isEmpty_eq_false_iff.mpr (List.ne_nil_of_mem hitem),
      List.isEmpty_eq_false_iff.mpr (List.ne_nil_of_mem ((hys _).mpr (.inl rfl)))]

/-- Neither side of a rewriting is null. -/
theorem Reselects.ne_null {v w : Value} (h : v.Reselects w) : v ≠ .null ∧ w ≠ .null := by
  cases h with
  | wrapped hsingle hv =>
    refine ⟨?_, by simp⟩
    rintro rfl
    exact hv .null
  | _ => exact ⟨by simp, by simp⟩

end Value

namespace Question

/-- The ways to rewrite the value that is submitted for a question. -/
inductive Rewrites (q : Question) : Value → Value → Prop where
  /-- A number or a truth value is written as its text. -/
  | spelled {v : Value} {s : String} (h : v.Spells s) : Rewrites q v (.text s)
  /-- What is submitted for a question with several choices is written in another way. -/
  | selection {v w : Value} (htype : q.type = .checkbox) (h : v.Reselects w) : Rewrites q v w

/-! ## Checking what is rewritten -/

/-- An item and its text are checked alike. -/
theorem checkItem_text (q : Question) {item : Value} {s : String} (h : item.Spells s) :
    q.checkItem (.text s) = q.checkItem item := by
  unfold checkItem
  rw [Value.answerText?_eq_some_iff.mpr h]
  rfl

/-- Writing one item as its text changes none of the results. -/
theorem map_checkItem_text (q : Question) (before after : List Value) {item : Value} {s : String}
    (h : item.Spells s) :
    (before ++ item :: after).map q.checkItem = (before ++ .text s :: after).map q.checkItem := by
  rw [List.map_append, List.map_append, List.map_cons, List.map_cons, checkItem_text q h]

theorem mem_itemErrors {q : Question} {items : List Value} {e : AnswerError} :
    e ∈ q.itemErrors items ↔ .error e ∈ items.map q.checkItem := by
  unfold itemErrors
  rw [List.mem_filterMap, List.mem_map]
  refine exists_congr fun item => and_congr_right fun _ => ?_
  cases q.checkItem item <;> simp

theorem mem_itemTexts_iff_map {q : Question} {items : List Value} {s : String} :
    s ∈ q.itemTexts items ↔ .ok s ∈ items.map q.checkItem := by
  rw [mem_itemTexts, List.mem_map]
  simp only [checkItem_eq_ok_iff]

/-- Checking a selection depends only on which results its items have. -/
theorem checkSelection_same (q : Question) {v w : Value}
    (h : ∀ r, r ∈ v.choices.map q.checkItem ↔ r ∈ w.choices.map q.checkItem) :
    (q.checkSelection v).Same (q.checkSelection w) := by
  have herrors : ∀ e, e ∈ q.itemErrors v.choices ↔ e ∈ q.itemErrors w.choices := by
    intro e
    rw [mem_itemErrors, mem_itemErrors, h]
  have hnil : q.itemErrors v.choices = [] ↔ q.itemErrors w.choices = [] := by
    simp only [List.eq_nil_iff_forall_not_mem, herrors]
  rw [checkSelection_eq, checkSelection_eq]
  by_cases hv : q.itemErrors v.choices = []
  · rw [if_pos (List.isEmpty_iff.mpr hv), if_pos (List.isEmpty_iff.mpr (hnil.mp hv))]
    refine .answered (.selections ?_)
    rw [List.perm_ext_iff_of_nodup (nodup_itemTexts q _) (nodup_itemTexts q _)]
    intro s
    rw [mem_itemTexts_iff_map, mem_itemTexts_iff_map, h]
  · rw [if_neg (List.isEmpty_iff.not.mpr hv), if_neg (List.isEmpty_iff.not.mpr (hnil.not.mp hv))]
    exact .refused herrors

/-- Rewriting a selection changes none of the results that its items have. -/
theorem results_of_reselects (q : Question) {v w : Value} (h : v.Reselects w)
    (r : Except AnswerError String) :
    r ∈ v.choices.map q.checkItem ↔ r ∈ w.choices.map q.checkItem := by
  cases h with
  | permuted h => exact (h.map q.checkItem).mem_iff
  | @repeated item xs h =>
    show r ∈ xs.map q.checkItem ↔ r ∈ (item :: xs).map q.checkItem
    rw [List.map_cons, List.mem_cons]
    constructor
    · exact .inr
    · rintro (rfl | hr)
      · exact List.mem_map_of_mem h
      · exact hr
  | asTuple texts => exact Iff.rfl
  | @asSet frozen xs ys h =>
    show r ∈ (xs.map Value.text).map q.checkItem ↔ r ∈ (ys.map Value.text).map q.checkItem
    simp only [List.map_map, List.mem_map, h]
  | wrapped hsingle hv =>
    have hchoices : v.choices = [v] := by
      unfold Value.choices
      rw [hsingle]
      rfl
    rw [hchoices]
    rfl
  | @listItem before after item s h =>
    show r ∈ (before ++ item :: after).map q.checkItem ↔ _
    rw [map_checkItem_text q before after h]
    exact Iff.rfl
  | @tupleItem before after item s h =>
    show r ∈ (before ++ item :: after).map q.checkItem ↔ _
    rw [map_checkItem_text q before after h]
    exact Iff.rfl
  | @setItem frozen xs ys item s h hitem hys =>
    -- The sets differ in the item and its text only, and these have one result.
    show r ∈ xs.map q.checkItem ↔ r ∈ ys.map q.checkItem
    rw [List.mem_map, List.mem_map]
    constructor
    · rintro ⟨u, hu, rfl⟩
      by_cases hui : u = item
      · exact ⟨.text s, (hys _).mpr (.inl rfl), by rw [hui, checkItem_text q h]⟩
      · exact ⟨u, (hys u).mpr (.inr ⟨hu, hui⟩), rfl⟩
    · rintro ⟨u, hu, rfl⟩
      rcases (hys u).mp hu with rfl | ⟨hu, -⟩
      · exact ⟨item, hitem, (checkItem_text q h).symm⟩
      · exact ⟨u, hu, rfl⟩

/-- A scalar and its text are checked alike. -/
theorem check_text (q : Question) {v : Value} {s : String} (h : v.Spells s) :
    (q.check v).Same (q.check (.text s)) := by
  by_cases htext : v = .text s
  · rw [htext]
    exact .refl _
  · have hv : v.isBlank = false := by
      cases h with
      | text s => exact absurd rfl htext
      | _ => rfl
    -- No text of a number is empty, so its text is not blank either.
    have hs : (Value.text s).isBlank = false := by
      have hblank : ¬v.Blank := by
        rw [← Value.isBlank_iff, hv]
        exact Bool.false_ne_true
      simpa [Value.isBlank] using h.ne_empty hblank
    unfold check
    rw [hv, hs, if_neg Bool.false_ne_true, if_neg Bool.false_ne_true]
    split_ifs
    · apply checkSelection_same
      have hchoices : v.choices = [v] := by
        cases h <;> rfl
      intro r
      rw [hchoices]
      show r ∈ [q.checkItem v] ↔ r ∈ [q.checkItem (.text s)]
      rw [checkItem_text q h]
    · have hscalar : q.checkScalar (.text s) = q.checkScalar v := by
        unfold checkScalar
        rw [Value.answerText?_eq_some_iff.mpr h]
        rfl
      rw [hscalar]
      exact .refl _

/-- Checking a value that is not null: a blank that may stand is an answer. -/
theorem check_of_ne_null (q : Question) {v : Value} (hv : v ≠ .null) :
    q.check v = if v.isBlank then
        if q.required then .refused [.missing q.id] else .answered q.blankAnswer
      else if q.type.isMultiValued then q.checkSelection v else q.checkScalar v := by
  unfold check
  cases v with
  | null => exact absurd rfl hv
  | _ => rfl

/-- A value and what it is rewritten to are checked alike. -/
theorem check_same_of_rewrites {q : Question} {v w : Value} (h : q.Rewrites v w) :
    (q.check v).Same (q.check w) := by
  cases h with
  | spelled h => exact check_text q h
  | selection htype h =>
    -- Both are blank or neither is; what is not blank is checked as a selection.
    obtain ⟨hv, hw⟩ := h.ne_null
    rw [check_of_ne_null q hv, check_of_ne_null q hw, ← h.isBlank_eq,
      if_pos (isMultiValued_iff.mpr htype), if_pos (isMultiValued_iff.mpr htype)]
    split_ifs
    · exact .refl _
    · exact .refl _
    · exact checkSelection_same q (results_of_reselects q h)

end Question

/-! ## Rewriting a submission -/

namespace Value

/-- What is looked up behind other entries is found unless they have it. -/
theorem lookup_append (key : String) (before after : List (Value × Value)) :
    lookup key (before ++ after) = (lookup key before).or (lookup key after) := by
  induction before with
  | nil => rfl
  | cons e before ih =>
    obtain ⟨k, v⟩ := e
    cases k with
    | text k =>
      rw [List.cons_append, lookup_text_cons, lookup_text_cons, ih]
      split
      · rfl
      · rfl
    | _ => exact ih

/-- An entry under another key is looked past. -/
theorem lookup_cons_of_ne {key : String} {k : Value} (h : k ≠ .text key) (v : Value)
    (rest : List (Value × Value)) : lookup key ((k, v) :: rest) = lookup key rest := by
  cases k with
  | text k =>
    rw [lookup_text_cons, if_neg]
    rintro rfl
    exact h rfl
  | _ => rfl

/-- A key that no entry has is not found. -/
theorem lookup_eq_none {key : String} {entries : List (Value × Value)}
    (h : .text key ∉ entries.map Prod.fst) : lookup key entries = none := by
  induction entries with
  | nil => rfl
  | cons e rest ih =>
    rw [List.map_cons, List.mem_cons, not_or] at h
    rw [lookup_cons_of_ne (Ne.symm h.1), ih h.2]

end Value

namespace Question

open Value (field)

/-- The ways to rewrite a submission to some questions. -/
inductive RewritesTo (questions : List Question) :
    List (Value × Value) → List (Value × Value) → Prop where
  /-- The value for a question is rewritten. -/
  | value (before after : List (Value × Value)) {q : Question} {v w : Value} (hq : q ∈ questions)
      (h : q.Rewrites v w) :
      RewritesTo questions (before ++ (.text q.id, v) :: after) (before ++ (.text q.id, w) :: after)
  /-- An entry with a null is dropped. Its key has no other entry. -/
  | dropped (before after : List (Value × Value)) {k : Value} (hk : k ∉ after.map Prod.fst) :
      RewritesTo questions (before ++ (k, .null) :: after) (before ++ after)
  /-- An entry is added that answers no question. -/
  | added (before after : List (Value × Value)) {k : Value} (v : Value)
      (hk : ∀ q ∈ questions, k ≠ .text q.id) :
      RewritesTo questions (before ++ after) (before ++ (k, v) :: after)

/-- Two submissions to some questions are checked alike, question by question. -/
def CheckedAlike (questions : List Question) (raw raw' : List (Value × Value)) : Prop :=
  ∀ q ∈ questions, (q.check (field raw q.id)).Same (q.check (field raw' q.id))

theorem equivalence_checkedAlike (questions : List Question) :
    Equivalence (CheckedAlike questions) where
  refl _ _ _ := .refl _
  symm h q hq := (h q hq).symm
  trans h h' q hq := (h q hq).trans (h' q hq)

/-- Between questions with distinct ids, one rewriting leaves a submission to be checked alike. -/
theorem checkedAlike_of_rewritesTo {questions : List Question}
    (distinct : (questions.map (·.id)).Nodup) {raw raw' : List (Value × Value)}
    (h : RewritesTo questions raw raw') : CheckedAlike questions raw raw' := by
  intro p hp
  unfold field Value.fieldOr
  cases h with
  | @value before after q v w hq h =>
    rw [Value.lookup_append, Value.lookup_append]
    -- An entry in front hides the one that is rewritten.
    cases Value.lookup p.id before with
    | some u => exact .refl _
    | none =>
      rw [Option.none_or, Option.none_or]
      by_cases hid : p.id = q.id
      · obtain rfl : p = q := List.inj_on_of_nodup_map distinct hp hq hid
        rw [Value.lookup_text_cons, Value.lookup_text_cons, if_pos rfl, if_pos rfl]
        exact check_same_of_rewrites h
      · have hne : Value.text q.id ≠ .text p.id := by
          intro heq
          exact hid (Value.text.inj heq).symm
        rw [Value.lookup_cons_of_ne hne, Value.lookup_cons_of_ne hne]
        exact .refl _
  | @dropped before after k hk =>
    rw [Value.lookup_append, Value.lookup_append]
    cases Value.lookup p.id before with
    | some u => exact .refl _
    | none =>
      rw [Option.none_or, Option.none_or]
      by_cases hkey : k = .text p.id
      · -- The key has no other entry, and what is not found is taken for null.
        rw [hkey] at hk ⊢
        rw [Value.lookup_text_cons, if_pos rfl, Value.lookup_eq_none hk]
        exact .refl _
      · rw [Value.lookup_cons_of_ne hkey]
        exact .refl _
  | @added before after k v hk =>
    rw [Value.lookup_append, Value.lookup_append, Value.lookup_cons_of_ne (hk p hp)]
    exact .refl _

/-! ## Validation and evaluation -/

/-- A question gets the same entry from values that are checked alike, or none from either. -/
theorem rel_entryFor {q : Question} {raw raw' : List (Value × Value)}
    (h : (q.check (field raw q.id)).Same (q.check (field raw' q.id))) :
    Option.Rel (fun e f => e.1 = f.1 ∧ e.2.Same f.2) (entryFor raw q) (entryFor raw' q) := by
  unfold entryFor
  have hrel := h.answer?
  generalize (q.check (field raw q.id)).answer? = a,
    (q.check (field raw' q.id)).answer? = b at hrel ⊢
  cases hrel with
  | none => exact .none
  | some hab => exact .some ⟨rfl, hab⟩

/-- The entries that submissions which are checked alike give to questions are the same. -/
theorem forall₂_entries {questions : List Question} {raw raw' : List (Value × Value)}
    (h : CheckedAlike questions raw raw') :
    List.Forall₂ (fun e f => e.1 = f.1 ∧ e.2.Same f.2) (questions.filterMap (entryFor raw))
      (questions.filterMap (entryFor raw')) := by
  induction questions with
  | nil => exact .nil
  | cons q questions ih =>
    have hrest := ih fun p hp => h p (List.mem_cons_of_mem q hp)
    have hrel := rel_entryFor (h q List.mem_cons_self)
    rw [List.filterMap_cons, List.filterMap_cons]
    generalize entryFor raw q = e, entryFor raw' q = f at hrel ⊢
    cases hrel with
    | none => exact hrest
    | some hef => exact .cons hef hrest

/-- Submissions that are checked alike are both accepted, with sets of answers that are the same, or
both refused for the same problems. -/
theorem validate_same {questions : List Question} {raw raw' : List (Value × Value)}
    (h : CheckedAlike questions raw raw') :
    (∃ A B, validate questions raw = .ok A ∧ validate questions raw' = .ok B ∧ A.Same B) ∨
      ∃ es fs, validate questions raw = .error es ∧ validate questions raw' = .error fs ∧
        ∀ e, e ∈ es ↔ e ∈ fs := by
  have hordered : CheckedAlike (inOrder questions) raw raw' := fun q hq => h q (mem_inOrder.mp hq)
  have herrors : ∀ e, e ∈ (inOrder questions).flatMap (fun q => (q.check (field raw q.id)).errors) ↔
      e ∈ (inOrder questions).flatMap fun q => (q.check (field raw' q.id)).errors := by
    intro e
    rw [List.mem_flatMap, List.mem_flatMap]
    exact exists_congr fun q => and_congr_right fun hq => (hordered q hq).errors_iff e
  rw [validate_eq, validate_eq]
  generalize (inOrder questions).flatMap (fun q => (q.check (field raw q.id)).errors) = es,
    (inOrder questions).flatMap (fun q => (q.check (field raw' q.id)).errors) = fs at herrors ⊢
  -- A submission is refused when there is some problem, which then is one of the other as well.
  by_cases hes : es = []
  · obtain rfl : fs = [] := by
      rw [List.eq_nil_iff_forall_not_mem] at hes ⊢
      exact fun e he => hes e ((herrors e).mpr he)
    rw [hes]
    exact .inl ⟨_, _, rfl, rfl, AnswerSet.same_ofList (forall₂_entries hordered)⟩
  · have hfs : fs ≠ [] := by
      rintro rfl
      exact hes (List.eq_nil_iff_forall_not_mem.mpr fun e he => by simpa using (herrors e).mp he)
    rw [if_neg (List.isEmpty_iff.not.mpr hes), if_neg (List.isEmpty_iff.not.mpr hfs)]
    exact .inr ⟨es, fs, rfl, rfl, herrors⟩

end Question

/-- Validation followed by evaluation does not see any number of rewritings, in either direction:
the two submissions are both accepted, with sets of answers that are the same and one verdict, or
both refused for the same problems. -/
theorem verdict_of_rewriting (form : Form) (distinct : (form.questions.map (·.id)).Nodup)
    {raw raw' : List (Value × Value)}
    (h : Relation.EqvGen (Question.RewritesTo form.questions) raw raw') :
    (∃ A B verdict, Question.validate form.orderedQuestions raw = .ok A ∧
        Question.validate form.orderedQuestions raw' = .ok B ∧ A.Same B ∧
        Verdict.ofAnswers form raw = .ok verdict ∧ Verdict.ofAnswers form raw' = .ok verdict) ∨
      ∃ es fs, Verdict.ofAnswers form raw = .error es ∧ Verdict.ofAnswers form raw' = .error fs ∧
        ∀ e, e ∈ es ↔ e ∈ fs := by
  have halike : Question.CheckedAlike form.questions raw raw' :=
    (Question.equivalence_checkedAlike form.questions).eqvGen_iff.mp
      (h.mono fun _ _ => Question.checkedAlike_of_rewritesTo distinct)
  have hordered : Question.CheckedAlike form.orderedQuestions raw raw' :=
    fun q hq => halike q (Question.mem_inOrder.mp hq)
  unfold Verdict.ofAnswers
  dsimp only
  rcases Question.validate_same hordered with ⟨A, B, hA, hB, hAB⟩ | ⟨es, fs, hes, hfs, hiff⟩
  · refine .inl ⟨A, B, ⟨Decision.evaluate A form.rules form.orderedQuestions,
      Rule.dangling form.rules form.questions⟩, hA, hB, hAB, by rw [hA]; rfl, ?_⟩
    rw [hB, Decision.evaluate_congr hAB]
    rfl
  · exact .inr ⟨es, fs, by rw [hes]; rfl, by rw [hfs]; rfl, hiff⟩

/-- A number in a list with a null behind it, and the set with its text that comes of it in three
rewritings. -/
theorem verdict_of_rewriting_selection :
    let extras : Question := ⟨"extras", .text "Extras", .checkbox, ["bag", "1"], true, 0⟩
    let form : Form :=
      ⟨.int 1, .text "visit", .text "Visit", .null, .bool true, .null, [extras], []⟩
    let raw : List (Value × Value) :=
      [(.text "extras", .list [.int 1, .text "bag"]), (.text "note", .null)]
    let raw' : List (Value × Value) := [(.text "extras", .set true [.text "bag", .text "1"])]
    (form.questions.map (·.id)).Nodup ∧
      Relation.EqvGen (Question.RewritesTo form.questions) raw raw' ∧
      ∃ verdict, Verdict.ofAnswers form raw = .ok verdict ∧
        Verdict.ofAnswers form raw' = .ok verdict := by
  intro extras form raw raw'
  have distinct : (form.questions.map (·.id)).Nodup := by decide
  have hextras : extras ∈ form.questions := List.mem_singleton_self extras
  have hdropped : Question.RewritesTo form.questions raw
      [(.text "extras", .list [.int 1, .text "bag"])] :=
    .dropped [(.text "extras", .list [.int 1, .text "bag"])] [] (by simp)
  have hspelled : Question.RewritesTo form.questions
      [(.text "extras", .list [.int 1, .text "bag"])]
      [(.text "extras", .list [.text "1", .text "bag"])] :=
    .value [] [] hextras (.selection rfl (.listItem [] [.text "bag"] (.int 1)))
  have hset : Question.RewritesTo form.questions
      [(.text "extras", .list [.text "1", .text "bag"])] raw' :=
    .value [] [] hextras (.selection rfl
      (@Value.Reselects.asSet true ["1", "bag"] ["bag", "1"] fun s => by simp [or_comm]))
  have h : Relation.EqvGen (Question.RewritesTo form.questions) raw raw' :=
    .trans _ _ _ (.rel _ _ hdropped) (.trans _ _ _ (.rel _ _ hspelled) (.rel _ _ hset))
  refine ⟨distinct, h, ?_⟩
  rcases verdict_of_rewriting form distinct h with
    ⟨_, _, verdict, _, _, _, hv, hv'⟩ | ⟨es, _, hes, _⟩
  · exact ⟨verdict, hv, hv'⟩
  · have hquestions : form.orderedQuestions = [extras] := List.mergeSort_singleton extras
    rw [Verdict.ofAnswers, hquestions, Question.validate_eq, Question.inOrder,
      List.mergeSort_singleton] at hes
    cases hes

end FormRouting
