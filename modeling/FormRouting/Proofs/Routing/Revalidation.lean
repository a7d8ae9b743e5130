import FormRouting.Proofs.Routing.RepeatedQuestions
import FormRouting.Proofs.Routing.Rewriting
import Mathlib

/-!
# Answers submitted once more

The answers that validation makes of a submission are a submission themselves, of texts and of sets
of texts (`AnswerSet.WrittenAs`). `validate_is_idempotent` shows that validation accepts them and
gives them back.

The argument goes question by question: what a value amounts to is taken by the question, and
amounts to itself (`takes_and_gives_written`). A question that got no answer has none in what is
submitted again, and leaves it out once more.
-/

namespace FormRouting

/-! ## Answers as submissions -/

/-- What a set of answers is as a submission: each answer under its id, in their order. -/
def AnswerSet.WrittenAs (answers : AnswerSet Answer) (raw : List (Value × Value)) : Prop :=
  List.Forall₂ (fun e f => f.1 = .text e.1 ∧ e.2.WrittenAs f.2) answers.entries raw

/-- Every set of answers can be submitted. -/
theorem AnswerSet.writtenAs_toValue (answers : AnswerSet Answer) :
    answers.WrittenAs (answers.entries.map fun e => (.text e.1, e.2.toValue)) := by
  unfold WrittenAs
  rw [List.forall₂_map_right_iff, List.forall₂_same]
  exact fun e _ => ⟨rfl, e.2.writtenAs_toValue⟩

/-- Under an id a submission of answers holds what the answer is, or nothing. -/
theorem AnswerSet.WrittenAs.lookup {answers : AnswerSet Answer} {raw : List (Value × Value)}
    (h : answers.WrittenAs raw) (id : String) :
    Option.Rel Answer.WrittenAs (answers.get? id) (Value.lookup id raw) := by
  unfold AnswerSet.WrittenAs at h
  unfold AnswerSet.get?
  generalize answers.entries = entries at h ⊢
  induction h with
  | nil => exact .none
  | @cons e f _ _ hef _ ih =>
    obtain ⟨k, v⟩ := f
    obtain ⟨rfl, hv⟩ := hef
    rw [List.find?_cons, Value.lookup_text_cons]
    by_cases hid : e.1 = id
    · rw [if_pos hid, hid, beq_self_eq_true]
      exact .some hv
    · rw [if_neg hid, beq_false_of_ne hid]
      exact ih

namespace Value

variable {frozen : Bool} {texts : List String}

/-- A set of texts is blank when it is empty. -/
theorem blank_texts_iff : (Value.set frozen (texts.map .text)).Blank ↔ texts = [] := by
  rw [← isBlank_iff]
  show (texts.map Value.text).isEmpty = true ↔ texts = []
  rw [List.isEmpty_map, List.isEmpty_iff]

/-- The choices of a set of texts spell these. -/
theorem exists_choice_texts_iff {s : String} :
    (∃ item ∈ (Value.set frozen (texts.map .text)).choices, item.Spells s) ↔ s ∈ texts := by
  constructor
  · rintro ⟨item, hitem, hs⟩
    obtain ⟨t, ht, rfl⟩ := List.mem_map.mp hitem
    rwa [hs.unique (.text t)]
  · exact fun hs => ⟨.text s, List.mem_map_of_mem hs, .text s⟩

end Value

namespace Question

open Value (field)

/-! ## Checking an answer -/

variable {q : Question}

/-- A question takes what a value amounts to for it, which amounts to itself: a text. -/
theorem takes_and_gives_text {v : Value} {s : String} (htype : q.type ≠ .checkbox)
    (htakes : q.Takes v) (hgives : q.Gives v (.text s)) :
    q.Takes (.text s) ∧ q.Gives (.text s) (.text s) := by
  refine ⟨⟨?_, fun hs => ?_⟩,
    (gives_one_iff htype).mpr ⟨s, rfl, by rintro ⟨⟩; rfl, fun _ => .text s⟩⟩
  · -- Only a blank amounts to the empty text.
    rintro ⟨⟩
    refine htakes.1 (by_contra fun hv => ?_)
    exact (hgives.ne_empty hv (htakes.2 hv)).1 rfl
  · have hchosen := (suits_of_gives htakes hgives).chosen
    have hoption : q.type = .select ∨ q.type = .radio → s ∈ q.options := by
      intro hchoice
      obtain ⟨_, ⟨rfl⟩, hoption | ⟨rfl, -⟩⟩ := hchosen hchoice
      · exact hoption
      · exact absurd .text hs
    unfold Fits
    cases h : q.type with
    | checkbox => exact absurd h htype
    | text => exact ⟨s, .text s⟩
    | select => exact ⟨s, .text s, hoption (.inl h)⟩
    | radio => exact ⟨s, .text s, hoption (.inr h)⟩

/-- A question takes what a value amounts to for it, which amounts to itself: a set of options, in
any order. -/
theorem takes_and_gives_selections {v : Value} {xs ys : List String} (frozen : Bool)
    (htype : q.type = .checkbox) (htakes : q.Takes v) (hgives : q.Gives v (.selections xs))
    (hperm : xs.Perm ys) :
    q.Takes (.set frozen (ys.map .text)) ∧
      q.Gives (.set frozen (ys.map .text)) (.selections xs) := by
  have hblank : (Value.set frozen (ys.map .text)).Blank ↔ xs = [] := by
    rw [Value.blank_texts_iff, ← List.isEmpty_iff, ← hperm.isEmpty_eq, List.isEmpty_iff]
  refine ⟨⟨fun h => htakes.1 (by_contra fun hv => ?_), fun _ => ?_⟩, ?_⟩
  · -- Only a blank amounts to the empty set.
    have hne := (hgives.ne_empty hv (htakes.2 hv)).2
    rw [hblank.mp h] at hne
    exact hne rfl
  · rw [Fits, htype]
    intro item hitem
    obtain ⟨s, hs, rfl⟩ := List.mem_map.mp hitem
    have hoffered := (suits_of_gives htakes hgives).offered xs rfl
    exact ⟨s, .text s, hoffered s (hperm.mem_iff.mpr hs)⟩
  · obtain ⟨_, ⟨rfl⟩, hnodup, -⟩ := (gives_several_iff htype).mp hgives
    refine (gives_several_iff htype).mpr ⟨xs, rfl, hnodup, fun s => ?_⟩
    rw [Value.exists_choice_texts_iff, hblank, ← hperm.mem_iff]
    constructor
    · exact fun hs => ⟨List.ne_nil_of_mem hs, hs⟩
    · exact fun h => h.2

/-- A question takes what a value amounts to for it, and this amounts to itself. -/
theorem takes_and_gives_written {v w : Value} {a : Answer} (htakes : q.Takes v)
    (hgives : q.Gives v a) (hw : a.WrittenAs w) : q.Takes w ∧ q.Gives w a := by
  by_cases htype : q.type = .checkbox
  · cases hw with
    | text s =>
      obtain ⟨_, ⟨⟩, -⟩ := (gives_several_iff htype).mp hgives
    | selections frozen hperm =>
      exact takes_and_gives_selections frozen htype htakes hgives hperm
  · cases hw with
    | text s => exact takes_and_gives_text htype htakes hgives
    | selections frozen hperm =>
      obtain ⟨_, ⟨⟩, -⟩ := (gives_one_iff htype).mp hgives

/-- A value amounts to one text, or to one set of options. -/
theorem Gives.same {v : Value} {a b : Answer} (ha : q.Gives v a) (hb : q.Gives v b) : a.Same b := by
  by_cases htype : q.type = .checkbox
  · obtain ⟨xs, rfl, hxs, hxmem⟩ := (gives_several_iff htype).mp ha
    obtain ⟨ys, rfl, hys, hymem⟩ := (gives_several_iff htype).mp hb
    refine .selections ((List.perm_ext_iff_of_nodup hxs hys).mpr fun s => ?_)
    rw [hxmem, hymem]
  · obtain ⟨s, rfl, hs, hs'⟩ := (gives_one_iff htype).mp ha
    obtain ⟨t, rfl, ht, ht'⟩ := (gives_one_iff htype).mp hb
    have hst : s = t := by
      by_cases hv : v.Blank
      · rw [hs hv, ht hv]
      · exact (hs' hv).unique (ht' hv)
    rw [hst]
    exact .text t

/-! ## Validation -/

variable {questions : List Question} {raw raw' : List (Value × Value)}

/-- The answers to a submission are checked like the submission. -/
theorem checkedAlike_answers (distinct : (questions.map (·.id)).Nodup) {answers : AnswerSet Answer}
    (h : validate questions raw = .ok answers) (hwritten : answers.WrittenAs raw') :
    CheckedAlike questions raw raw' := by
  intro q hq
  have hlookup := hwritten.lookup q.id
  rcases check_cases q (field raw q.id) with
    ⟨-, hnull, -⟩ | ⟨htakes, hnull, a, hcheck, hgives⟩ | ⟨hnot, -⟩
  · -- Nothing was answered, so nothing is submitted again.
    rw [get?_eq_none_of_null h hnull] at hlookup
    have hnone : field raw' q.id = .null := by
      unfold Value.field Value.fieldOr
      generalize Value.lookup q.id raw' = found at hlookup ⊢
      cases hlookup with
      | none => rfl
    rw [hnull, hnone]
    exact .refl _
  -- What was given in answer is taken again, and gives the same.
  · obtain ⟨b, hb, hgives'⟩ := get?_of_validate distinct h hq hnull
    rw [hb] at hlookup
    obtain ⟨w, hw, hfield⟩ : ∃ w, b.WrittenAs w ∧ field raw' q.id = w := by
      unfold Value.field Value.fieldOr
      generalize Value.lookup q.id raw' = found at hlookup ⊢
      cases hlookup with
      | some hw => exact ⟨_, hw, rfl⟩
    obtain ⟨htakes', hagain⟩ := takes_and_gives_written htakes hgives' hw
    rw [hfield, hcheck]
    rcases check_cases q w with ⟨-, rfl, -⟩ | ⟨-, -, c, hcheck', hc⟩ | ⟨hnot, -⟩
    · cases hw
    · rw [hcheck']
      exact .answered ((hgives.same hgives').trans (hagain.same hc))
    · exact absurd htakes' hnot
  · exact absurd ((validate_eq_ok_iff.mp h).1 q hq) hnot

/-- What an answer is as a submission can be checked, for it holds nothing but texts. -/
theorem canCheck_of_writtenAs {a : Answer} {w : Value} (q : Question) (h : a.WrittenAs w) :
    q.canCheck w = true := by
  unfold canCheck
  cases h with
  | text s => cases q.type.isMultiValued <;> rfl
  | selections frozen _ =>
    cases q.type.isMultiValued <;> simp [Value.collection?, Value.isAnswerWritable]

/-- Answers that are submitted can all be checked. -/
theorem canCheck_of_answers {answers : AnswerSet Answer} (q : Question)
    (hwritten : answers.WrittenAs raw') : q.canCheck (field raw' q.id) = true := by
  have hlookup := hwritten.lookup q.id
  unfold Value.field Value.fieldOr
  generalize answers.get? q.id = given, Value.lookup q.id raw' = found at hlookup ⊢
  cases hlookup with
  | none =>
    unfold canCheck
    cases q.type.isMultiValued <;> rfl
  | some hw => exact canCheck_of_writtenAs q hw

/-- A mapping whose values can be checked is validated entry by entry. -/
theorem validateValue_map (h : ∀ q ∈ questions, q.canCheck (field raw q.id) = true) :
    validateValue questions (.map raw) = .ok (validate questions raw) := by
  have hraw : (Value.map raw).orElse (.map []) = .map raw := by cases raw <;> rfl
  rw [validateValue, hraw]
  exact if_pos (List.all_eq_true.mpr h)

/-- What is validated at all is validated as some entries. -/
theorem exists_validate_of_validateValue {raw : Value}
    {result : Except (List AnswerError) (AnswerSet Answer)}
    (h : validateValue questions raw = .ok result) :
    ∃ entries, result = validate questions entries := by
  unfold validateValue at h
  split at h
  · split_ifs at h
    exact ⟨_, (Except.ok.inj h).symm⟩
  · split_ifs at h with hempty
    exact ⟨[], by rw [← Except.ok.inj h, List.isEmpty_iff.mp hempty]⟩

/-- Validation is idempotent. Between questions with distinct ids, the answers that it makes of a
submission are accepted when they are submitted themselves, whatever order their sets are gone
through in, and give the same answers to the same questions in the same order. -/
theorem validate_is_idempotent (questions : List Question) (raw : Value)
    (distinct : (questions.map (·.id)).Nodup) (answers : AnswerSet Answer)
    (h : validateValue questions raw = .ok (.ok answers)) (raw' : List (Value × Value))
    (hwritten : answers.WrittenAs raw') :
    ∃ answers', validateValue questions (.map raw') = .ok (.ok answers') ∧
      answers.Same answers' := by
  obtain ⟨entries, hentries⟩ := exists_validate_of_validateValue h
  have halike := checkedAlike_answers distinct hentries.symm hwritten
  rcases validate_same halike with ⟨A, B, hA, hB, hsame⟩ | ⟨es, -, herror, -, -⟩
  · obtain rfl := Except.ok.inj (hentries.trans hA)
    have hcheck : ∀ q ∈ questions, q.canCheck (field raw' q.id) = true := fun q _ =>
      canCheck_of_answers q hwritten
    exact ⟨B, by rw [validateValue_map hcheck, hB], hsame⟩
  · cases hentries.trans herror

/-- A number among the selections, a blank that is kept and a null that is left out. The answers are
submitted with their options in another order. -/
theorem validate_is_idempotent_stock :
    let extras : Question := ⟨"extras", .text "Extras", .checkbox, ["bag", "7"], true, 1⟩
    let note : Question := ⟨"note", .text "Note", .text, [], false, 2⟩
    let name : Question := ⟨"name", .text "Name", .text, [], false, 3⟩
    let raw : Value := .map [(.text "extras", .list [.int 7, .text "bag", .text "7"]),
      (.text "note", .text ""), (.text "name", .null)]
    let answers : AnswerSet Answer := ⟨[("extras", .selections ["7", "bag"]), ("note", .text "")]⟩
    let raw' : List (Value × Value) :=
      [(.text "extras", .set true [.text "bag", .text "7"]), (.text "note", .text "")]
    (([extras, note, name] : List Question).map (·.id)).Nodup ∧
      validateValue [extras, note, name] raw = .ok (.ok answers) ∧ answers.WrittenAs raw' ∧
      ∃ answers', validateValue [extras, note, name] (.map raw') = .ok (.ok answers') ∧
        answers.Same answers' := by
  intro extras note name raw answers raw'
  have distinct : (([extras, note, name] : List Question).map (·.id)).Nodup := by decide
  have h : validateValue [extras, note, name] raw = .ok (.ok answers) := by cbv
  have hperm : (["7", "bag"] : List String).Perm ["bag", "7"] := .swap _ _ _
  have hwritten : answers.WrittenAs raw' :=
    .cons ⟨rfl, .selections true hperm⟩ (.cons ⟨rfl, .text ""⟩ .nil)
  exact ⟨distinct, h, hwritten,
    validate_is_idempotent [extras, note, name] raw distinct answers h raw' hwritten⟩

end Question

end FormRouting
