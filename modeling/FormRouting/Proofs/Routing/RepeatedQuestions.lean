import FormRouting.Form
import FormRouting.Proofs.Routing.Acceptance
import FormRouting.Proofs.Routing.Precedence
import Mathlib

/-!
# Forms that ask one question twice

Nothing keeps a form from repeating the id of a question, even with another type. Validation then
checks the submitted value once for each of the questions and keeps the last answer, while evaluation
looks the id up and finds the last question. `answers_suit_resolved_questions` says that the two
belong together: what is kept under an id has the type of the question that the id resolves to, and
names nothing but its options.

The reason is that the questions with one id share the submitted value. Either all of them get an
answer from it or none does, so the last entry under the id comes from the last question
(`find?_entries`).
-/

namespace FormRouting.Question

open Value (field)

/-! ## Answers of the right type -/

/-- An answer is of the type that a question asks for. -/
structure Suits (q : Question) (a : Answer) : Prop where
  /-- It is a set of options exactly when the question takes several. -/
  several : q.type = .checkbox ↔ ∃ options, a = .selections options
  /-- A set of options names options of the question. -/
  offered : ∀ options, a = .selections options → ∀ s ∈ options, s ∈ q.options
  /-- An answer to a question with one choice is an option of it, or empty where the question may be
  left blank. -/
  chosen : q.type = .select ∨ q.type = .radio →
    ∃ s, a = .text s ∧ (s ∈ q.options ∨ (s = "" ∧ q.required = false))

/-- What a value amounts to for a question that takes several options is a set of its options. -/
theorem suits_of_gives_several {q : Question} {v : Value} {a : Answer} (htype : q.type = .checkbox)
    (htakes : q.Takes v) (hgives : q.Gives v a) : q.Suits a := by
  obtain ⟨options, rfl, -, hmem⟩ := (gives_several_iff htype).mp hgives
  refine ⟨iff_of_true htype ⟨options, rfl⟩, ?_, ?_⟩
  · rintro _ ⟨rfl⟩ s hs
    obtain ⟨hblank, item, hitem, hspells⟩ := (hmem s).mp hs
    have hfits := htakes.2 hblank
    rw [Fits, htype] at hfits
    obtain ⟨t, ht, hoption⟩ := hfits item hitem
    rwa [hspells.unique ht]
  · rintro (h | h)
    · exact absurd (htype.symm.trans h) (by decide)
    · exact absurd (htype.symm.trans h) (by decide)

/-- What a value amounts to for a question that takes one answer is a text, and where it has to be
chosen it is an option or blank. -/
theorem suits_of_gives_one {q : Question} {v : Value} {a : Answer} (htype : q.type ≠ .checkbox)
    (htakes : q.Takes v) (hgives : q.Gives v a) : q.Suits a := by
  obtain ⟨s, rfl, hempty, hspells⟩ := (gives_one_iff htype).mp hgives
  refine ⟨iff_of_false htype (by simp), by simp, fun hchoice => ⟨s, rfl, ?_⟩⟩
  by_cases hblank : v.Blank
  · exact .inr ⟨hempty hblank, htakes.1 hblank⟩
  · have hfits : ∃ t, v.Spells t ∧ t ∈ q.options := by
      have hfits := htakes.2 hblank
      unfold Fits at hfits
      rcases hchoice with h | h
      · rw [h] at hfits
        exact hfits
      · rw [h] at hfits
        exact hfits
    obtain ⟨t, ht, hoption⟩ := hfits
    rw [(hspells hblank).unique ht]
    exact .inl hoption

/-- What a value amounts to for a question that takes it is of the type that the question asks
for. -/
theorem suits_of_gives {q : Question} {v : Value} {a : Answer} (htakes : q.Takes v)
    (hgives : q.Gives v a) : q.Suits a := by
  by_cases htype : q.type = .checkbox
  · exact suits_of_gives_several htype htakes hgives
  · exact suits_of_gives_one htype htakes hgives

/-! ## The last answer and the last question -/

variable {questions : List Question} {raw : List (Value × Value)}

/-- Questions that are in order already stay as they are. -/
theorem inOrder_inOrder (questions : List Question) :
    inOrder (inOrder questions) = inOrder questions :=
  List.mergeSort_of_pairwise (pairwise_le_inOrder questions)

/-- When all questions take their values, the last entry under the id of a submitted value comes from
the last question with the id. -/
theorem find?_entries (htakes : ∀ q ∈ questions, q.Takes (field raw q.id)) {k : String}
    (hv : field raw k ≠ .null) :
    (questions.filterMap (entryFor raw)).reverse.find? (·.1 == k) =
      (withId? questions k).bind (entryFor raw) := by
  rw [← List.filterMap_reverse, List.find?_filterMap, withId?]
  -- An entry has the id of its question, so it is enough that all questions with the id have one.
  congr 1
  refine List.find?_congr fun q hq => ?_
  have hq := htakes q (List.mem_reverse.mp hq)
  by_cases hid : q.id = k
  · have hsome := (isSome_entryFor_iff hq).mpr (hid ▸ hv)
    obtain ⟨a, ha⟩ := Option.isSome_iff_exists.mp hsome
    obtain ⟨b, -, rfl⟩ := Option.map_eq_some_iff.mp ha
    rw [ha, Option.any_some]
  · rw [beq_false_of_ne hid]
    unfold entryFor
    cases (q.check (field raw q.id)).answer? with
    | none => rfl
    | some a => exact beq_false_of_ne hid

/-- What is found under an id among the answers of an accepted submission comes from the last
question with the id, which takes the submitted value. -/
theorem last_of_get? {answers : AnswerSet Answer} (h : validate questions raw = .ok answers)
    {k : String} {a : Answer} (ha : answers.get? k = some a) :
    ∃ q, withId? (inOrder questions) k = some q ∧ q.Takes (field raw k) ∧ q.Gives (field raw k) a := by
  -- The answer was made of a value that is not null, so there is an entry for each such question.
  have hv : field raw k ≠ .null := by
    intro hnull
    rw [get?_eq_none_of_null h hnull] at ha
    cases ha
  obtain ⟨htakes, rfl⟩ := validate_eq_ok_iff.mp h
  have htakes' : ∀ q ∈ inOrder questions, q.Takes (field raw q.id) := by
    intro q hq
    exact htakes q (mem_inOrder.mp hq)
  rw [AnswerSet.get?_ofList] at ha
  obtain ⟨e, he, rfl⟩ := Option.map_eq_some_iff.mp ha
  rw [find?_entries htakes' hv] at he
  obtain ⟨q, hq, hentry⟩ := Option.bind_eq_some_iff.mp he
  obtain ⟨hqmem, hqid⟩ := mem_of_withId? hq
  have hqtakes := htakes' q hqmem
  obtain ⟨b, hb, hgives⟩ := entryFor_gives hqtakes (hqid ▸ hv)
  obtain rfl : (q.id, b) = e := Option.some.inj (hb.symm.trans hentry)
  rw [hqid] at hqtakes hgives
  exact ⟨q, hq, hqtakes, hgives⟩

/-- Every answer of an accepted submission is the one found under its id, and it suits the question
that evaluation resolves the id to: the last one with the id in the order in which the form puts its
questions. Ids may repeat, as may the places and the types of the questions. -/
theorem answers_suit_resolved_questions (form : Form) (raw : List (Value × Value))
    (answers : AnswerSet Answer) (h : validate form.orderedQuestions raw = .ok answers) :
    ∀ k a, (k, a) ∈ answers.entries →
      answers.get? k = some a ∧
        ∃ q, withId? form.orderedQuestions k = some q ∧ IsLastWithId form.orderedQuestions k q ∧
          q.Suits a := by
  intro k a hmem
  have hdistinct : (answers.entries.map Prod.fst).Nodup := by
    rw [(validate_eq_ok_iff.mp h).2]
    exact AnswerSet.nodup_ofList _
  have ha := AnswerSet.get?_of_mem hdistinct hmem
  obtain ⟨q, hq, htakes, hgives⟩ := last_of_get? h ha
  rw [Form.orderedQuestions, inOrder_inOrder] at hq
  exact ⟨ha, q, hq, withId?_eq_some_iff.mp hq, suits_of_gives htakes hgives⟩

/-- A form that asks for a colour twice, first as a text and then as a choice of several, which it
lists in the reverse order. The text is replaced by the set of its one option. -/
theorem answers_suit_resolved_questions_colour :
    let asText : Question := ⟨"colour", .text "Colour", .text, [], true, 1⟩
    let asChoice : Question := ⟨"colour", .text "Colours", .checkbox, ["red", "blue"], false, 2⟩
    let form : Form :=
      ⟨.int 1, .text "f", .text "F", .null, .bool true, .null, [asChoice, asText], []⟩
    validate form.orderedQuestions [(.text "colour", .text "red")] =
        .ok ⟨[("colour", .selections ["red"])]⟩ ∧
      withId? form.orderedQuestions "colour" = some asChoice ∧
      asChoice.Suits (.selections ["red"]) := by
  intro asText asChoice form
  have h : validate form.orderedQuestions [(.text "colour", .text "red")] =
      .ok ⟨[("colour", .selections ["red"])]⟩ := by cbv
  have hlast : withId? form.orderedQuestions "colour" = some asChoice := by cbv
  obtain ⟨-, q, hq, -, hsuits⟩ :=
    answers_suit_resolved_questions form _ _ h "colour" (.selections ["red"]) (by simp)
  obtain rfl : asChoice = q := Option.some.inj (hlast.symm.trans hq)
  exact ⟨h, hlast, hsuits⟩

end FormRouting.Question
