import FormRouting.Proofs.Form.RuleRecord
import FormRouting.Proofs.Routing.Acceptance
import FormRouting.Routing.Condition
import Mathlib

/-!
# Scalars that a definition lists

A definition may list a text, a number or a truth value as an option, and ask for the same value in
a rule. Both are kept as texts, and what a visitor submits is turned into a text once more. For
texts and numbers these texts are one (`Value.Scalar.spells_toText`), so the option can be chosen
and the rule holds of the answer. A truth value is written with a capital letter in a definition and
without one in an answer, so it can be chosen only where another option has its lower-case name, and
the rule never holds of it (`listed_scalar_holds_unless_bool`).
-/

namespace FormRouting

namespace Value

/-- A text that is not empty, or a number. -/
inductive Scalar : Value → Prop where
  | text {s : String} (h : s ≠ "") : Scalar (.text s)
  | int (n : ℤ) : Scalar (.int n)
  | real (x : Binary64) : Scalar (.real x)

/-- A value that is submitted on its own: it is not blank and chooses nothing but itself. -/
structure Single (v : Value) : Prop where
  not_blank : ¬v.Blank
  choices : v.choices = [v]

theorem Scalar.single {v : Value} (h : v.Scalar) : v.Single := by
  refine ⟨fun hblank => ?_, by cases h <;> rfl⟩
  cases hblank with
  | text =>
    cases h with
    | text hne => exact hne rfl
  | _ => cases h

theorem single_bool (b : Bool) : (Value.bool b).Single :=
  ⟨by rintro ⟨⟩, rfl⟩

/-- A text or number stands for the text that it is written as. -/
theorem Scalar.spells_toText {v : Value} (h : v.Scalar) : v.Spells v.toText := by
  cases h with
  | text => exact .text _
  | int n =>
    rw [toText_int]
    exact .int n
  | real x =>
    have htext : (Value.real x).toText = x.text := by simp [toText, literal]
    rw [htext]
    exact .real x

/-- The text that a truth value stands for in an answer. -/
def boolAnswer (b : Bool) : String :=
  if b then "true" else "false"

theorem spells_boolAnswer (b : Bool) : (Value.bool b).Spells (boolAnswer b) := by
  cases b
  · exact .no
  · exact .yes

/-- A truth value is never written as the text that it stands for. -/
theorem boolAnswer_ne_toText (b c : Bool) : boolAnswer b ≠ (Value.bool c).toText := by
  cases b <;> cases c <;> decide

end Value

/-- A definition lists a value as an option of a question with choices, and asks in a rule on this
question whether the answer equals the value. -/
structure Lists (v : Value) (q : Question) (r : Rule) : Prop where
  question : ∃ entries items, Question.ofRecord (.map entries) = .ok q ∧
    Value.field entries "options" = .list items ∧ v ∈ items
  choices : q.type ≠ .text
  rule : ∃ entries, Rule.ofRecord (.map entries) = .ok r ∧
    Value.field entries "operator" = .text "equals" ∧ Value.lookup "value" entries = some v
  about : r.questionId = q.id

section

variable {v : Value} {q : Question} {r : Rule}

/-- The text of a listed value is an option. -/
theorem Lists.mem_options (h : Lists v q r) : v.toText ∈ q.options := by
  obtain ⟨entries, items, hread, hoptions, hmem⟩ := h.question
  obtain ⟨members, hmembers, hq⟩ := (Question.ofRecord_eq_ok_iff.mp hread).options
  -- The options are gone through only when the list counts as true, which one with a member does.
  have htruthy : (Value.list items).truthy = true := by
    cases items with
    | nil => cases hmem
    | cons item rest => rfl
  rw [hoptions, Value.orElse, if_pos htruthy] at hmembers
  obtain rfl : items = members := Except.ok.inj hmembers
  rw [← (Value.mapM_readText_eq_ok_iff.mp hq).2]
  exact List.mem_map_of_mem hmem

/-- The rule compares for equality with the text of the value. -/
theorem Lists.operator_eq (h : Lists v q r) : r.operator = .equals ∧ r.value = v.toText := by
  obtain ⟨entries, hread, hoperator, hvalue⟩ := h.rule
  obtain ⟨id, operator, priority, action, hproceeds, rfl⟩ := Rule.built_of_ofRecord hread
  have hname : operator.name = "equals" :=
    Value.text.inj (hproceeds.operator.symm.trans hoperator)
  refine ⟨?_, ?_⟩
  · cases operator with
    | equals => rfl
    | _ => exact absurd hname (by decide)
  · rw [Rule.built, Rule.valueOf, Value.fieldOr_of_lookup hvalue]

/-- The rule holds of the answer that a value amounts to exactly when the value stands for the text
that the rule asks for. -/
theorem Lists.holds_iff (h : Lists v q r) {w : Value} {a : Answer} (hw : w.Single)
    (hgives : q.Gives w a) : r.holds q (some a) = true ↔ w.Spells v.toText := by
  obtain ⟨hoperator, hvalue⟩ := h.operator_eq
  simp only [Rule.holds, Rule.holdsOf, hoperator, Rule.equalsAnswer, hvalue]
  by_cases htype : q.type = .checkbox
  · obtain ⟨options, rfl, -, hmem⟩ := (Question.gives_several_iff htype).mp hgives
    rw [if_pos (Question.isMultiValued_iff.mpr htype)]
    dsimp only
    rw [List.contains_iff_mem, hmem, hw.choices]
    simp [hw.not_blank]
  · obtain ⟨s, rfl, -, hs⟩ := (Question.gives_one_iff htype).mp hgives
    rw [if_neg (Question.isMultiValued_iff.not.mpr htype), beq_iff_eq, Answer.text.injEq]
    constructor
    · rintro rfl
      exact hs hw.not_blank
    · exact fun hspells => (hs hw.not_blank).unique hspells

/-- The question takes a value exactly when the text that it stands for is an option. -/
theorem Lists.takes_iff (h : Lists v q r) {w : Value} {s : String} (hw : w.Single)
    (hspells : w.Spells s) : q.Takes w ↔ s ∈ q.options := by
  have hfits : q.Fits w ↔ ∃ t, w.Spells t ∧ t ∈ q.options := by
    unfold Question.Fits
    cases htype : q.type with
    | text => exact absurd htype h.choices
    | checkbox => simp [hw.choices]
    | _ => exact Iff.rfl
  rw [Question.Takes, hfits]
  constructor
  · rintro ⟨-, htakes⟩
    obtain ⟨t, ht, hmem⟩ := htakes hw.not_blank
    rwa [hspells.unique ht]
  · exact fun hmem => ⟨fun hblank => absurd hblank hw.not_blank, fun _ => ⟨s, hspells, hmem⟩⟩

section

variable {raw : List (Value × Value)}

/-- The value submitted for the question is accepted exactly when the text that it stands for is an
option. -/
theorem Lists.accepts_iff (h : Lists v q r) {s : String} (hw : (Value.field raw q.id).Single)
    (hspells : (Value.field raw q.id).Spells s) :
    (∃ answers, Question.validate [q] raw = .ok answers) ↔ s ∈ q.options := by
  rw [← h.takes_iff hw hspells]
  constructor
  · rintro ⟨answers, hanswers⟩
    exact (Question.validate_eq_ok_iff.mp hanswers).1 q (List.mem_singleton_self q)
  · intro htakes
    exact ⟨_, Question.validate_eq_ok_iff.mpr ⟨by simpa using htakes, rfl⟩⟩

/-- Among questions with distinct ids, the rule holds of the answers that are accepted exactly when
the value submitted for its question stands for the text that the rule asks for. -/
theorem Lists.holds_of_validate_iff (h : Lists v q r) (hw : (Value.field raw q.id).Single)
    {questions : List Question} {answers : AnswerSet Answer}
    (distinct : (questions.map (·.id)).Nodup) (hq : q ∈ questions)
    (hanswers : Question.validate questions raw = .ok answers) :
    r.holds q (answers.get? r.questionId) = true ↔
      (Value.field raw q.id).Spells v.toText := by
  have hnull : Value.field raw q.id ≠ .null := by
    intro hnull
    rw [hnull] at hw
    exact hw.not_blank .null
  obtain ⟨a, ha, hgives⟩ := Question.get?_of_validate distinct hanswers hq hnull
  rw [h.about, ha]
  exact h.holds_iff hw hgives

/-- A text or number that a definition lists is accepted when it is submitted, and the rule on it
holds of the answer, whatever other questions there are. A truth value that it lists is accepted
only where some option has its lower-case name, and the rule never holds of the answer. -/
theorem listed_scalar_holds_unless_bool (h : Lists v q r) (hraw : Value.field raw q.id = v) :
    (v.Scalar →
      (∃ answers, Question.validate [q] raw = .ok answers) ∧
        ∀ questions answers, (questions.map (·.id)).Nodup → q ∈ questions →
          Question.validate questions raw = .ok answers →
          r.holds q (answers.get? r.questionId) = true) ∧
      ∀ b, v = .bool b →
        ((∃ answers, Question.validate [q] raw = .ok answers) ↔ Value.boolAnswer b ∈ q.options) ∧
          ∀ questions answers, (questions.map (·.id)).Nodup → q ∈ questions →
            Question.validate questions raw = .ok answers →
            r.holds q (answers.get? r.questionId) = false := by
  constructor
  · intro hscalar
    have hsingle : (Value.field raw q.id).Single := hraw.symm ▸ hscalar.single
    have hspells : (Value.field raw q.id).Spells v.toText := hraw.symm ▸ hscalar.spells_toText
    refine ⟨(h.accepts_iff hsingle hspells).mpr h.mem_options, ?_⟩
    intro questions answers distinct hq hanswers
    exact (h.holds_of_validate_iff hsingle distinct hq hanswers).mpr hspells
  · rintro b rfl
    have hsingle : (Value.field raw q.id).Single := hraw.symm ▸ Value.single_bool b
    have hspells : (Value.field raw q.id).Spells (Value.boolAnswer b) :=
      hraw.symm ▸ Value.spells_boolAnswer b
    refine ⟨h.accepts_iff hsingle hspells, ?_⟩
    intro questions answers distinct hq hanswers
    rw [← Bool.not_eq_true, h.holds_of_validate_iff hsingle distinct hq hanswers]
    -- The answer spells one text only, which is the lower-case one.
    intro hsame
    exact Value.boolAnswer_ne_toText b b (hspells.unique hsame)

end

end

/-- The record of a question with the given options. -/
def choiceRecord (options : List Value) : List (Value × Value) :=
  [(.text "id", .text "size"), (.text "type", .text "checkbox"), (.text "options", .list options)]

/-- The record of a rule that asks for the given value. -/
def equalsRecord (value : Value) : List (Value × Value) :=
  [(.text "id", .int 1), (.text "question_id", .text "size"), (.text "operator", .text "equals"),
    (.text "value", value), (.text "action", .text "show_message"),
    (.text "target_message", .text "In stock")]

/-- The rule that asks for the given text. -/
def equalsRule (value : String) : Rule :=
  ⟨1, "size", .equals, value, ⟨.showMessage, "In stock"⟩, 0, true⟩

/-- A number among texts, which is submitted as a number. -/
theorem listed_scalar_holds_unless_bool_size :
    let q : Question := ⟨"size", .text "", .checkbox, ["small", "42"], true, 0⟩
    let raw : List (Value × Value) := [(.text "size", .int 42)]
    Lists (.int 42) q (equalsRule "42") ∧ Value.field raw q.id = .int 42 ∧
      ∃ answers, Question.validate [q] raw = .ok answers ∧
        (equalsRule "42").holds q (answers.get? "size") = true := by
  intro q raw
  have hlists : Lists (.int 42) q (equalsRule "42") :=
    ⟨⟨choiceRecord [.text "small", .int 42], _, by cbv, rfl, by simp⟩, by decide,
      ⟨equalsRecord (.int 42), by cbv, rfl, rfl⟩, rfl⟩
  have hraw : Value.field raw q.id = .int 42 := rfl
  obtain ⟨hnumber, -⟩ := listed_scalar_holds_unless_bool hlists hraw
  obtain ⟨⟨answers, hanswers⟩, hholds⟩ := hnumber (.int 42)
  exact ⟨hlists, hraw, answers, hanswers,
    hholds [q] answers (List.nodup_singleton _) (List.mem_singleton_self q) hanswers⟩

/-- A truth value that is listed as an option and submitted is refused. -/
theorem listed_bool_is_refused :
    let q : Question := ⟨"size", .text "", .checkbox, ["True", "False"], true, 0⟩
    Lists (.bool true) q (equalsRule "True") ∧
      Question.validate [q] [(.text "size", .bool true)] = .error [.notAnOption "size" "true"] := by
  intro q
  exact ⟨⟨⟨choiceRecord [.bool true, .bool false], _, by cbv, rfl, by simp⟩, by decide,
    ⟨equalsRecord (.bool true), by cbv, rfl, rfl⟩, rfl⟩, by cbv⟩

end FormRouting
