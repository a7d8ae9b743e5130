import FormRouting.Proofs.Routing.Acceptance
import FormRouting.Proofs.Routing.Precedence
import FormRouting.Proofs.Routing.SameAnswers
import Mathlib.Data.List.Find
import Mathlib.Logic.Relation

/-!
# Evaluation looks at the live rules only

A rule is live when it is active and names a question of the form (`Rule.live`). Two inputs whose
live rules are the same, and which answer the questions that these name alike, are decided alike
(`evaluate_eq_of_alike`): the ranking starts from the live rules, and a condition looks at its
question only to see whether it takes several answers. What may change in an input without any of
this changing is listed by `Decision.Unseen`, one change at a time.
-/

namespace FormRouting

/-! ## Resolving questions -/

namespace Question

variable {questions : List Question} {id : String}

/-- An id resolves to one question. -/
theorem IsLastWithId.unique {p q : Question} (hp : IsLastWithId questions id p)
    (hq : IsLastWithId questions id q) : p = q := by
  rw [← withId?_eq_some_iff] at hp hq
  exact Option.some.inj (hp.symm.trans hq)

/-- An id that some question has resolves to one. -/
theorem exists_isLastWithId (h : ∃ q ∈ questions, q.id = id) :
    ∃ q, IsLastWithId questions id q := by
  obtain ⟨q, hq, hid⟩ := h
  have hsome : (withId? questions id).isSome = true := by
    unfold withId?
    rw [List.find?_isSome]
    exact ⟨q, List.mem_reverse.mpr hq, beq_iff_eq.mpr hid⟩
  obtain ⟨last, hlast⟩ := Option.isSome_iff_exists.mp hsome
  exact ⟨last, withId?_eq_some_iff.mp hlast⟩

/-- A question with another id does not change what an id resolves to. -/
theorem isLastWithId_insert_iff {before after : List Question} {added q : Question}
    (h : added.id ≠ id) :
    IsLastWithId (before ++ added :: after) id q ↔ IsLastWithId (before ++ after) id q := by
  rw [← withId?_eq_some_iff, ← withId?_eq_some_iff]
  unfold withId?
  simp [List.find?_append, beq_false_of_ne h]

/-- When a change of questions keeps the ids, an id resolves to the question that its question was
changed to. -/
theorem isLastWithId_map {f : Question → Question} (hid : ∀ q ∈ questions, (f q).id = q.id)
    {q : Question} (h : IsLastWithId (questions.map f) id q) :
    ∃ p ∈ questions, IsLastWithId questions id p ∧ q = f p := by
  obtain ⟨before', tail, hsplit, hqid, hafter⟩ := h
  obtain ⟨before, rest, rfl, rfl, hrest⟩ := List.map_eq_append_iff.mp hsplit
  obtain ⟨p, after, rfl, rfl, rfl⟩ := List.map_eq_cons_iff.mp hrest
  have hp : p ∈ before ++ p :: after := List.mem_append_right _ List.mem_cons_self
  refine ⟨p, hp, ⟨before, after, rfl, (hid p hp).symm.trans hqid, fun other hother hother' => ?_⟩,
    rfl⟩
  have hmem : other ∈ before ++ p :: after :=
    List.mem_append_right _ (List.mem_cons_of_mem _ hother)
  exact hafter (f other) (List.mem_map_of_mem hother) ((hid other hmem).trans hother')

end Question

/-! ## Live rules -/

namespace Rule

/-- The rules that can take part in evaluation, as they are listed: the active ones that name a
question of the form. -/
def live (rules : List Rule) (questions : List Question) : List Rule :=
  rules.filter (·.isEligible questions)

variable {rules : List Rule} {questions : List Question}

theorem mem_live {rule : Rule} :
    rule ∈ live rules questions ↔ rule ∈ rules ∧ rule.Eligible questions := by
  unfold live
  rw [List.mem_filter, isEligible_iff]

/-- Rules are live alike when the questions have the ids that active rules name alike. -/
theorem live_congr {questions' : List Question}
    (h : ∀ rule ∈ rules, rule.isActive = true →
      ((∃ q ∈ questions, q.id = rule.questionId) ↔ ∃ q ∈ questions', q.id = rule.questionId)) :
    live rules questions = live rules questions' := by
  refine List.filter_congr fun rule hrule => ?_
  rw [Bool.eq_iff_iff, isEligible_iff, isEligible_iff]
  exact and_congr_right (h rule hrule)

/-- A condition looks at its question only to see whether it takes several answers, and does not
tell same answers apart. -/
theorem holds_congr (rule : Rule) {q q' : Question} (hkind : q.type = .checkbox ↔ q'.type = .checkbox)
    {a a' : Option Answer} (h : Option.Rel Answer.Same a a') : rule.holds q a = rule.holds q' a' := by
  have hseveral : q.type.isMultiValued = q'.type.isMultiValued := by
    rw [Bool.eq_iff_iff, Question.isMultiValued_iff, Question.isMultiValued_iff, hkind]
  cases h with
  | none => rfl
  | @some a a' hsame =>
    show rule.holdsOf q a = rule.holdsOf q' a'
    rw [rule.holdsOf_congr q hsame]
    unfold holdsOf equalsAnswer
    rw [hseveral]

end Rule

/-! ## Inputs that look alike -/

namespace Decision

/-- What evaluation is given. -/
structure Input where
  answers : AnswerSet Answer
  rules : List Rule
  questions : List Question

/-- Where a visitor goes by an input. -/
def Input.decide (x : Input) : Decision :=
  evaluate x.answers x.rules x.questions

/-- Two inputs look alike to evaluation. -/
structure Input.Alike (x y : Input) : Prop where
  /-- They have the same live rules in the same order. -/
  live : Rule.live x.rules x.questions = Rule.live y.rules y.questions
  /-- The questions that live rules name both take several answers, or neither does. -/
  kind : ∀ rule ∈ Rule.live x.rules x.questions, ∀ q q',
    Question.IsLastWithId x.questions rule.questionId q →
    Question.IsLastWithId y.questions rule.questionId q' →
    (q.type = .checkbox ↔ q'.type = .checkbox)
  /-- These questions have the same answers, or none. -/
  answer : ∀ rule ∈ Rule.live x.rules x.questions,
    Option.Rel Answer.Same (x.answers.get? rule.questionId) (y.answers.get? rule.questionId)

/-- A live rule is satisfied in both of two inputs that look alike, or in neither. -/
theorem Input.Alike.isSatisfied_eq {x y : Input} (h : x.Alike y) {rule : Rule}
    (hrule : rule ∈ Rule.live x.rules x.questions) :
    rule.isSatisfied x.questions x.answers = rule.isSatisfied y.questions y.answers := by
  obtain ⟨q, hq⟩ := Question.exists_isLastWithId (Rule.mem_live.mp hrule).2.2
  obtain ⟨q', hq'⟩ := Question.exists_isLastWithId (Rule.mem_live.mp (h.live ▸ hrule)).2.2
  have hholds := rule.holds_congr (h.kind rule hrule q q' hq hq') (h.answer rule hrule)
  unfold Rule.isSatisfied
  rw [Question.withId?_eq_some_iff.mpr hq, Question.withId?_eq_some_iff.mpr hq']
  exact hholds

/-- Inputs that look alike are decided alike. -/
theorem Input.Alike.decide_eq {x y : Input} (h : x.Alike y) : x.decide = y.decide := by
  have hrank : Rule.rank x.rules x.questions = Rule.rank y.rules y.questions :=
    congrArg (List.mergeSort · Rule.precedes) h.live
  have hselect : Rule.select x.answers x.rules x.questions =
      Rule.select y.answers y.rules y.questions := by
    unfold Rule.select
    rw [← hrank]
    refine List.find?_congr fun rule hrule => h.isSatisfied_eq ?_
    rw [Rule.mem_live]
    exact Rule.mem_rank.mp hrule
  unfold Input.decide evaluate
  rw [hselect]

/-! ## Changes that are not seen -/

/-- A change of an input that evaluation does not see. -/
inductive Unseen : Input → Input → Prop where
  /-- A rule comes in, anywhere, that is not active or names no question of the form. -/
  | rule {answers : AnswerSet Answer} (before after : List Rule) {questions : List Question}
      (rule : Rule) (h : rule.isActive = false ∨ ∀ q ∈ questions, q.id ≠ rule.questionId) :
      Unseen ⟨answers, before ++ after, questions⟩ ⟨answers, before ++ rule :: after, questions⟩
  /-- A question comes in, anywhere, that no active rule names. -/
  | question {answers : AnswerSet Answer} {rules : List Rule} (before after : List Question)
      (q : Question) (h : ∀ rule ∈ rules, rule.isActive = true → rule.questionId ≠ q.id) :
      Unseen ⟨answers, rules, before ++ after⟩ ⟨answers, rules, before ++ q :: after⟩
  /-- Answers under other ids than those that live rules name are given, changed or withdrawn. -/
  | answers {answers answers' : AnswerSet Answer} {rules : List Rule} {questions : List Question}
      (h : ∀ rule ∈ rules, rule.Eligible questions →
        answers.get? rule.questionId = answers'.get? rule.questionId) :
      Unseen ⟨answers, rules, questions⟩ ⟨answers', rules, questions⟩
  /-- Questions keep their ids, and take several answers as before; labels, options, places and
  whether they are required may change. -/
  | looks {answers : AnswerSet Answer} {rules : List Rule} {questions : List Question}
      (f : Question → Question) (hid : ∀ q ∈ questions, (f q).id = q.id)
      (hkind : ∀ q ∈ questions, (f q).type = .checkbox ↔ q.type = .checkbox) :
      Unseen ⟨answers, rules, questions⟩ ⟨answers, rules, questions.map f⟩
  /-- Questions are listed in another order, in which no id resolves to a question of the other
  kind. -/
  | order {answers : AnswerSet Answer} {rules : List Rule} {questions questions' : List Question}
      (h : questions.Perm questions')
      (hkind : ∀ id q q', Question.IsLastWithId questions id q →
        Question.IsLastWithId questions' id q' → (q.type = .checkbox ↔ q'.type = .checkbox)) :
      Unseen ⟨answers, rules, questions⟩ ⟨answers, rules, questions'⟩

theorem rel_same_refl (a : Option Answer) : Option.Rel Answer.Same a a := by
  cases a with
  | none => exact .none
  | some a => exact .some (.refl a)

/-- Inputs look alike before and after such a change. -/
theorem Unseen.alike {x y : Input} (h : Unseen x y) : x.Alike y := by
  cases h with
  | @rule answers before after questions rule h =>
    refine ⟨?_, fun _ _ q q' hq hq' => by rw [hq.unique hq'], fun _ _ => rel_same_refl _⟩
    have hdead : ¬rule.isEligible questions = true := by
      rw [Rule.isEligible_iff]
      rintro ⟨hactive, q, hq, hid⟩
      rcases h with hinactive | hdangling
      · exact Bool.false_ne_true (hinactive.symm.trans hactive)
      · exact hdangling q hq hid
    unfold Rule.live
    dsimp only
    rw [List.filter_append, List.filter_append, List.filter_cons, if_neg hdead]
  | @question answers rules before after q h =>
    refine ⟨Rule.live_congr fun rule hrule hactive => ?_, fun rule hrule p p' hp hp' => ?_,
      fun _ _ => rel_same_refl _⟩
    · have hne := h rule hrule hactive
      simp only [List.mem_append, List.mem_cons, or_and_right, exists_or, exists_eq_left,
        Ne.symm hne, false_or]
    · obtain ⟨hmem, hactive, -⟩ := Rule.mem_live.mp hrule
      rw [Question.isLastWithId_insert_iff (Ne.symm (h rule hmem hactive))] at hp'
      rw [hp.unique hp']
  | @answers answers answers' rules questions h =>
    refine ⟨rfl, fun _ _ q q' hq hq' => by rw [hq.unique hq'], fun rule hrule => ?_⟩
    obtain ⟨hmem, heligible⟩ := Rule.mem_live.mp hrule
    show Option.Rel _ (answers.get? _) (answers'.get? _)
    rw [h rule hmem heligible]
    exact rel_same_refl _
  | @looks answers rules questions f hid hkind =>
    refine ⟨Rule.live_congr fun rule _ _ => ?_, fun rule _ q q' hq hq' => ?_,
      fun _ _ => rel_same_refl _⟩
    · constructor
      · rintro ⟨q, hq, hname⟩
        exact ⟨f q, List.mem_map_of_mem hq, (hid q hq).trans hname⟩
      · rintro ⟨q', hq', hname⟩
        obtain ⟨q, hq, rfl⟩ := List.mem_map.mp hq'
        exact ⟨q, hq, (hid q hq).symm.trans hname⟩
    · obtain ⟨p, hmem, hp, rfl⟩ := Question.isLastWithId_map hid hq'
      rw [hq.unique hp, hkind p hmem]
  | @order answers rules questions questions' h hkind =>
    refine ⟨Rule.live_congr fun rule _ _ => ?_, fun rule _ => hkind rule.questionId,
      fun _ _ => rel_same_refl _⟩
    simp only [h.mem_iff]

/-! ## Decisions -/

/-- Evaluation looks at nothing but the live rules: inputs that look alike are decided alike. In
particular no number of changes that it does not see, made or taken back, changes a decision. -/
theorem evaluate_sees_live_rules_only :
    (∀ (answers answers' : AnswerSet Answer) (rules rules' : List Rule)
      (questions questions' : List Question),
      Input.Alike ⟨answers, rules, questions⟩ ⟨answers', rules', questions'⟩ →
      evaluate answers rules questions = evaluate answers' rules' questions') ∧
    ∀ x y : Input, Relation.EqvGen Unseen x y →
      evaluate x.answers x.rules x.questions = evaluate y.answers y.rules y.questions := by
  refine ⟨fun _ _ _ _ _ _ h => h.decide_eq, fun x y h => ?_⟩
  induction h with
  | rel x y h => exact h.alike.decide_eq
  | refl x => rfl
  | symm x y _ ih => exact ih.symm
  | trans x y z _ _ ihxy ihyz => exact ihxy.trans ihyz

/-- Of two inputs with one live rule the second has two more rules, of higher priority: one that is
not active, and one whose question is gone while its answer is still there. The question of the live
rule asks for something else as well. The first input remains when the live rule is all there is. -/
theorem evaluate_sees_live_rules_only_size :
    let size : Question := ⟨"size", .text "Size", .text, [], true, 0⟩
    let choice : Question := ⟨"size", .text "Your size", .radio, ["small", "large"], false, 7⟩
    let colour : Question := ⟨"colour", .text "Colour", .text, [], false, 0⟩
    let small : Rule := ⟨3, "size", .startsWith, "sm", ⟨.showMessage, "In stock"⟩, 1, true⟩
    let off : Rule := ⟨1, "size", .contains, "", ⟨.showMessage, "Closed"⟩, 99, false⟩
    let gone : Rule := ⟨2, "cut", .notEquals, "slim", ⟨.routeToUrl, "https://cuts"⟩, 50, true⟩
    let x : Input := ⟨⟨[("size", .text "small")]⟩, [small], [size]⟩
    let y : Input := ⟨⟨[("cut", .text "wide"), ("size", .text "small")]⟩, [off, gone, small],
      [choice, colour]⟩
    x.Alike y ∧ evaluate y.answers y.rules y.questions = .ofRule small ∧
      Unseen x ⟨x.answers, [gone, small], x.questions⟩ ∧
      evaluate x.answers [gone, small] x.questions = .ofRule small := by
  intro size choice colour small off gone x y
  have hlive : Rule.live x.rules x.questions = [small] := by decide
  have halike : x.Alike y := by
    refine ⟨by decide, fun rule hrule q q' hq hq' => ?_, fun rule hrule => ?_⟩
    · obtain rfl : rule = small := by simpa [hlive] using hrule
      rw [← Question.withId?_eq_some_iff] at hq hq'
      obtain rfl : size = q := Option.some.inj hq
      obtain rfl : choice = q' := Option.some.inj hq'
      exact iff_of_false (by decide) (by decide)
    · obtain rfl : rule = small := by simpa [hlive] using hrule
      exact .some (.text "small")
  have hx : evaluate x.answers x.rules x.questions = .ofRule small := by decide +kernel
  have hunseen : Unseen x ⟨x.answers, [gone, small], x.questions⟩ :=
    .rule [] [small] gone (.inr (by decide))
  exact ⟨halike, (evaluate_sees_live_rules_only.1 _ _ _ _ _ _ halike).symm.trans hx, hunseen,
    (evaluate_sees_live_rules_only.2 _ _ (.rel _ _ hunseen)).symm.trans hx⟩

end Decision

end FormRouting
