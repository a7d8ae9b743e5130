import FormRouting.Proofs.Check.Definition
import FormRouting.Proofs.Form.DisplayOrder
import FormRouting.Routing.Validation
import Mathlib

/-!
# The order of rules and questions does not matter

A form owns its rules and questions in no particular order. When the ids are distinct, nothing that
routing does depends on the order in which they are listed (`SameRouting`): the sorts have no ties
left to settle by place, and an id resolves to its only question (`sameRouting_of_perm`). A
definition that passes the check has distinct ids, so its records can be listed in any order
(`sameRouting_of_reorders`). `routing_ignores_order` says both.
-/

namespace FormRouting

/-! ## Questions -/

namespace Question

variable {questions questions' : List Question}

/-- Only questions with one id tie. -/
theorem id_eq_of_le {p q : Question} (hpq : p.le q) (hqp : q.le p) : p.id = q.id := by
  rcases le_iff.mp hpq with hlt | ⟨heq, hid⟩
  · rcases le_iff.mp hqp with hlt' | ⟨heq', -⟩
    · omega
    · omega
  · rcases le_iff.mp hqp with hlt' | ⟨-, hid'⟩
    · omega
    · exact le_antisymm hid hid'

/-- Questions with distinct ids are put in one order, however they are listed. -/
theorem inOrder_perm (h : questions.Perm questions')
    (distinct : (questions.map (·.id)).Nodup) : inOrder questions = inOrder questions' :=
  mergeSort_eq_of_perm_of_key (·.id) le_trans le_total (fun _ _ => id_eq_of_le) distinct h

/-- With distinct ids, an id resolves to the question that has it. -/
theorem withId?_eq_some_iff_mem (distinct : (questions.map (·.id)).Nodup) {id : String}
    {q : Question} : withId? questions id = some q ↔ q ∈ questions ∧ q.id = id := by
  refine ⟨mem_of_withId?, ?_⟩
  rintro ⟨hmem, rfl⟩
  obtain ⟨before, after, rfl⟩ := List.append_of_mem hmem
  -- No question behind this one shares its id, so it is the last one with it.
  rw [List.map_append, List.map_cons, List.nodup_append, List.nodup_cons] at distinct
  refine withId?_eq_some_iff.mpr ⟨before, after, rfl, rfl, fun p hp hid => ?_⟩
  exact distinct.2.1.1 (List.mem_map.mpr ⟨p, hp, hid⟩)

/-- With distinct ids, an id resolves to one question, however the questions are listed. -/
theorem withId?_perm (h : questions.Perm questions') (distinct : (questions.map (·.id)).Nodup)
    (id : String) : withId? questions id = withId? questions' id := by
  have distinct' : (questions'.map (·.id)).Nodup := (h.map _).nodup_iff.mp distinct
  ext q
  rw [withId?_eq_some_iff_mem distinct, withId?_eq_some_iff_mem distinct', h.mem_iff]

/-- Validation finds the same errors or the same answers, in the same order. -/
theorem validate_perm (h : questions.Perm questions') (distinct : (questions.map (·.id)).Nodup)
    (raw : List (Value × Value)) : validate questions raw = validate questions' raw := by
  unfold validate
  rw [inOrder_perm h distinct]

/-- The same holds of a submission of any kind. -/
theorem validateValue_perm (h : questions.Perm questions')
    (distinct : (questions.map (·.id)).Nodup) (raw : Value) :
    validateValue questions raw = validateValue questions' raw := by
  unfold validateValue
  simp only [validate_perm h distinct, h.isEmpty_eq, h.all_eq]

end Question

/-! ## Rules -/

namespace Rule

variable {rules rules' : List Rule} {questions questions' : List Question}

theorem isEligible_perm (rule : Rule) (h : questions.Perm questions') :
    rule.isEligible questions = rule.isEligible questions' := by
  rw [isEligible, isEligible, resolves, resolves, h.any_eq]

/-- Only rules with one id tie in precedence. -/
theorem id_eq_of_precedes {r s : Rule} (hrs : r.precedes s) (hsr : s.precedes r) :
    r.id = s.id := by
  rw [precedes_iff] at hrs hsr
  omega

/-- Rules with distinct ids are ranked in one order, however they are listed. -/
theorem rank_perm (hr : rules.Perm rules') (hq : questions.Perm questions')
    (distinct : (rules.map (·.id)).Nodup) : rank rules questions = rank rules' questions' := by
  -- The same rules can take part, so the two sorts start from permutations of each other.
  have hperm : (rules.filter (·.isEligible questions)).Perm
      (rules'.filter (·.isEligible questions')) := by
    simp only [isEligible_perm _ hq]
    exact hr.filter _
  refine mergeSort_eq_of_perm_of_key (·.id) precedes_trans precedes_total
    (fun _ _ => id_eq_of_precedes) ?_ hperm
  exact distinct.sublist (List.filter_sublist.map _)

/-- Rules with distinct ids dangle in one order, however they are listed. -/
theorem dangling_perm (hr : rules.Perm rules') (hq : questions.Perm questions')
    (distinct : (rules.map (·.id)).Nodup) :
    dangling rules questions = dangling rules' questions' := by
  have hsort : rules.mergeSort (fun r s => r.id ≤ s.id) =
      rules'.mergeSort (fun r s => r.id ≤ s.id) := by
    refine mergeSort_eq_of_perm_of_key (·.id) trans_of_id total_of_id (fun r s hrs hsr => ?_)
      distinct hr
    exact le_antisymm (of_decide_eq_true hrs) (of_decide_eq_true hsr)
  unfold dangling
  rw [hsort]
  simp only [resolves, hq.any_eq]

theorem isSatisfied_perm (rule : Rule) (h : questions.Perm questions')
    (distinct : (questions.map (·.id)).Nodup) (answers : AnswerSet Answer) :
    rule.isSatisfied questions answers = rule.isSatisfied questions' answers := by
  rw [isSatisfied, isSatisfied, Question.withId?_perm h distinct]

end Rule

/-! ## Routing -/

/-- Two forms, by their rules and questions, route alike. -/
structure SameRouting (rules : List Rule) (questions : List Question) (rules' : List Rule)
    (questions' : List Question) : Prop where
  inOrder : Question.inOrder questions = Question.inOrder questions'
  rank : Rule.rank rules questions = Rule.rank rules' questions'
  dangling : Rule.dangling rules questions = Rule.dangling rules' questions'
  /-- A submission meets with the same errors in the same order, or gives the same answers in the
  same order. -/
  validate : ∀ raw, Question.validate questions raw = Question.validate questions' raw
  validateValue : ∀ raw, Question.validateValue questions raw = Question.validateValue questions' raw
  evaluate : ∀ answers,
    Decision.evaluate answers rules questions = Decision.evaluate answers rules' questions'

/-- Rules and questions with distinct ids route alike in any order. -/
theorem sameRouting_of_perm {rules rules' : List Rule} {questions questions' : List Question}
    (hr : rules.Perm rules') (hq : questions.Perm questions')
    (distinctRules : (rules.map (·.id)).Nodup)
    (distinctQuestions : (questions.map (·.id)).Nodup) :
    SameRouting rules questions rules' questions' where
  inOrder := Question.inOrder_perm hq distinctQuestions
  rank := Rule.rank_perm hr hq distinctRules
  dangling := Rule.dangling_perm hr hq distinctRules
  validate := Question.validate_perm hq distinctQuestions
  validateValue := Question.validateValue_perm hq distinctQuestions
  evaluate answers := by
    unfold Decision.evaluate Rule.select
    rw [Rule.rank_perm hr hq distinctRules]
    simp only [Rule.isSatisfied_perm _ hq distinctQuestions]

/-! ## Definitions -/

/-- A definition lists the question records and the rule records of another one in some order, and
agrees with it in every other field. -/
structure Form.Reorders (entries entries' : List (Value × Value)) : Prop where
  questionRecords : ∃ records records', Form.listed entries "questions" = .ok records ∧
    Form.listed entries' "questions" = .ok records' ∧ records.Perm records'
  ruleRecords : ∃ records records', Form.listed entries "rules" = .ok records ∧
    Form.listed entries' "rules" = .ok records' ∧ records.Perm records'
  others : ∀ key, key ≠ "questions" → key ≠ "rules" →
    Value.lookup key entries' = Value.lookup key entries

/-- What records read as is listed in the order of the records. -/
theorem forall₂_of_perm {α β : Type} {R : α → β → Prop} {xs xs' : List α} {ys : List β}
    (h : List.Forall₂ R xs ys) (hperm : xs.Perm xs') :
    ∃ ys', List.Forall₂ R xs' ys' ∧ ys.Perm ys' := by
  obtain ⟨ys', hys', hsame⟩ := List.perm_comp_forall₂ hperm.symm h
  exact ⟨ys', hys', hsame.symm⟩

section

variable {entries entries' : List (Value × Value)} {questions questions' : List Question}
  {rules rules' : List Rule}

/-- A definition in another order is as flawless, with its questions and rules in another order. -/
theorem Check.Flawless.reorder (h : Check.Flawless entries questions rules)
    (hreorder : Form.Reorders entries entries') :
    ∃ questions' rules', Check.Flawless entries' questions' rules' ∧ questions.Perm questions' ∧
      rules.Perm rules' := by
  obtain ⟨questionRecords, hquestions, hread⟩ := h.questionRecords
  obtain ⟨ruleRecords, hrules, hkept⟩ := h.ruleRecords
  obtain ⟨_, questionRecords', hsame, hquestions', hqperm⟩ := hreorder.questionRecords
  obtain rfl := Except.ok.inj (hquestions.symm.trans hsame)
  obtain ⟨_, ruleRecords', hsame, hrules', hrperm⟩ := hreorder.ruleRecords
  obtain rfl := Except.ok.inj (hrules.symm.trans hsame)
  obtain ⟨questions', hread', hq⟩ := forall₂_of_perm hread hqperm
  obtain ⟨rules', hkept', hr⟩ := forall₂_of_perm hkept hrperm
  refine ⟨questions', rules', ⟨⟨⟨_, hquestions', hread'⟩, ⟨_, hrules', hkept'⟩⟩, ?_, ?_, ?_, ?_, ?_⟩,
    hq, hr⟩
  · intro name hname
    -- The needed fields are not among the two that list records.
    have hother : name ≠ "questions" ∧ name ≠ "rules" := by
      simp only [Check.neededFields, List.mem_cons, List.not_mem_nil, or_false] at hname
      rcases hname with rfl | rfl | rfl <;> decide
    rw [hreorder.others name hother.1 hother.2]
    exact h.needed name hname
  · exact (hq.map _).nodup_iff.mp h.distinctQuestions
  · intro q hmem
    exact h.offering q (hq.mem_iff.mpr hmem)
  · exact (hr.map _).nodup_iff.mp h.distinctRules
  · intro r hmem
    rw [Rule.resolves, ← hq.any_eq]
    exact h.resolving r (hr.mem_iff.mpr hmem)

/-- A definition in another order assembles to the same form but for its questions and rules. -/
theorem Form.assemble_reorder (hreorder : Form.Reorders entries entries') :
    Form.assemble entries' questions' rules' =
      (Form.assemble entries questions rules).map fun form =>
        { form with questions := questions', rules := rules' } := by
  unfold Form.assemble
  simp only [Value.need, Value.field, Value.fieldOr, hreorder.others "id" (by decide) (by decide),
    hreorder.others "slug" (by decide) (by decide), hreorder.others "title" (by decide) (by decide),
    hreorder.others "description" (by decide) (by decide),
    hreorder.others "is_active" (by decide) (by decide),
    hreorder.others "owner_name" (by decide) (by decide)]
  cases Value.lookup "id" entries with
  | none => rfl
  | some id =>
    cases hid : id.readInteger with
    | error e => simp [bind, Except.bind, hid, Except.map]
    | ok n =>
      cases Value.lookup "slug" entries with
      | none => simp [bind, Except.bind, hid, Except.map]
      | some slug =>
        cases hslug : slug.readText <;>
          simp [bind, Except.bind, hid, hslug, Except.map, pure, Except.pure]

/-- A definition that passes the check passes it in any order of its records, loads to the same form
but for the order of questions and rules, and routes alike. -/
theorem sameRouting_of_reorders (hclean : Check.definition (.map entries) = .ok [])
    (hreorder : Form.Reorders entries entries') :
    Check.definition (.map entries') = .ok [] ∧
      ∃ questions rules questions' rules',
        Form.ReadsAs entries questions rules ∧ Form.ReadsAs entries' questions' rules' ∧
        Form.ofDefinition (.map entries') =
          ([], (Form.ofDefinition (.map entries)).2.map fun form =>
            { form with questions := questions', rules := rules' }) ∧
        SameRouting rules questions rules' questions' := by
  obtain ⟨_, questions, rules, hentries, hflawless⟩ := Check.definition_eq_nil_iff.mp hclean
  obtain rfl := Value.map.inj hentries
  obtain ⟨questions', rules', hflawless', hq, hr⟩ := hflawless.reorder hreorder
  refine ⟨Check.definition_eq_nil_iff.mpr ⟨_, _, _, rfl, hflawless'⟩, questions, rules, questions',
    rules', hflawless.toReadsAs, hflawless'.toReadsAs, ?_,
    sameRouting_of_perm hr hq hflawless.distinctRules hflawless.distinctQuestions⟩
  rw [Form.ofDefinition_of_readsAs hflawless.toReadsAs,
    Form.ofDefinition_of_readsAs hflawless'.toReadsAs, Form.assemble_reorder hreorder]

end

/-- Routing does not depend on the order in which rules and questions with distinct ids are listed.
In particular it does not depend on the order of the records in a definition that passes the
check. -/
theorem routing_ignores_order :
    (∀ (rules rules' : List Rule) (questions questions' : List Question),
      rules.Perm rules' → questions.Perm questions' → (rules.map (·.id)).Nodup →
      (questions.map (·.id)).Nodup → SameRouting rules questions rules' questions') ∧
    ∀ entries entries', Check.definition (.map entries) = .ok [] →
      Form.Reorders entries entries' →
      Check.definition (.map entries') = .ok [] ∧
        ∃ questions rules questions' rules',
          Form.ReadsAs entries questions rules ∧ Form.ReadsAs entries' questions' rules' ∧
          Form.ofDefinition (.map entries') =
            ([], (Form.ofDefinition (.map entries)).2.map fun form =>
              { form with questions := questions', rules := rules' }) ∧
          SameRouting rules questions rules' questions' :=
  ⟨fun _ _ _ _ => sameRouting_of_perm, fun _ _ => sameRouting_of_reorders⟩

/-- A form with two questions in one place and two rules of one priority, listed the other way
round, and a definition whose records are. -/
theorem routing_ignores_order_reversed :
    let size : Question := ⟨"size", .text "Size", .text, [], true, 0⟩
    let colour : Question := ⟨"colour", .text "Colour", .text, [], false, 0⟩
    let small : Rule := ⟨1, "size", .equals, "s", ⟨.showMessage, "In stock"⟩, 0, true⟩
    let red : Rule := ⟨2, "colour", .contains, "red", ⟨.routeToUrl, "https://red"⟩, 0, true⟩
    let given : AnswerSet Answer := ⟨[("colour", .text "dark red"), ("size", .text "s")]⟩
    let sizeRecord := Value.record [("id", .text "size"), ("type", .text "text")]
    let colourRecord := Value.record [("id", .text "colour"), ("type", .text "text")]
    let entries (records : List Value) : List (Value × Value) :=
      [(.text "id", .int 1), (.text "questions", .list records), (.text "slug", .text "f"),
        (.text "title", .text "F")]
    Decision.evaluate given [small, red] [size, colour] = .ofRule small ∧
      Decision.evaluate given [red, small] [colour, size] = .ofRule small ∧
      Check.definition (.map (entries [sizeRecord, colourRecord])) = .ok [] ∧
      Check.definition (.map (entries [colourRecord, sizeRecord])) = .ok [] := by
  intro size colour small red given sizeRecord colourRecord entries
  have hfirst : Decision.evaluate given [small, red] [size, colour] = .ofRule small := by cbv
  have hroutes := routing_ignores_order.1 [small, red] [red, small] [size, colour] [colour, size]
    (.swap _ _ _) (.swap _ _ _) (by decide) (by decide)
  have hclean : Check.definition (.map (entries [sizeRecord, colourRecord])) = .ok [] := by cbv
  have hreorder : Form.Reorders (entries [sizeRecord, colourRecord])
      (entries [colourRecord, sizeRecord]) := by
    refine ⟨⟨_, _, rfl, rfl, .swap _ _ _⟩, ⟨_, _, rfl, rfl, .rfl⟩, fun key hkey _ => ?_⟩
    simp [entries, hkey.symm]
  exact ⟨hfirst, (hroutes.evaluate given).symm.trans hfirst, hclean,
    (routing_ignores_order.2 _ _ hclean hreorder).1⟩

end FormRouting
