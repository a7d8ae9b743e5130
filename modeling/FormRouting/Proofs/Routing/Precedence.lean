import FormRouting.Proofs.StableSort
import FormRouting.Routing.Evaluation

/-!
# Which rule decides

`Decision.evaluate` ranks the rules that can take part and takes the first one whose condition
holds. `evaluate_decides_by_precedence` says what this comes to without sorting or searching: no
rule decides exactly when none matches, and otherwise the one that does comes before every other
matching rule by priority, then by id, and then by its place among the rules.

A rule *matches* answers when it is active, some question has the id it names, and its condition
holds of the answer to the last question with that id (`Rule.Matches`). `isEligible_and_isSatisfied`
shows that the two tests of the evaluation come to this.
-/

namespace FormRouting

/-! ## Resolving questions -/

namespace Question

/-- The question is the last one of the list with the given id. -/
def IsLastWithId (questions : List Question) (id : String) (q : Question) : Prop :=
  ∃ before after, questions = before ++ q :: after ∧ q.id = id ∧ ∀ p ∈ after, p.id ≠ id

/-- Looking a question up by id finds the last one with that id. -/
theorem withId?_eq_some_iff {questions : List Question} {id : String} {q : Question} :
    withId? questions id = some q ↔ IsLastWithId questions id q := by
  unfold withId? IsLastWithId
  -- The search goes backwards: what stands in front of its find is what follows it in the list.
  rw [List.find?_eq_some_iff_append]
  simp only [beq_iff_eq, Bool.not_eq_true', beq_eq_false_iff_ne]
  constructor
  · rintro ⟨hid, after, before, hrev, hne⟩
    refine ⟨before.reverse, after.reverse, ?_, hid, ?_⟩
    · rw [← List.reverse_reverse questions, hrev]
      simp
    · intro p hp
      exact hne p (List.mem_reverse.mp hp)
  · rintro ⟨before, after, rfl, hid, hne⟩
    refine ⟨hid, after.reverse, before.reverse, by simp, ?_⟩
    intro p hp
    exact hne p (List.mem_reverse.mp hp)

/-- What an id resolves to is a question that has it. -/
theorem mem_of_withId? {questions : List Question} {id : String} {q : Question}
    (h : withId? questions id = some q) : q ∈ questions ∧ q.id = id := by
  obtain ⟨before, after, rfl, hid, -⟩ := withId?_eq_some_iff.mp h
  exact ⟨List.mem_append_right _ List.mem_cons_self, hid⟩

end Question

/-! ## Matching rules -/

namespace Rule

/-- A rule can take part: it is active and names the id of some question. -/
def Eligible (rule : Rule) (questions : List Question) : Prop :=
  rule.isActive = true ∧ ∃ q ∈ questions, q.id = rule.questionId

/-- A rule that can take part has a condition that holds of the answer to its question. -/
def Matches (rule : Rule) (questions : List Question) (answers : AnswerSet Answer) : Prop :=
  rule.Eligible questions ∧ ∃ q, Question.IsLastWithId questions rule.questionId q ∧
    rule.holds q (answers.get? rule.questionId) = true

theorem isEligible_iff {rule : Rule} {questions : List Question} :
    rule.isEligible questions = true ↔ rule.Eligible questions := by
  simp [isEligible, resolves, Eligible]

theorem isSatisfied_iff {rule : Rule} {questions : List Question} {answers : AnswerSet Answer} :
    rule.isSatisfied questions answers = true ↔
      ∃ q, Question.IsLastWithId questions rule.questionId q ∧
        rule.holds q (answers.get? rule.questionId) = true := by
  simp only [← Question.withId?_eq_some_iff]
  unfold isSatisfied
  cases Question.withId? questions rule.questionId with
  | none => simp
  | some q => simp

/-- The two tests of the evaluation make a rule match. -/
theorem isEligible_and_isSatisfied {rule : Rule} {questions : List Question}
    {answers : AnswerSet Answer} :
    (rule.isEligible questions = true ∧ rule.isSatisfied questions answers = true) ↔
      rule.Matches questions answers := by
  rw [isEligible_iff, isSatisfied_iff, Matches]

/-! ## The order of precedence -/

theorem precedes_iff {r s : Rule} :
    r.precedes s = true ↔ s.priority < r.priority ∨ (r.priority = s.priority ∧ r.id ≤ s.id) := by
  simp [precedes]

theorem precedes_total (r s : Rule) : r.precedes s || s.precedes r := by
  rw [Bool.or_eq_true, precedes_iff, precedes_iff]
  omega

theorem precedes_trans (r s t : Rule) (hrs : r.precedes s) (hst : s.precedes t) : r.precedes t := by
  rw [precedes_iff] at hrs hst ⊢
  omega

/-- Ids put rules into a total order. -/
theorem total_of_id (r s : Rule) : decide (r.id ≤ s.id) || decide (s.id ≤ r.id) := by
  rw [Bool.or_eq_true, decide_eq_true_iff, decide_eq_true_iff]
  exact Int.le_total r.id s.id

theorem trans_of_id (r s t : Rule) (hrs : decide (r.id ≤ s.id)) (hst : decide (s.id ≤ t.id)) :
    decide (r.id ≤ t.id) :=
  decide_eq_true (Int.le_trans (of_decide_eq_true hrs) (of_decide_eq_true hst))

/-- A rule in place `i` comes before another in place `j`: it has the higher priority, or with the
same priority the lower id, or with the same id as well the earlier place. -/
def ComesBefore (r : Rule) (i : ℕ) (s : Rule) (j : ℕ) : Prop :=
  s.priority < r.priority ∨ (s.priority = r.priority ∧ r.id < s.id) ∨
    (s.priority = r.priority ∧ s.id = r.id ∧ i < j)

/-- A rule in an earlier place comes before all that it precedes or ties with. -/
theorem comesBefore_of_precedes {r s : Rule} {i j : ℕ} (h : r.precedes s) (hij : i < j) :
    r.ComesBefore i s j := by
  rw [precedes_iff] at h
  unfold ComesBefore
  omega

/-- A rule comes before all that do not precede it. -/
theorem comesBefore_of_not_precedes {r s : Rule} (i j : ℕ) (h : s.precedes r = false) :
    r.ComesBefore i s j := by
  rw [← Bool.not_eq_true, precedes_iff] at h
  unfold ComesBefore
  omega

theorem mem_rank {rule : Rule} {rules : List Rule} {questions : List Question} :
    rule ∈ rank rules questions ↔ rule ∈ rules ∧ rule.Eligible questions := by
  unfold rank
  rw [List.mem_mergeSort, List.mem_filter, isEligible_iff]

/-- A rule that can never match is one of the rules, and no question has the id that it names. -/
theorem mem_dangling {d : DanglingRule} {rules : List Rule} {questions : List Question} :
    d ∈ dangling rules questions ↔
      ∃ rule ∈ rules, (∀ q ∈ questions, q.id ≠ rule.questionId) ∧
        d = ⟨rule.id, rule.questionId⟩ := by
  unfold dangling resolves
  simp only [List.mem_map, List.mem_filter, List.mem_mergeSort, Bool.not_eq_true',
    List.any_eq_false, beq_iff_eq]
  constructor
  · rintro ⟨rule, ⟨hrule, hnone⟩, rfl⟩
    exact ⟨rule, hrule, hnone, rfl⟩
  · rintro ⟨rule, hrule, hnone, rfl⟩
    exact ⟨rule, ⟨hrule, hnone⟩, rfl⟩

/-! ## The rule that decides -/

variable {answers : AnswerSet Answer} {rules : List Rule} {questions : List Question}

/-- No rule decides exactly when none matches. -/
theorem select_eq_none_iff :
    select answers rules questions = none ↔ ∀ rule ∈ rules, ¬rule.Matches questions answers := by
  unfold select
  rw [List.find?_eq_none]
  constructor
  · intro h rule hmem hmatch
    have hsat := isEligible_and_isSatisfied.mpr hmatch
    exact h rule (mem_rank.mpr ⟨hmem, hmatch.1⟩) hsat.2
  · intro h rule hrank hsat
    obtain ⟨hmem, helig⟩ := mem_rank.mp hrank
    exact h rule hmem ⟨helig, isSatisfied_iff.mp hsat⟩

/-- The rule that decides matches, and it stands in a place among the rules from which it comes
before every other matching one. -/
theorem place_of_select {w : Rule} (h : select answers rules questions = some w) :
    ∃ i, rules[i]? = some w ∧ w.Matches questions answers ∧
      ∀ j r, rules[j]? = some r → j ≠ i → r.Matches questions answers → w.ComesBefore i r j := by
  unfold select at h
  have hsat := List.find?_some h
  have hrank : w ∈ rank rules questions := List.mem_of_find?_eq_some h
  obtain ⟨-, helig⟩ := mem_rank.mp hrank
  have hmatch : w.Matches questions answers := ⟨helig, isSatisfied_iff.mp hsat⟩
  obtain ⟨before, after, hsplit, hbefore, hafter⟩ :=
    split_of_find?_mergeSort precedes_trans precedes_total _ h
  -- The split of the eligible rules is one of all rules, where what is added is not eligible.
  obtain ⟨before', tail, hrules, rfl, htail⟩ := List.filter_eq_append_iff.mp hsplit
  obtain ⟨skipped, after', rfl, hskipped, -, rfl⟩ := List.filter_eq_cons_iff.mp htail
  refine ⟨(before' ++ skipped).length, ?_, hmatch, ?_⟩
  · rw [hrules, ← List.append_assoc, List.getElem?_append_right (Nat.le_refl _), Nat.sub_self]
    rfl
  · intro j r hj hne hr
    obtain ⟨hreligible, hrsat⟩ := isEligible_and_isSatisfied.mpr hr
    rw [hrules, ← List.append_assoc] at hj
    -- A matching rule in front of the split does not even tie with `w`; one behind it may.
    rcases Nat.lt_trichotomy j (before' ++ skipped).length with hlt | heq | hgt
    · rw [List.getElem?_append_left hlt] at hj
      rcases List.mem_append.mp (List.mem_of_getElem? hj) with hmem | hmem
      · exact comesBefore_of_not_precedes _ _
          (hbefore r (List.mem_filter.mpr ⟨hmem, hreligible⟩) hrsat)
      · exact absurd hreligible (hskipped r hmem)
    · exact absurd heq hne
    · rw [List.getElem?_append_right (Nat.le_of_lt hgt), List.getElem?_cons] at hj
      rw [if_neg (by omega)] at hj
      have hmem := List.mem_of_getElem? hj
      exact comesBefore_of_precedes (hafter r (List.mem_filter.mpr ⟨hmem, hreligible⟩) hrsat) hgt

end Rule

/-- What a rule decides is not that no rule matches. -/
theorem Decision.ofRule_ne_noMatch (rule : Rule) : ofRule rule ≠ noMatch := by
  unfold ofRule noMatch
  simp

/-- Evaluation finds no match exactly when no rule matches. Otherwise the rule that decides is a
matching one in a place from which it comes before all other matching rules. -/
theorem evaluate_decides_by_precedence (answers : AnswerSet Answer) (rules : List Rule)
    (questions : List Question) :
    (Decision.evaluate answers rules questions = .noMatch ↔
      ∀ rule ∈ rules, ¬rule.Matches questions answers) ∧
    (Decision.evaluate answers rules questions = .noMatch ∨
      ∃ i w, rules[i]? = some w ∧ w.Matches questions answers ∧
        Decision.evaluate answers rules questions = .ofRule w ∧
        ∀ j r, rules[j]? = some r → j ≠ i → r.Matches questions answers →
          w.ComesBefore i r j) := by
  unfold Decision.evaluate
  cases hsel : Rule.select answers rules questions with
  | none =>
    exact ⟨⟨fun _ => Rule.select_eq_none_iff.mp hsel, fun _ => rfl⟩, .inl rfl⟩
  | some w =>
    obtain ⟨i, hi, hmatch, hbest⟩ := Rule.place_of_select hsel
    refine ⟨⟨?_, ?_⟩, .inr ⟨i, w, hi, hmatch, rfl, hbest⟩⟩
    · intro h
      exact absurd h (Decision.ofRule_ne_noMatch w)
    · intro h
      exact absurd hmatch (h w (List.mem_of_getElem? hi))

end FormRouting
