import FormRouting.Proofs.Routing.Precedence

/-!
# Ranked and dangling rules

A rule takes part in evaluation when it is active and its question is part of the form, and it is
reported as dangling when its question is not, active or not. Neither happens to the inactive rules
with a question. `RankedAs` and `ReportedAs` say what the two lists are without sorting: each rule
occurs as often as it is listed, in the order of the list, and rules that tie there stay as they are
listed. `rules_are_ranked_or_reported_or_inactive` says that the lists are such and that no rule has
two places or none.
-/

namespace FormRouting

/-- The reference of a rule to its question. -/
def DanglingRule.ofRule (rule : Rule) : DanglingRule :=
  ⟨rule.id, rule.questionId⟩

namespace Rule

/-- The question that a rule names is part of the form. -/
def HasQuestion (rule : Rule) (questions : List Question) : Prop :=
  ∃ q ∈ questions, q.id = rule.questionId

instance (rule : Rule) (questions : List Question) : Decidable (rule.HasQuestion questions) :=
  inferInstanceAs (Decidable (∃ q ∈ questions, q.id = rule.questionId))

instance (rule : Rule) (questions : List Question) : Decidable (rule.Eligible questions) :=
  inferInstanceAs (Decidable (rule.isActive = true ∧ rule.HasQuestion questions))

theorem resolves_iff {rule : Rule} {questions : List Question} :
    rule.resolves questions = true ↔ rule.HasQuestion questions := by
  simp [resolves, HasQuestion]

/-- A list ranks rules: it holds those that can take part, each as often as it occurs, from the
highest priority to the lowest and then by id, and those that share both in the order in which they
are listed. -/
structure RankedAs (rules : List Rule) (questions : List Question) (ranked : List Rule) : Prop where
  perm : ranked.Perm (rules.filter (·.Eligible questions))
  sorted : ranked.Pairwise fun r s =>
    s.priority < r.priority ∨ r.priority = s.priority ∧ r.id ≤ s.id
  stable : ∀ priority id, ranked.filter (fun r => r.priority = priority ∧ r.id = id) =
    rules.filter fun r => (r.priority = priority ∧ r.id = id) ∧ r.Eligible questions

/-- A list reports dangling rules: it holds the references of those whose question is not part of the
form, each as often as it occurs, by id, and those of one id in the order in which they are listed. -/
structure ReportedAs (rules : List Rule) (questions : List Question)
    (reported : List DanglingRule) : Prop where
  perm : reported.Perm ((rules.filter (¬·.HasQuestion questions)).map .ofRule)
  sorted : reported.Pairwise fun d e => d.ruleId ≤ e.ruleId
  stable : ∀ id, reported.filter (·.ruleId = id) =
    (rules.filter fun r => r.id = id ∧ ¬r.HasQuestion questions).map .ofRule

variable {rules : List Rule} {questions : List Question}

/-! ## Ranked rules -/

theorem filter_isEligible (rules : List Rule) (questions : List Question) :
    rules.filter (·.isEligible questions) = rules.filter (·.Eligible questions) := by
  refine List.filter_congr fun rule _ => ?_
  rw [Bool.eq_iff_iff, decide_eq_true_iff, isEligible_iff]

theorem rankedAs_rank (rules : List Rule) (questions : List Question) :
    RankedAs rules questions (rank rules questions) := by
  unfold rank
  rw [filter_isEligible]
  refine ⟨List.mergeSort_perm _ _, ?_, fun priority id => ?_⟩
  · have hsorted := List.pairwise_mergeSort precedes_trans precedes_total
      (rules.filter (·.Eligible questions))
    exact hsorted.imp precedes_iff.mp
  · -- Rules of one priority and one id all tie, and a stable sort leaves them in place.
    have hties (r s : Rule) (hr : decide (r.priority = priority ∧ r.id = id))
        (hs : decide (s.priority = priority ∧ s.id = id)) : r.precedes s := by
      obtain ⟨hpriority, hid⟩ := of_decide_eq_true hr
      obtain ⟨hpriority', hid'⟩ := of_decide_eq_true hs
      rw [precedes_iff, hpriority, hpriority', hid, hid']
      exact .inr ⟨rfl, Int.le_refl id⟩
    rw [filter_mergeSort precedes_trans precedes_total hties, List.filter_filter]
    simp only [Bool.decide_and]

/-- Rules that can all take part and are in order are ranked as they are. -/
theorem rank_eq_self (heligible : ∀ rule ∈ rules, rule.Eligible questions)
    (hsorted : rules.Pairwise fun r s => r.precedes s) : rank rules questions = rules := by
  unfold rank
  rw [List.filter_eq_self.mpr fun rule hrule => isEligible_iff.mpr (heligible rule hrule)]
  exact List.mergeSort_of_pairwise hsorted

/-- Ranking what is ranked changes nothing. -/
theorem rank_rank (rules : List Rule) (questions : List Question) :
    rank (rank rules questions) questions = rank rules questions := by
  refine rank_eq_self (fun rule hrule => (mem_rank.mp hrule).2) ?_
  exact (rankedAs_rank rules questions).sorted.imp precedes_iff.mpr

/-! ## Dangling rules -/

/-- Dangling rules are reported by their references. -/
theorem dangling_eq (rules : List Rule) (questions : List Question) :
    dangling rules questions =
      ((rules.mergeSort fun r s => r.id ≤ s.id).filter (¬·.HasQuestion questions)).map .ofRule := by
  unfold dangling
  congr 1
  refine List.filter_congr fun rule _ => ?_
  rw [Bool.eq_iff_iff, Bool.not_eq_true', ← Bool.not_eq_true, resolves_iff, decide_eq_true_iff]

theorem reportedAs_dangling (rules : List Rule) (questions : List Question) :
    ReportedAs rules questions (dangling rules questions) := by
  rw [dangling_eq]
  refine ⟨?_, ?_, fun id => ?_⟩
  · exact ((List.mergeSort_perm rules _).filter _).map _
  · rw [List.pairwise_map]
    have hsorted := List.pairwise_mergeSort trans_of_id total_of_id rules
    refine (hsorted.imp fun hle => ?_).filter _
    exact of_decide_eq_true hle
  · have hties (r s : Rule) (hr : decide (r.id = id)) (hs : decide (s.id = id)) :
        decide (r.id ≤ s.id) := by
      rw [of_decide_eq_true hr, of_decide_eq_true hs]
      exact decide_eq_true (Int.le_refl id)
    have hstable := filter_mergeSort trans_of_id total_of_id hties rules
    -- Only the sort is known to be stable, so the rules of one id are chosen right behind it.
    have hid : (fun d : DanglingRule => decide (d.ruleId = id)) ∘ .ofRule =
        fun r => decide (r.id = id) := rfl
    rw [List.filter_map, hid, List.filter_comm, hstable, List.filter_comm, List.filter_filter]
    simp only [Bool.decide_and]

/-! ## All rules -/

/-- A rule can take part, or dangles, or is inactive and has a question. -/
theorem length_places (rules : List Rule) (questions : List Question) :
    (rules.filter (·.Eligible questions)).length + (rules.filter (¬·.HasQuestion questions)).length +
      (rules.filter fun r => r.isActive = false ∧ r.HasQuestion questions).length =
        rules.length := by
  have hquestion := List.length_eq_length_filter_add (l := rules) fun r => r.HasQuestion questions
  have hactive := List.length_eq_length_filter_add
    (l := rules.filter fun r => r.HasQuestion questions) fun r => r.isActive
  simp only [List.filter_filter] at hactive
  have heligible (r : Rule) : decide (r.Eligible questions) =
      (r.isActive && decide (r.HasQuestion questions)) := by
    rw [Bool.eq_iff_iff, Bool.and_eq_true, decide_eq_true_iff, decide_eq_true_iff]
    exact Iff.rfl
  have hinactive (r : Rule) : decide (r.isActive = false ∧ r.HasQuestion questions) =
      (!r.isActive && decide (r.HasQuestion questions)) := by
    rw [Bool.decide_and]
    cases r.isActive <;> rfl
  simp only [heligible, hinactive, decide_not]
  omega

/-- Ranking and the report of dangling rules divide the rules, whatever ids are repeated. The ranked
rules are exactly the active ones with a question and the reported ones exactly those without, each as
often as it occurs and in its order, where rules that tie stay as they are listed. Together with the
inactive rules that have a question they are all rules. What is ranked already stays as it is. -/
theorem rules_are_ranked_or_reported_or_inactive (rules : List Rule) (questions : List Question) :
    RankedAs rules questions (rank rules questions) ∧
      ReportedAs rules questions (dangling rules questions) ∧
      (rank rules questions).length + (dangling rules questions).length +
        (rules.filter fun r => r.isActive = false ∧ r.HasQuestion questions).length =
          rules.length ∧
      rank (rank rules questions) questions = rank rules questions := by
  have hranked := rankedAs_rank rules questions
  have hreported := reportedAs_dangling rules questions
  refine ⟨hranked, hreported, ?_, rank_rank rules questions⟩
  rw [hranked.perm.length_eq, hreported.perm.length_eq, List.length_map]
  exact length_places rules questions

end Rule

end FormRouting
