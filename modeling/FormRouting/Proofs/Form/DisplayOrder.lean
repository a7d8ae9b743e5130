import FormRouting.Form.Question
import FormRouting.Proofs.StableSort
import Mathlib.Data.List.Nodup
import Mathlib.Data.String.Basic

/-!
# The order of questions

Questions are put by index and then by id (`Question.le`). The order is total and transitive, so
`Question.inOrder` is a sort; between questions with distinct ids it is strict, and the order in
which they are put is then determined by the questions alone (`pairwise_before_inOrder`). Questions
that are in this order already stay as they are (`inOrder_eq_self_iff`), and so does the order of
questions that share their index and their id (`putInOrder_inOrder`).
-/

namespace FormRouting.Question

theorem le_iff {p q : Question} :
    p.le q = true ↔ p.orderIndex < q.orderIndex ∨ (p.orderIndex = q.orderIndex ∧ p.id ≤ q.id) := by
  simp [le]

theorem le_total (p q : Question) : p.le q || q.le p := by
  rw [Bool.or_eq_true, le_iff, le_iff]
  rcases lt_trichotomy p.orderIndex q.orderIndex with h | h | h
  · exact .inl (.inl h)
  · rcases Std.le_total (a := p.id) (b := q.id) with hid | hid
    · exact .inl (.inr ⟨h, hid⟩)
    · exact .inr (.inr ⟨h.symm, hid⟩)
  · exact .inr (.inl h)

theorem le_trans (p q r : Question) (hpq : p.le q) (hqr : q.le r) : p.le r := by
  rw [le_iff] at hpq hqr ⊢
  rcases hpq with hpq | ⟨hpq, hid⟩
  · rcases hqr with hqr | ⟨hqr, -⟩
    · exact .inl (lt_trans hpq hqr)
    · exact .inl (hqr ▸ hpq)
  · rcases hqr with hqr | ⟨hqr, hid'⟩
    · exact .inl (hpq ▸ hqr)
    · exact .inr ⟨hpq.trans hqr, hid.trans hid'⟩

/-- A question is put before another: it has the lower index, or with the same index the lower
id. -/
def Before (p q : Question) : Prop :=
  p.orderIndex < q.orderIndex ∨ (p.orderIndex = q.orderIndex ∧ p.id < q.id)

theorem before_of_le {p q : Question} (h : p.le q) (hne : p.id ≠ q.id) : p.Before q := by
  rcases le_iff.mp h with h | ⟨h, hid⟩
  · exact .inl h
  · exact .inr ⟨h, lt_of_le_of_ne hid hne⟩

/-- The order in which questions are put leaves none out and adds none. -/
theorem perm_inOrder (questions : List Question) : (inOrder questions).Perm questions :=
  List.mergeSort_perm questions le

theorem mem_inOrder {q : Question} {questions : List Question} :
    q ∈ inOrder questions ↔ q ∈ questions :=
  (perm_inOrder questions).mem_iff

/-- The order in which questions are put is by index and then by id. -/
theorem pairwise_le_inOrder (questions : List Question) :
    (inOrder questions).Pairwise fun p q => p.le q :=
  List.pairwise_mergeSort le_trans le_total questions

/-- Questions are put by index and then by id, and those that share both in the order in which they
are listed. -/
structure PutInOrder (questions ordered : List Question) : Prop where
  perm : ordered.Perm questions
  sorted : ordered.Pairwise fun p q =>
    p.orderIndex < q.orderIndex ∨ p.orderIndex = q.orderIndex ∧ p.id ≤ q.id
  stable : ∀ index id, ordered.filter (fun q => q.orderIndex = index ∧ q.id = id) =
    questions.filter fun q => q.orderIndex = index ∧ q.id = id

theorem putInOrder_inOrder (questions : List Question) :
    PutInOrder questions (inOrder questions) where
  perm := perm_inOrder questions
  sorted := (pairwise_le_inOrder questions).imp le_iff.mp
  stable index id := by
    refine filter_mergeSort le_trans le_total (fun p q hp hq => ?_) questions
    obtain ⟨hindex, hid⟩ := of_decide_eq_true hp
    obtain ⟨hindex', hid'⟩ := of_decide_eq_true hq
    rw [le_iff, hindex, hindex', hid, hid']
    exact .inr ⟨rfl, Std.le_refl id⟩

/-- Distinct ids stay distinct in the order in which questions are put. -/
theorem nodup_inOrder {questions : List Question} (distinct : (questions.map (·.id)).Nodup) :
    ((inOrder questions).map (·.id)).Nodup :=
  ((perm_inOrder questions).map _).nodup_iff.mpr distinct

/-- Questions with distinct ids are put one strictly before the next. -/
theorem pairwise_before_inOrder {questions : List Question}
    (distinct : (questions.map (·.id)).Nodup) : (inOrder questions).Pairwise Before := by
  have hsorted := pairwise_le_inOrder questions
  have hne : (inOrder questions).Pairwise fun p q => p.id ≠ q.id :=
    List.pairwise_map.mp (nodup_inOrder distinct)
  exact (hsorted.and hne).imp fun h => before_of_le h.1 h.2

/-- Questions are put in the order that they are in exactly when this is by index and then by id. -/
theorem inOrder_eq_self_iff {questions : List Question} :
    inOrder questions = questions ↔
      (questions.map fun q => (q.orderIndex, q.id)).Pairwise fun a b =>
        a.1 < b.1 ∨ a.1 = b.1 ∧ a.2 ≤ b.2 := by
  simp only [List.pairwise_map, ← le_iff]
  constructor
  · intro h
    rw [← h]
    exact pairwise_le_inOrder questions
  · exact List.mergeSort_of_pairwise

/-- Questions are put by index, whatever their ids. -/
theorem map_orderIndex_inOrder {questions : List Question}
    (h : (questions.map (·.orderIndex)).Pairwise (· ≤ ·)) :
    (inOrder questions).map (·.orderIndex) = questions.map (·.orderIndex) := by
  refine ((perm_inOrder questions).map _).eq_of_pairwise (fun a b _ _ => le_antisymm) ?_ h
  rw [List.pairwise_map]
  refine (pairwise_le_inOrder questions).imp fun hle => ?_
  exact (le_iff.mp hle).elim (fun hless => hless.le) fun hsame => hsame.1.le

end FormRouting.Question
