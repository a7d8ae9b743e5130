import Mathlib.Data.List.Nodup

/-!
# Sorted lists

What sorting keeps of a list, and what it forgets. The first element of a sorted list that has a
property is said of the list before sorting: since the sort is stable, it is the element that none
before it ties with or precedes, and that precedes or ties with all after it, among those with the
property (`split_of_find?_mergeSort`). The places of the list are thereby settled as well as the
order: elements that tie keep theirs (`filter_mergeSort`). Where no two elements tie, the places do
not matter, and two orders of one list are sorted alike (`mergeSort_eq_of_perm`,
`mergeSort_eq_of_perm_of_key`).
-/

namespace FormRouting

variable {α : Type} {le : α → α → Bool}

/-- What a search of a sorted list finds splits the list before sorting: of the elements with the
property, those before the split come strictly after what is found, and those behind it do not come
before. -/
theorem split_of_find?_mergeSort (trans : ∀ a b c, le a b → le b c → le a c)
    (total : ∀ a b, le a b || le b a) (p : α → Bool) {l : List α} {w : α}
    (h : (l.mergeSort le).find? p = some w) :
    ∃ before after, l = before ++ w :: after ∧ (∀ x ∈ before, p x → le x w = false) ∧
      ∀ x ∈ after, p x → le w x := by
  induction l with
  | nil => simp at h
  | cons a l ih =>
    -- Sorting `a :: l` puts `a` in front of what it ties with, and leaves the rest in place.
    obtain ⟨l₁, l₂, hcons, hl, hlt⟩ := List.mergeSort_cons trans total a l
    rw [hcons, List.find?_append] at h
    cases h₁ : l₁.find? p with
    | some v =>
      rw [h₁] at h
      obtain rfl : v = w := by simpa using h
      obtain ⟨before, after, hsplit, hbefore, hafter⟩ := ih (by rw [hl, List.find?_append, h₁]; rfl)
      refine ⟨a :: before, after, by rw [hsplit, List.cons_append], ?_, hafter⟩
      intro x hx hpx
      rcases List.mem_cons.mp hx with rfl | hx
      · have hv := hlt v (List.mem_of_find?_eq_some h₁)
        simpa using hv
      · exact hbefore x hx hpx
    | none =>
      rw [h₁, Option.none_or, List.find?_cons] at h
      cases ha : p a with
      | true =>
        obtain rfl : a = w := by simpa [ha] using h
        refine ⟨[], l, rfl, by simp, ?_⟩
        intro x hx hpx
        have hmem : x ∈ l₁ ++ l₂ := by rw [← hl]; exact List.mem_mergeSort.mpr hx
        have hsorted := List.pairwise_mergeSort trans total (a :: l)
        rw [hcons, List.pairwise_append, List.pairwise_cons] at hsorted
        rcases List.mem_append.mp hmem with hx₁ | hx₂
        · exact absurd hpx (List.find?_eq_none.mp h₁ x hx₁)
        · exact hsorted.2.1.1 x hx₂
      | false =>
        rw [ha] at h
        obtain ⟨before, after, hsplit, hbefore, hafter⟩ :=
          ih (by rw [hl, List.find?_append, h₁, Option.none_or]; exact h)
        refine ⟨a :: before, after, by rw [hsplit, List.cons_append], ?_, hafter⟩
        intro x hx hpx
        rcases List.mem_cons.mp hx with rfl | hx
        · rw [ha] at hpx
          exact absurd hpx Bool.false_ne_true
        · exact hbefore x hx hpx

/-- Sorting is stable: elements that all tie with each other keep their order. -/
theorem filter_mergeSort (trans : ∀ a b c, le a b → le b c → le a c)
    (total : ∀ a b, le a b || le b a) {p : α → Bool} (ties : ∀ a b, p a → p b → le a b)
    (l : List α) : (l.mergeSort le).filter p = l.filter p := by
  -- What is in order already goes into the sorted list as it is.
  have hsorted : (l.filter p).Pairwise fun a b => le a b := by
    rw [List.pairwise_filter]
    exact List.pairwise_of_forall fun a b ha hb => ties a b ha hb
  have hsub : (l.filter p).Sublist (l.mergeSort le) :=
    List.sublist_mergeSort trans total hsorted List.filter_sublist
  have hfilter := hsub.filter p
  simp only [List.filter_filter, Bool.and_self] at hfilter
  have hlength := ((List.mergeSort_perm l le).filter p).length_eq
  exact (hfilter.eq_of_length hlength.symm).symm

/-- Sorting forgets the order of a list in which no two different elements tie. -/
theorem mergeSort_eq_of_perm (trans : ∀ a b c, le a b → le b c → le a c)
    (total : ∀ a b, le a b || le b a) {l l' : List α}
    (antisymm : ∀ a ∈ l, ∀ b ∈ l, le a b → le b a → a = b) (h : l.Perm l') :
    l.mergeSort le = l'.mergeSort le := by
  refine List.Perm.eq_of_pairwise ?_ (List.pairwise_mergeSort trans total l)
    (List.pairwise_mergeSort trans total l') ?_
  · intro a b ha hb hab hba
    exact antisymm a (List.mem_mergeSort.mp ha) b (h.mem_iff.mpr (List.mem_mergeSort.mp hb)) hab hba
  · calc List.Perm (l.mergeSort le) l := List.mergeSort_perm l le
      List.Perm _ l' := h
      List.Perm _ (l'.mergeSort le) := (List.mergeSort_perm l' le).symm

/-- Sorting forgets the order of a list whose elements have distinct keys, when only elements with
one key tie. -/
theorem mergeSort_eq_of_perm_of_key {κ : Type} (key : α → κ)
    (trans : ∀ a b c, le a b → le b c → le a c) (total : ∀ a b, le a b || le b a)
    (ties : ∀ a b, le a b → le b a → key a = key b) {l l' : List α} (distinct : (l.map key).Nodup)
    (h : l.Perm l') : l.mergeSort le = l'.mergeSort le := by
  refine mergeSort_eq_of_perm trans total (fun a ha b hb hab hba => ?_) h
  exact List.inj_on_of_nodup_map distinct ha hb (ties a b hab hba)

end FormRouting
