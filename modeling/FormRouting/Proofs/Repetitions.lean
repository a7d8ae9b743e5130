import Mathlib.Data.List.Induction
import Mathlib.Data.List.Nodup
import Mathlib.Data.List.Perm.Basic

/-!
# Lists with repetitions

What is left when repetitions are erased, seen from the end of the list: one more member is put at
the end, unless it is there already (`eraseDups_concat`). Members that are put together by distinct
keys are all there, each as often as before (`flatMap_filter_perm`).
-/

namespace FormRouting

variable {α : Type}

theorem eraseDups_concat [DecidableEq α] (xs : List α) (x : α) :
    (xs ++ [x]).eraseDups = if x ∈ xs then xs.eraseDups else xs.eraseDups ++ [x] := by
  rw [List.eraseDups_append]
  split_ifs with h
  · have hnone : [x].removeAll xs = [] := by simp [List.removeAll, h]
    rw [hnone, List.eraseDups_nil, List.append_nil]
  · have hkept : [x].removeAll xs = [x] := by simp [List.removeAll, h]
    rw [hkept]
    rfl

/-- Erasing repetitions leaves each member once. -/
theorem nodup_eraseDups [DecidableEq α] (xs : List α) : xs.eraseDups.Nodup := by
  induction xs using List.reverseRecOn with
  | nil => exact List.nodup_nil
  | append_singleton xs x ih =>
    rw [eraseDups_concat]
    split_ifs with h
    · exact ih
    · rw [← List.concat_eq_append]
      exact List.Nodup.concat (mt List.mem_eraseDups.mp h) ih

/-- Members put together by keys are all there, in some order, if the keys are distinct and every
member has one of them. -/
theorem flatMap_filter_perm {κ : Type} [DecidableEq κ] {key : α → κ} {keys : List κ}
    (hdistinct : keys.Nodup) {items : List α} (h : ∀ item ∈ items, key item ∈ keys) :
    (keys.flatMap fun k => items.filter (key · = k)).Perm items := by
  induction keys generalizing items with
  | nil =>
    have hnone : items = [] := List.eq_nil_iff_forall_not_mem.mpr fun item hmem =>
      absurd (h item hmem) List.not_mem_nil
    rw [hnone]
    rfl
  | cons k rest ih =>
    rw [List.nodup_cons] at hdistinct
    -- The members with the first key come first, and only the others matter for the other keys.
    have hothers : rest.flatMap (fun k' => items.filter (key · = k')) =
        rest.flatMap fun k' => (items.filter (key · ≠ k)).filter (key · = k') := by
      refine List.flatMap_congr fun k' hk' => ?_
      have hne : k' ≠ k := fun h => hdistinct.1 (h ▸ hk')
      rw [List.filter_filter]
      refine List.filter_congr fun item _ => ?_
      by_cases hkey : key item = k'
      · simp [hkey, hne]
      · simp [hkey]
    have hrest : ∀ item ∈ items.filter (key · ≠ k), key item ∈ rest := by
      intro item hmem
      rw [List.mem_filter, decide_eq_true_iff] at hmem
      exact (List.mem_cons.mp (h item hmem.1)).resolve_left hmem.2
    rw [List.flatMap_cons, hothers]
    refine ((ih hdistinct.2 hrest).append_left _).trans ?_
    have hsplit := List.filter_append_perm (key · = k) items
    simpa using hsplit

end FormRouting
