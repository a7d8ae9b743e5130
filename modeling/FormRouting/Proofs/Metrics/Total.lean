import FormRouting.Proofs.Metrics.Tally
import Mathlib.Algebra.BigOperators.Group.Finset.Basic
import Mathlib.Data.List.Count
import Mathlib.Tactic.Convert

/-!
# Totals over labels

The sum of a counter over all values of its labels (`Metrics.total`). It is the number of marks under
the name of the counter in the ledger, whichever values of the labels they have (`Keeps.total_eq`).
-/

namespace FormRouting

namespace Ledger

variable {name : String}

/-- The values of the labels with which a ledger marks a metric, once for each mark. -/
def keysOf (name : String) (marks : Ledger) : List (List String) :=
  marks.filterMap fun mark => if mark.1 = name then some mark.2 else none

theorem keysOf_append (marks later : Ledger) :
    keysOf name (marks ++ later) = keysOf name marks ++ keysOf name later :=
  List.filterMap_append

/-- A ledger without marks of a metric marks it with no values. -/
theorem keysOf_eq_nil {marks : Ledger} (h : ∀ mark ∈ marks, mark.1 ≠ name) :
    keysOf name marks = [] :=
  List.filterMap_eq_nil_iff.mpr fun mark hmark => if_neg (h mark hmark)

theorem count_keysOf (marks : Ledger) (key : List String) :
    (keysOf name marks).count key = marks.count (name, key) := by
  unfold keysOf
  induction marks with
  | nil => rfl
  | cons mark marks ih =>
    obtain ⟨other, values⟩ := mark
    rw [List.filterMap_cons, List.count_cons, ← ih]
    by_cases hname : other = name
    · simp [hname, List.count_cons]
    · simp [hname]

end Ledger

/-- What a counter has counted. -/
def Series.total : Series → ℕ
  | .counter (.whole n) => n
  | _ => 0

theorem Series.Measures.total_eq {s : Series} {n : ℕ} (h : Measures .counter s n) : s.total = n := by
  cases h
  rfl

/-- The sum of a counter over all values of its labels. -/
def Metric.total (m : Metric) : ℕ :=
  ∑ key ∈ (m.series.map (·.1)).toFinset, (m.seriesAt key).total

/-- Without a series of its own, a combination of values has counted nothing. -/
theorem Metric.total_seriesAt_of_not_mem {m : Metric} {key : List String}
    (h : key ∉ m.series.map (·.1)) : (m.seriesAt key).total = 0 := by
  have hnone : m.series.lookup key = none := by
    rw [List.lookup_eq_none_iff]
    intro e he
    rw [bne_iff_ne]
    rintro rfl
    exact h (List.mem_map_of_mem he)
  rw [seriesAt, hnone]
  cases m.kind <;> rfl

namespace Metrics

/-- The sum of the counter with the given name over all values of its labels. -/
def total (m : Metrics) (name : String) : ℕ :=
  ((m.get? name).map Metric.total).getD 0

/-- A counter adds up to the number of its marks in the ledger. -/
theorem Keeps.total_eq {m : Metrics} {kept : List Ledger.Account} {marks : Ledger}
    (h : m.Keeps kept marks) {a : Ledger.Account} (ha : a ∈ kept) (hkind : a.kind = .counter) :
    m.total a.name = (Ledger.keysOf a.name marks).length := by
  obtain ⟨metric, hget, -, -, hseries⟩ := h a ha
  rw [hkind] at hseries
  have hcount (key : List String) :
      (metric.seriesAt key).total = (Ledger.keysOf a.name marks).count key := by
    rw [Ledger.count_keysOf]
    exact (hseries key).total_eq
  -- What is marked was counted, so it has a series.
  have hsubset : (Ledger.keysOf a.name marks).toFinset ⊆ (metric.series.map (·.1)).toFinset := by
    intro key hkey
    rw [List.mem_toFinset] at hkey ⊢
    by_contra hnone
    have hzero := Metric.total_seriesAt_of_not_mem hnone
    rw [hcount, List.count_eq_zero] at hzero
    exact hzero hkey
  calc m.total a.name
      = ∑ key ∈ (metric.series.map (·.1)).toFinset, (metric.seriesAt key).total := by
        rw [total, hget]
        rfl
    _ = ∑ key ∈ (metric.series.map (·.1)).toFinset, (Ledger.keysOf a.name marks).count key :=
        Finset.sum_congr rfl fun key _ => hcount key
    _ = ∑ key ∈ (Ledger.keysOf a.name marks).toFinset, (Ledger.keysOf a.name marks).count key := by
        refine (Finset.sum_subset hsubset fun key _ hkey => ?_).symm
        rw [List.mem_toFinset] at hkey
        exact List.count_eq_zero.mpr hkey
    _ = (Ledger.keysOf a.name marks).length := by
        -- The counts are the same, whichever way lists of texts are compared.
        convert List.sum_toFinset_count_eq_length (Ledger.keysOf a.name marks)

end Metrics

end FormRouting
