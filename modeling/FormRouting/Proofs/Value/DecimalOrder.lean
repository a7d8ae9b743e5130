import Mathlib

/-!
# Decimal texts in order

Integers have one order and their decimal texts another. Of two natural numbers the smaller one also
has the earlier text exactly when it stays at most the larger one with zeros put after its digits,
until there are as many as those of the larger one (`toString_lt_toString_iff`): "1" comes before
"10", and "2" does not. `Int.TextAscends` says the same of integers, where a minus sign comes before
every digit and turns the order of the digits round (`toString_lt_toString_int_iff`).
-/

namespace FormRouting

/-! ## Lists in order -/

/-- Lists that begin with as many members each are in the order of these members, and where they are
the same in the order of the rest. -/
theorem append_lt_append_iff {α : Type} [LinearOrder α] {xs ys : List α}
    (h : xs.length = ys.length) (xs' ys' : List α) :
    xs ++ xs' < ys ++ ys' ↔ xs < ys ∨ xs = ys ∧ xs' < ys' := by
  induction xs generalizing ys with
  | nil =>
    obtain rfl : ys = [] := List.length_eq_zero_iff.mp h.symm
    simp
  | cons x xs ih =>
    cases ys with
    | nil => cases h
    | cons y ys =>
      rw [List.cons_append, List.cons_append, List.cons_lt_cons_iff, List.cons_lt_cons_iff,
        ih (Nat.succ.inj h), List.cons.injEq]
      tauto

/-! ## Digits -/

namespace Decimal

/-- How many digits a number has. -/
def width (n : ℕ) : ℕ :=
  (Nat.toDigits 10 n).length

theorem width_pos (n : ℕ) : 0 < width n :=
  Nat.length_toDigits_pos

theorem width_le_iff {n k : ℕ} (h : 0 < k) : width n ≤ k ↔ n < 10 ^ k :=
  Nat.length_toDigits_le_iff (by decide) h

/-- The larger one of two numbers has no fewer digits. -/
theorem width_mono {m n : ℕ} (h : m ≤ n) : width m ≤ width n :=
  (width_le_iff (width_pos n)).mpr (h.trans_lt ((width_le_iff (width_pos n)).mp le_rfl))

theorem toDigits_inj {m n : ℕ} : Nat.toDigits 10 m = Nat.toDigits 10 n ↔ m = n := by
  rw [← Nat.toList_repr, ← Nat.toList_repr, String.toList_inj, Nat.repr_inj]

theorem width_eq_succ {n : ℕ} (h : 10 ≤ n) : width n = width (n / 10) + 1 := by
  rw [width, Nat.toDigits_of_base_le (by decide) h, List.length_append]
  rfl

/-- The digits of a number begin with those of what is left when the last ones are cut off. -/
theorem exists_toDigits_eq_append {n : ℕ} (k : ℕ) (h : 10 ^ k ≤ n) :
    ∃ tail, tail.length = k ∧ Nat.toDigits 10 n = Nat.toDigits 10 (n / 10 ^ k) ++ tail := by
  induction k generalizing n with
  | zero => exact ⟨[], rfl, by simp⟩
  | succ k ih =>
    have hten : 10 ≤ n := (Nat.le_self_pow k.succ_ne_zero 10).trans h
    have htenth : 10 ^ k ≤ n / 10 := by
      rw [Nat.le_div_iff_mul_le (by decide), ← pow_succ]
      exact h
    obtain ⟨tail, htail, hdigits⟩ := ih htenth
    refine ⟨tail ++ [(n % 10).digitChar], by simp [htail], ?_⟩
    rw [Nat.toDigits_of_base_le (by decide) hten, hdigits, Nat.div_div_eq_div_mul, ← pow_succ',
      List.append_assoc]

theorem digitChar_lt_digitChar_iff {m n : ℕ} (hm : m < 10) (hn : n < 10) :
    m.digitChar < n.digitChar ↔ m < n := by
  rw [Char.lt_def, UInt32.lt_iff_toNat_lt]
  change m.digitChar.toNat < n.digitChar.toNat ↔ m < n
  rw [Nat.toNat_digitChar_of_lt_ten hm, Nat.toNat_digitChar_of_lt_ten hn]
  omega

/-- Numbers with as many digits each are in the order of their digits. -/
theorem toDigits_lt_toDigits_iff {m n : ℕ} (h : width m = width n) :
    Nat.toDigits 10 m < Nat.toDigits 10 n ↔ m < n := by
  -- The induction takes the last digit off both numbers, which come down to one digit together.
  induction m using Nat.strongRecOn generalizing n with
  | ind m ih =>
    by_cases hm : m < 10
    · have hn : n < 10 := by
        have hone : width n ≤ 1 := h ▸ (width_le_iff Nat.one_pos).mpr hm
        exact (width_le_iff Nat.one_pos).mp hone
      rw [Nat.toDigits_of_lt_base hm, Nat.toDigits_of_lt_base hn, List.cons_lt_cons_iff,
        digitChar_lt_digitChar_iff hm hn]
      simp
    · have hm : 10 ≤ m := not_lt.mp hm
      have hn : 10 ≤ n := by
        by_contra hn
        have hone : width n ≤ 1 := (width_le_iff Nat.one_pos).mpr (not_le.mp hn)
        have hmore := width_pos (m / 10)
        rw [width_eq_succ hm] at h
        omega
      have htenths : width (m / 10) = width (n / 10) := by
        rw [width_eq_succ hm, width_eq_succ hn] at h
        exact Nat.succ.inj h
      rw [Nat.toDigits_of_base_le (by decide) hm, Nat.toDigits_of_base_le (by decide) hn,
        append_lt_append_iff htenths, ih (m / 10) (by omega) htenths, toDigits_inj,
        List.cons_lt_cons_iff,
        digitChar_lt_digitChar_iff (Nat.mod_lt m (by decide)) (Nat.mod_lt n (by decide))]
      simp only [List.lt_irrefl, and_false, or_false]
      omega

/-- A number stays at most another one with zeros put after its digits, until there are as many as
those of the other one. -/
def Leads (m n : ℕ) : Prop :=
  m * 10 ^ (width n - width m) ≤ n

instance (m n : ℕ) : Decidable (Leads m n) :=
  inferInstanceAs (Decidable (_ ≤ _))

/-- A number leads a larger one that has as many digits. -/
theorem leads_of_width_eq {m n : ℕ} (h : m ≤ n) (hwidth : width m = width n) : Leads m n := by
  rw [Leads, hwidth, Nat.sub_self, pow_zero, mul_one]
  exact h

end Decimal

open Decimal

/-- Of two natural numbers, the smaller one has the earlier text exactly when it leads the other
one. -/
theorem toString_lt_toString_iff {m n : ℕ} (h : m < n) : toString m < toString n ↔ Leads m n := by
  rw [Nat.toString_eq_repr, Nat.toString_eq_repr, String.lt_iff_toList_lt, Nat.toList_repr,
    Nat.toList_repr]
  rcases (width_mono h.le).eq_or_lt with hwidth | hwidth
  · exact iff_of_true ((toDigits_lt_toDigits_iff hwidth).mpr h) (leads_of_width_eq h.le hwidth)
  · -- The digits of the larger number begin with as many as the smaller one has, and there are more.
    have hpow : 10 ^ (width n - width m) ≤ n := by
      have hmore := width_pos m
      rw [← not_lt, ← width_le_iff (by omega)]
      omega
    obtain ⟨tail, htail, hdigits⟩ := exists_toDigits_eq_append _ hpow
    have hhead : width m = width (n / 10 ^ (width n - width m)) := by
      have hlength := congrArg List.length hdigits
      rw [List.length_append, htail] at hlength
      change width n = width _ + _ at hlength
      omega
    have hnil : ([] : List Char) < tail := by
      cases tail with
      | nil =>
        rw [List.length_nil] at htail
        omega
      | cons c cs => exact List.nil_lt_cons c cs
    calc Nat.toDigits 10 m < Nat.toDigits 10 n
      _ ↔ Nat.toDigits 10 m ++ [] < Nat.toDigits 10 (n / 10 ^ (width n - width m)) ++ tail := by
          rw [List.append_nil, ← hdigits]
      _ ↔ m < n / 10 ^ (width n - width m) ∨ m = n / 10 ^ (width n - width m) := by
          rw [append_lt_append_iff hhead, toDigits_lt_toDigits_iff hhead, toDigits_inj,
            and_iff_left hnil]
      _ ↔ Leads m n := by
          rw [← le_iff_lt_or_eq, Nat.le_div_iff_mul_le (by positivity), Leads]

/-! ## Integers -/

/-- Of two integers, the first one smaller, this one has the earlier text as well. -/
def TextAscends : ℤ → ℤ → Prop
  | .ofNat m, .ofNat n => Leads m n
  | .negSucc _, .ofNat _ => True
  | .ofNat _, .negSucc _ => False
  | .negSucc m, .negSucc n => ¬Leads (n + 1) (m + 1)

instance : DecidableRel TextAscends
  | .ofNat m, .ofNat n => inferInstanceAs (Decidable (Leads m n))
  | .negSucc _, .ofNat _ => inferInstanceAs (Decidable True)
  | .ofNat _, .negSucc _ => inferInstanceAs (Decidable False)
  | .negSucc m, .negSucc n => inferInstanceAs (Decidable ¬Leads (n + 1) (m + 1))

theorem toString_ne_toString {m n : ℕ} (h : m ≠ n) : toString m ≠ toString n :=
  fun htext => h (Nat.repr_inj.mp htext)

/-- The text of a negative integer is that of its magnitude behind a minus sign. -/
theorem toList_toString_negSucc (m : ℕ) :
    (toString (Int.negSucc m)).toList = '-' :: (toString (m + 1)).toList := by
  show ("-" ++ Nat.repr (m + 1)).toList = _
  rw [String.toList_append]
  rfl

/-- A minus sign comes before every text of a natural number. -/
theorem minus_lt_toString (cs : List Char) (n : ℕ) : '-' :: cs < (toString n).toList := by
  rw [Nat.toString_eq_repr, Nat.toList_repr]
  cases hdigits : Nat.toDigits 10 n with
  | nil => exact absurd hdigits Nat.toDigits_ne_nil
  | cons c rest =>
    have hdigit : c.isDigit := Nat.isDigit_of_mem_toDigits (by decide) (by decide)
      (hdigits ▸ List.mem_cons_self)
    rw [List.cons_lt_cons_iff]
    left
    have h := (Char.isDigit_iff_toNat.mp hdigit).1
    rw [Char.lt_def, UInt32.lt_iff_toNat_lt]
    exact lt_of_lt_of_le (by decide) h

/-- Of two integers, the smaller one has the earlier text exactly when it ascends as a text. -/
theorem toString_lt_toString_int_iff {m n : ℤ} (h : m < n) :
    toString m < toString n ↔ TextAscends m n := by
  cases m with
  | ofNat m =>
    cases n with
    | ofNat n => exact toString_lt_toString_iff (Int.ofNat_lt.mp h)
    | negSucc n =>
      have hsign : Int.negSucc n < Int.ofNat m :=
        (Int.negSucc_lt_zero n).trans_le (Int.natCast_nonneg m)
      exact absurd h hsign.asymm
  | negSucc m =>
    rw [String.lt_iff_toList_lt, toList_toString_negSucc]
    cases n with
    | ofNat n => exact iff_of_true (minus_lt_toString _ n) trivial
    | negSucc n =>
      -- The signs are the same, and the larger magnitude is that of the smaller integer.
      have hmagnitude : n + 1 < m + 1 := by omega
      have hne := toString_ne_toString hmagnitude.ne'
      rw [toList_toString_negSucc, List.cons_lt_cons_iff, ← String.lt_iff_toList_lt, TextAscends,
        ← toString_lt_toString_iff hmagnitude, not_lt, ← hne.le_iff_lt]
      simp

end FormRouting
