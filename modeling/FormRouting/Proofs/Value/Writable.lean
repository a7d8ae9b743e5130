import FormRouting.Proofs.Reading
import Mathlib

/-!
# Values that can be written

An integer can be written when it has no more digits than the limit (`IntegerText.isWritable_iff`),
and a value when all integers in it can. What a value that can be written stands for as an integer
can be written too (`Value.isWritable_of_toInteger`): a text with more digits is not read, and the
finite numbers are far smaller.
-/

namespace FormRouting

/-! ## Integers -/

namespace IntegerText

theorem isWritable_iff {n : ℤ} : isWritable n = true ↔ n.natAbs < 10 ^ digitLimit := by
  unfold isWritable
  rw [decide_eq_true_iff]
  exact Nat.length_toDigits_le_iff (by decide) (by decide)

@[simp]
theorem isWritable_neg (n : ℤ) : isWritable (-n) = isWritable n := by
  rw [isWritable, Int.natAbs_neg, isWritable]

/-- The first integer that is too long to be written. -/
theorem not_isWritable_ten_pow : isWritable (10 ^ digitLimit) = false := by
  have habs (k : ℕ) : (10 ^ k : ℤ).natAbs = 10 ^ k := Int.natAbs_pow 10 k
  rw [Bool.eq_false_iff, Ne, isWritable_iff, habs]
  exact lt_irrefl _

/-- An integer of no more digits than the limit can be written. -/
theorem isWritable_of_lt {n : ℤ} {digits : ℕ} (hdigits : digits ≤ digitLimit)
    (h : n.natAbs < 10 ^ digits) : isWritable n = true :=
  isWritable_iff.mpr (h.trans_le (Nat.pow_le_pow_right (by decide) hdigits))

/-- An integer of one digit can be written. -/
theorem isWritable_of_lt_ten {n : ℤ} (h : n.natAbs < 10) : isWritable n = true :=
  @isWritable_of_lt n 1 (by decide) h

theorem foldl_lt {digits : List ℕ} (h : ∀ d ∈ digits, d < 10) (n : ℕ) :
    digits.foldl (fun n d => 10 * n + d) n < (n + 1) * 10 ^ digits.length := by
  induction digits generalizing n with
  | nil => simp
  | cons d rest ih =>
    rw [List.forall_mem_cons] at h
    calc rest.foldl (fun n d => 10 * n + d) (10 * n + d)
        < (10 * n + d + 1) * 10 ^ rest.length := ih h.2 _
      _ ≤ (n + 1) * 10 * 10 ^ rest.length := Nat.mul_le_mul_right _ (by omega)
      _ = (n + 1) * 10 ^ (d :: rest).length := by rw [List.length_cons, pow_succ]; ring

/-- A number has no more digits than it is made of. -/
theorem ofDigits_lt {digits : List ℕ} (h : ∀ d ∈ digits, d < 10) :
    ofDigits digits < 10 ^ digits.length := by
  have hlt := foldl_lt h 0
  rwa [zero_add, one_mul] at hlt

theorem lt_ten_of_digitValue? {c : Char} {d : ℕ} (h : digitValue? c = some d) : d < 10 := by
  unfold digitValue? at h
  obtain ⟨first, hfirst, rfl⟩ := Option.map_eq_some_iff.mp h
  have hrange := List.find?_some hfirst
  simp only [Bool.and_eq_true, decide_eq_true_eq] at hrange
  omega

/-- What is scanned are digits. -/
theorem lt_ten_of_scanDigits {digitNeeded : Bool} {cs rest : List Char} {digits : List ℕ}
    (h : scanDigits digitNeeded cs = some (digits, rest)) : ∀ d ∈ digits, d < 10 := by
  fun_induction scanDigits digitNeeded cs generalizing digits rest with
  | case1 => cases h
  | case2 =>
    obtain ⟨rfl, -⟩ := Prod.mk.inj (Option.some.inj h)
    simp
  | case3 => cases h
  | case4 _ _ _ ih => exact ih h
  | case5 _ c _ _ d hd ih =>
    obtain ⟨⟨later, left⟩, hscan, hresult⟩ := Option.map_eq_some_iff.mp h
    obtain ⟨rfl, -⟩ := Prod.mk.inj hresult
    exact List.forall_mem_cons.mpr ⟨lt_ten_of_digitValue? hd, ih hscan⟩
  | case6 => cases h
  | case7 =>
    obtain ⟨rfl, -⟩ := Prod.mk.inj (Option.some.inj h)
    simp

/-- An integer that is read from a text can be written. -/
theorem isWritable_of_read {s : String} {n : ℤ} (h : read s = .ok n) : isWritable n = true := by
  unfold read at h
  dsimp only at h
  split at h
  · cases h
  · rename_i digits rest hscan
    by_cases hlong : digitLimit < digits.length
    · rw [if_pos hlong] at h
      cases h
    · have hdigits := ofDigits_lt (lt_ten_of_scanDigits hscan)
      have habs : n.natAbs = ofDigits digits := by
        split_ifs at h <;> rw [← Except.ok.inj h] <;> simp
      exact isWritable_of_lt (not_lt.mp hlong) (habs ▸ hdigits)

end IntegerText

namespace Binary64

/-- A finite number is less than `2 ^ 2098` units. -/
theorem units_lt (rank : Fin finiteCount) {exponent : ℕ} (h : 2098 ≤ exponent) :
    units rank < 2 ^ exponent := by
  have hsize : blockSize = 2 ^ 52 := rfl
  have hpos : 0 < blockSize := hsize ▸ Nat.two_pow_pos 52
  have hblock : rank.val / blockSize < 2047 := Nat.div_lt_of_lt_mul (by
    rw [Nat.mul_comm]
    exact rank.isLt)
  have hrest : rank.val % blockSize < blockSize := Nat.mod_lt _ hpos
  unfold units
  dsimp only
  split_ifs with hzero
  · have hsmall := (Nat.div_eq_zero_iff.mp hzero).resolve_left hpos.ne'
    -- The numbers of the first block are below the others.
    exact (hsize ▸ hsmall).trans (Nat.pow_lt_pow_right (by decide) (by omega))
  · calc (blockSize + rank.val % blockSize) * 2 ^ (rank.val / blockSize - 1)
        < 2 ^ 53 * 2 ^ (rank.val / blockSize - 1) :=
          Nat.mul_lt_mul_of_pos_right (by omega) (Nat.two_pow_pos _)
      _ = 2 ^ (53 + (rank.val / blockSize - 1)) := (pow_add ..).symm
      _ ≤ 2 ^ exponent := Nat.pow_le_pow_right (by decide) (by omega)

/-- The integer part of a finite number can be written. -/
theorem isWritable_truncate (negative : Bool) (rank : Fin finiteCount) :
    IntegerText.isWritable (truncate negative rank) = true := by
  have habs : (truncate negative rank).natAbs = units rank / unitsPerOne := by
    unfold truncate
    dsimp only
    split_ifs
    · rw [Int.natAbs_neg, Int.natAbs_natCast]
    · rw [Int.natAbs_natCast]
  rw [IntegerText.isWritable_iff, habs]
  calc units rank / unitsPerOne
      ≤ units rank := Nat.div_le_self ..
    _ < 2 ^ IntegerText.digitLimit := units_lt rank (by decide)
    _ ≤ 10 ^ IntegerText.digitLimit := Nat.pow_le_pow_left (by decide) _

end Binary64

/-! ## Values -/

namespace Value

theorem areWritable_iff {items : List Value} :
    areWritable items = true ↔ ∀ v ∈ items, v.isWritable = true := by
  induction items with
  | nil => simp [areWritable]
  | cons v rest ih => rw [areWritable, Bool.and_eq_true, ih, List.forall_mem_cons]

theorem areWritableEntries_iff {entries : List (Value × Value)} :
    areWritableEntries entries = true ↔
      ∀ e ∈ entries, e.1.isWritable = true ∧ e.2.isWritable = true := by
  induction entries with
  | nil => simp [areWritableEntries]
  | cons e rest ih =>
    rw [areWritableEntries, Bool.and_eq_true, Bool.and_eq_true, ih, List.forall_mem_cons]

section

variable {entries : List (Value × Value)}

/-- A field of a record that can be written can be written, and so can what stands for it when it is
missing. -/
theorem isWritable_fieldOr (h : (Value.map entries).isWritable = true) (key : String) {other : Value}
    (hother : other.isWritable = true) : (fieldOr entries key other).isWritable = true := by
  rw [isWritable, areWritableEntries_iff] at h
  unfold fieldOr
  cases hlookup : lookup key entries with
  | none => exact hother
  | some v =>
    obtain ⟨e, he, rfl⟩ := exists_mem_of_lookup hlookup
    exact (h e he).2

theorem isWritable_field (h : (Value.map entries).isWritable = true) (key : String) :
    (field entries key).isWritable = true :=
  isWritable_fieldOr h key isWritable_null

/-- The members of a value that can be written can be written. -/
theorem isWritable_of_members {v : Value} {items : List Value} (h : v.members = .ok items)
    (hv : v.isWritable = true) : ∀ item ∈ items, item.isWritable = true := by
  unfold members items? at h
  cases v with
  | list members | tuple members | set _ members =>
    obtain rfl := Except.ok.inj h
    rwa [isWritable, areWritable_iff] at hv
  | map entries =>
    obtain rfl := Except.ok.inj h
    rw [isWritable, areWritableEntries_iff] at hv
    rw [List.forall_mem_map]
    exact fun e he => (hv e he).1
  | text s =>
    obtain rfl := Except.ok.inj h
    simp
  | bytes bs =>
    obtain rfl := Except.ok.inj h
    rw [List.forall_mem_map]
    intro b _
    have hthree : 3 ≤ IntegerText.digitLimit := by decide
    rw [isWritable_int]
    exact IntegerText.isWritable_of_lt hthree (b.toNat_lt.trans (by decide))
  | _ => cases h

end

/-- The integer that a value stands for can be written if the value can. -/
theorem isWritable_of_toInteger {v : Value} {n : ℤ} (h : v.toInteger = .ok n)
    (hv : v.isWritable = true) : IntegerText.isWritable n = true := by
  have htext : ∀ source s, integerOfText source s = .ok n → IntegerText.isWritable n = true := by
    intro source s hs
    unfold integerOfText at hs
    split at hs
    · obtain rfl := Except.ok.inj hs
      exact IntegerText.isWritable_of_read ‹_›
    · cases hs
    · cases hs
  -- Of the values that stand for an integer only an integer itself can have too many digits.
  cases v with
  | bool b =>
    obtain rfl := Except.ok.inj h
    cases b <;> exact IntegerText.isWritable_of_lt_ten (by decide)
  | int m =>
    obtain rfl := Except.ok.inj h
    rwa [isWritable_int] at hv
  | real x =>
    cases x with
    | nan => cases h
    | infinite negative => cases h
    | finite negative rank =>
      obtain rfl := Except.ok.inj h
      exact Binary64.isWritable_truncate negative rank
  | text s => exact htext _ _ h
  | bytes bs => exact htext _ _ h
  | _ => cases h

end Value

end FormRouting
