import FormRouting.Text.Digit
import FormRouting.Text.Quoted
import Mathlib

/-!
# Hexadecimal digits

A number that fits into a given width is written in exactly as many lower-case digits, which read
as the number (`isHexadecimal_hex`). What such a text is does not depend on how it is written: each
digit is worth its place in the list of all digits, and is worth sixteen times as much with each
digit that follows.
-/

namespace FormRouting

theorem hexDigitValue?_digitChar {d : ℕ} (h : d < 16) : hexDigitValue? d.digitChar = some d := by
  revert d
  decide

theorem toNat_digitChar_lt {d : ℕ} (h : d < 16) : d.digitChar.toNat < 0x80 := by
  revert d
  decide

namespace Quoted

/-- The last one of several digits is that of the remainder. -/
theorem hex_succ {width : ℕ} (h : 0 < width) (n : ℕ) :
    hex (width + 1) n = hex width (n / 16) ++ [(n % 16).digitChar] := by
  by_cases hn : n < 16
  · obtain ⟨zeros, rfl⟩ := Nat.exists_eq_add_one.mpr h
    rw [Nat.div_eq_of_lt hn, Nat.mod_eq_of_lt hn, hex, hex, Nat.toDigits_of_lt_base hn,
      Nat.toDigits_zero]
    simp [List.replicate_succ']
  · rw [hex, hex, Nat.toDigits_of_base_le (by decide) (not_lt.mp hn)]
    simp

/-! ## Texts that read as a number -/

/-- The lower-case digits, each at the place that is its value. -/
def digits : List Char :=
  ['0', '1', '2', '3', '4', '5', '6', '7', '8', '9', 'a', 'b', 'c', 'd', 'e', 'f']

/-- The number that digits read as. -/
def numberOf (cs : List Char) : ℕ :=
  cs.foldl (fun n c => 16 * n + digits.idxOf c) 0

/-- A text has as many lower-case digits as the width says, and reads as the number. -/
structure IsHexadecimal (width n : ℕ) (cs : List Char) : Prop where
  length : cs.length = width
  digits : ∀ c ∈ cs, c ∈ digits
  number : numberOf cs = n

theorem digitChar_mem_digits {d : ℕ} (h : d < 16) : d.digitChar ∈ digits := by
  revert d
  decide

theorem idxOf_digitChar {d : ℕ} (h : d < 16) : digits.idxOf d.digitChar = d := by
  revert d
  decide

/-- A digit is put behind the digits of a number. -/
theorem IsHexadecimal.concat {width n d : ℕ} {cs : List Char} (h : IsHexadecimal width n cs)
    (hd : d < 16) : IsHexadecimal (width + 1) (16 * n + d) (cs ++ [d.digitChar]) where
  length := by rw [List.length_append, h.length, List.length_singleton]
  digits := by
    intro c hc
    rcases List.mem_append.mp hc with hc | hc
    · exact h.digits c hc
    · rw [List.mem_singleton.mp hc]
      exact digitChar_mem_digits hd
  number := by
    have hcs : cs.foldl (fun n c => 16 * n + Quoted.digits.idxOf c) 0 = n := h.number
    rw [numberOf, List.foldl_append, hcs, List.foldl_cons, List.foldl_nil, idxOf_digitChar hd]

/-- A number that fits into a width is written in as many digits. -/
theorem isHexadecimal_hex {width n : ℕ} (hwidth : 0 < width) (h : n < 16 ^ width) :
    IsHexadecimal width n (hex width n) := by
  induction width, hwidth using Nat.le_induction generalizing n with
  | base =>
    have hn : n < 16 := h
    have hone : hex 1 n = [] ++ [n.digitChar] := by
      rw [hex, Nat.toDigits_of_lt_base hn]
      rfl
    have hnone : IsHexadecimal 0 0 [] := ⟨rfl, List.forall_mem_nil _, rfl⟩
    have hdigit := hnone.concat hn
    rw [Nat.mul_zero, Nat.zero_add n] at hdigit
    rw [hone]
    exact hdigit
  | succ width hwidth ih =>
    -- The digits of the sixteenth come first, and then the one of the remainder.
    have hsixteenth : n / 16 < 16 ^ width := by
      rw [pow_succ] at h
      omega
    have hdigits := (ih hsixteenth).concat (Nat.mod_lt n (by decide : 0 < 16))
    rw [Nat.div_add_mod] at hdigits
    rw [hex_succ hwidth]
    exact hdigits

end Quoted

end FormRouting
