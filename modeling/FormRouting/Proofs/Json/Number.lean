import FormRouting.Proofs.Json.Text
import FormRouting.Proofs.Value.DecimalOrder

/-!
# Integers in JSON

An integer is written as its decimal digits, behind a minus sign when it is negative. Where no digit,
fraction or exponent follows, these digits are read as the integer again (`readScalar_toString`),
unless there are more of them than are ever converted.
-/

namespace FormRouting.Json

/-! ## What follows a value -/

/-- What follows a value: nothing, the comma before the next member, or the end of the members. -/
inductive Closing : List Char → Prop where
  | nothing : Closing []
  | comma (rest : List Char) : Closing (',' :: rest)
  | bracket (rest : List Char) : Closing (']' :: rest)
  | brace (rest : List Char) : Closing ('\x7d' :: rest)

namespace Closing

variable {rest : List Char}

theorem takeWhile_isDigit (h : Closing rest) : rest.takeWhile Char.isDigit = [] := by
  cases h <;> rfl

theorem dropWhile_isDigit (h : Closing rest) : rest.dropWhile Char.isDigit = rest := by
  cases h <;> rfl

theorem splitFraction (h : Closing rest) : splitFraction rest = ([], rest) := by
  cases h <;> rfl

theorem splitExponent (h : Closing rest) : splitExponent rest = ([], rest) := by
  cases h <;> rfl

end Closing

/-! ## Digits -/

theorem exists_of_mem_toDigits {n : ℕ} {c : Char} (h : c ∈ Nat.toDigits 10 n) :
    ∃ d < 10, c = d.digitChar := by
  have hdigit := Nat.isDigit_of_mem_toDigits (by decide) (by decide) h
  obtain ⟨hlow, hhigh⟩ : 48 ≤ c.toNat ∧ c.toNat ≤ 57 := Char.isDigit_iff_toNat.mp hdigit
  refine ⟨c.toNat - 48, by omega, ?_⟩
  rw [← Char.toNat_inj, Nat.toNat_digitChar_of_lt_ten (by omega)]
  omega

theorem exists_toDigits_eq_digitChar (n : ℕ) :
    ∃ d < 10, ∃ cs, Nat.toDigits 10 n = d.digitChar :: cs := by
  obtain ⟨c, cs, hdigits⟩ := List.exists_cons_of_ne_nil (Nat.toDigits_ne_nil (b := 10) (n := n))
  obtain ⟨d, hd, rfl⟩ := exists_of_mem_toDigits (hdigits ▸ List.mem_cons_self)
  exact ⟨d, hd, cs, hdigits⟩

/-- The digits of a number that is not zero do not begin with a zero. -/
theorem exists_toDigits_eq_cons {n : ℕ} (h : 0 < n) :
    ∃ c cs, Nat.toDigits 10 n = c :: cs ∧ c ≠ '0' := by
  induction n using Nat.strongRecOn with
  | ind n ih =>
    by_cases hn : n < 10
    · refine ⟨n.digitChar, [], Nat.toDigits_of_lt_base hn, ?_⟩
      rw [ne_eq, Nat.digitChar_eq_zero]
      exact h.ne'
    · obtain ⟨c, cs, hdigits, hc⟩ := ih (n / 10) (by omega) (by omega)
      refine ⟨c, cs ++ [(n % 10).digitChar], ?_, hc⟩
      rw [Nat.toDigits_of_base_le (by decide) (not_lt.mp hn), hdigits, List.cons_append]

theorem natOfDigits_toDigits (n : ℕ) : RealText.natOfDigits (Nat.toDigits 10 n) = n := by
  rw [RealText.natOfDigits, IntegerText.ofDigits, List.foldl_map]
  exact Nat.ofDigitChars_eq_foldl.symm.trans Nat.ofDigitChars_ten_toDigits

/-- The digits of a number are split off as its whole digits. -/
theorem splitWhole_toDigits (n : ℕ) {rest : List Char} (h : Closing rest) :
    splitWhole (Nat.toDigits 10 n ++ rest) = (Nat.toDigits 10 n, rest) := by
  rcases n.eq_zero_or_pos with rfl | hn
  · rfl
  · obtain ⟨c, cs, hdigits, hc⟩ := exists_toDigits_eq_cons hn
    have hall : ∀ c ∈ Nat.toDigits 10 n, c.isDigit = true :=
      fun _ hmem => Nat.isDigit_of_mem_toDigits (by decide) (by decide) hmem
    calc splitWhole (Nat.toDigits 10 n ++ rest)
      _ = ((Nat.toDigits 10 n ++ rest).takeWhile Char.isDigit,
            (Nat.toDigits 10 n ++ rest).dropWhile Char.isDigit) := by
          rw [hdigits, List.cons_append]
          unfold splitWhole
          split
          · next heq => exact absurd (List.cons.inj heq).1 hc
          · rfl
      _ = (Nat.toDigits 10 n, rest) := by
          rw [List.takeWhile_append_of_pos hall, h.takeWhile_isDigit, List.append_nil,
            List.dropWhile_append_of_pos hall, h.dropWhile_isDigit]

/-- The digits of a number are read as the number, with its sign. -/
theorem readNumber_toDigits (negative : Bool) {n : ℕ} {rest : List Char}
    (hn : (Nat.toDigits 10 n).length ≤ IntegerText.digitLimit) (h : Closing rest) :
    readNumber negative (Nat.toDigits 10 n ++ rest) =
      .ok (.int (if negative then -n else n), rest) := by
  rw [readNumber, splitWhole_toDigits n h]
  dsimp only
  rw [h.splitFraction]
  dsimp only
  rw [h.splitExponent]
  simp [Nat.toDigits_ne_nil, not_lt.mpr hn, natOfDigits_toDigits]

/-! ## Integers -/

/-- What begins with a digit is no word. -/
theorem readScalar_digit {d : ℕ} (h : d < 10) (cs : List Char) :
    readScalar (d.digitChar :: cs) = readNumber false (d.digitChar :: cs) := by
  interval_cases d <;> rfl

/-- A digit behind a minus sign is not the beginning of a word. -/
theorem readScalar_minus {d : ℕ} (h : d < 10) (cs : List Char) :
    readScalar ('-' :: d.digitChar :: cs) = readNumber true (d.digitChar :: cs) := by
  interval_cases d <;> rfl

/-- The text of an integer is the digits of its magnitude, behind a minus sign if it is negative. -/
theorem toList_toString_eq (n : ℤ) :
    (toString n).toList =
      if n < 0 then '-' :: Nat.toDigits 10 n.natAbs else Nat.toDigits 10 n.natAbs := by
  cases n with
  | ofNat n => exact Nat.toList_repr
  | negSucc n =>
    rw [toList_toString_negSucc, if_pos (Int.negSucc_lt_zero n), Nat.toString_eq_repr,
      Nat.toList_repr, Int.natAbs_negSucc]

/-- The text of an integer begins with a minus sign or with a digit. -/
theorem exists_toString_eq_cons (n : ℤ) :
    ∃ c cs, (toString n).toList = c :: cs ∧ (c = '-' ∨ ∃ d < 10, c = d.digitChar) := by
  obtain ⟨d, hd, cs, hdigits⟩ := exists_toDigits_eq_digitChar n.natAbs
  rw [toList_toString_eq]
  split_ifs
  · exact ⟨'-', _, rfl, .inl rfl⟩
  · exact ⟨d.digitChar, cs, hdigits, .inr ⟨d, hd, rfl⟩⟩

theorem ascii_toString (n : ℤ) : Ascii (toString n).toList := by
  have hdigits : Ascii (Nat.toDigits 10 n.natAbs) := by
    intro c hc
    obtain ⟨d, hd, rfl⟩ := exists_of_mem_toDigits hc
    exact toNat_digitChar_lt (by omega)
  rw [toList_toString_eq]
  split_ifs
  · exact ascii_cons.mpr ⟨by decide, hdigits⟩
  · exact hdigits

/-- A written integer is read as the integer. -/
theorem readScalar_toString {n : ℤ} {rest : List Char}
    (hn : (Nat.toDigits 10 n.natAbs).length ≤ IntegerText.digitLimit) (h : Closing rest) :
    readScalar ((toString n).toList ++ rest) = .ok (.int n, rest) := by
  obtain ⟨d, hd, cs, hdigits⟩ := exists_toDigits_eq_digitChar n.natAbs
  rw [toList_toString_eq]
  by_cases hsign : n < 0
  · rw [if_pos hsign, List.cons_append, hdigits, List.cons_append, readScalar_minus hd,
      ← List.cons_append, ← hdigits, readNumber_toDigits true hn h, if_pos rfl]
    congr
    omega
  · rw [if_neg hsign, hdigits, List.cons_append, readScalar_digit hd, ← List.cons_append,
      ← hdigits, readNumber_toDigits false hn h, if_neg Bool.false_ne_true,
      Int.natAbs_of_nonneg (not_lt.mp hsign)]

end FormRouting.Json
