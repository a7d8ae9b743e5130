import FormRouting.Json.Reader
import FormRouting.Json.Writer
import FormRouting.Proofs.Text.Hexadecimal

/-!
# Texts in JSON

A text is written character by character, and what is written for a character is read as that
character. A character is written in one of four ways (`Escape`): as an escape of one letter, as
itself, as the four digits of its UTF-16 unit, or as two units that only together make a character.
`escape_escapeChar` is the only place where the writing of a character is opened, and from the cases
follow the reading of one character (`textBody_escapeChar`) and, by induction, that of a text up to
its closing quote (`exists_readText_encodeText`).
-/

namespace FormRouting

/-! ## UTF-16 units -/

namespace Quoted

/-- The digits of a UTF-16 unit. -/
theorem hex_four {n : ℕ} (h : n < 0x10000) :
    hex 4 n = [(n / 0x1000).digitChar, (n / 0x100 % 16).digitChar, (n / 0x10 % 16).digitChar,
      (n % 16).digitChar] := by
  rw [hex_succ (by decide), hex_succ (by decide), hex_succ (by decide), hex,
    Nat.toDigits_of_lt_base (by omega)]
  simp [Nat.div_div_eq_div_mul]

end Quoted

namespace Json

theorem unit?_hex {n : ℕ} (h : n < 0x10000) (rest : List Char) :
    unit? (Quoted.hex 4 n ++ rest) = some (n, rest) := by
  rw [Quoted.hex_four h]
  simp only [List.cons_append, List.nil_append, unit?]
  rw [hexDigitValue?_digitChar (by omega), hexDigitValue?_digitChar (by omega),
    hexDigitValue?_digitChar (by omega), hexDigitValue?_digitChar (by omega)]
  simp only [Option.some.injEq, Prod.mk.injEq, and_true]
  omega

/-! ## Characters -/

/-- A character is no half of a pair of units. -/
theorem toNat_not_surrogate (c : Char) : c.toNat < 0xD800 ∨ 0xE000 ≤ c.toNat :=
  c.valid.imp id fun h => h.1

theorem toNat_lt (c : Char) : c.toNat < 0x110000 := by
  rcases c.valid with h | h
  · exact h.trans (by decide)
  · exact h.2

theorem unitChar?_hex {c : Char} (h : c.toNat < 0x10000) (rest : List Char) :
    unitChar? (Quoted.hex 4 c.toNat ++ rest) = some (c, rest) := by
  have hwhole := toNat_not_surrogate c
  rw [unitChar?, unit?_hex h]
  dsimp only
  rw [if_neg (by omega), if_neg (by omega), Char.ofNat_toNat]

/-- Two units of a pair are read as one character. -/
theorem unitChar?_pair {high low : ℕ} (hhigh : 0xD800 ≤ high ∧ high < 0xDC00)
    (hlow : 0xDC00 ≤ low ∧ low < 0xE000) (rest : List Char) :
    unitChar? (Quoted.hex 4 high ++ (unitEscape low ++ rest)) =
      some (pairChar high low, rest) := by
  rw [unitChar?, unit?_hex (by omega)]
  simp only [unitEscape, List.cons_append]
  rw [if_pos hhigh, unit?_hex (by omega)]
  dsimp only
  rw [if_pos hlow]

/-- The units of a character beyond the first plane are a pair, which stands for it. -/
theorem pairChar_units {c : Char} (h : 0x10000 ≤ c.toNat) :
    pairChar (0xD800 + (c.toNat - 0x10000) / 0x400) (0xDC00 + (c.toNat - 0x10000) % 0x400) = c := by
  have hunits : 0x10000 + (0xD800 + (c.toNat - 0x10000) / 0x400 - 0xD800) * 0x400 +
      (0xDC00 + (c.toNat - 0x10000) % 0x400 - 0xDC00) = c.toNat := by omega
  rw [pairChar, hunits, Char.ofNat_toNat]

/-- How a character is written: as an escape of one letter, as itself, or by its UTF-16 units. -/
inductive Escape (c : Char) : List Char → Prop where
  | short {letter : Char} (h : shortEscape? letter = some c) (hascii : letter.toNat < 0x80) :
      Escape c ['\\', letter]
  | plain (hlow : 0x20 ≤ c.toNat) (hhigh : c.toNat < 0x7F) (hquote : c ≠ '"')
      (hbackslash : c ≠ '\\') : Escape c [c]
  | unit (h : c.toNat < 0x10000) : Escape c (unitEscape c.toNat)
  | pair (h : 0x10000 ≤ c.toNat) :
      Escape c (unitEscape (0xD800 + (c.toNat - 0x10000) / 0x400) ++
        unitEscape (0xDC00 + (c.toNat - 0x10000) % 0x400))

theorem escape_escapeChar (c : Char) : Escape c (escapeChar c) := by
  rcases eq_or_ne c '"' with rfl | hquote
  · exact .short rfl (by decide)
  rcases eq_or_ne c '\\' with rfl | hbackslash
  · exact .short rfl (by decide)
  rcases eq_or_ne c '\n' with rfl | hline
  · exact .short rfl (by decide)
  rcases eq_or_ne c '\r' with rfl | hreturn
  · exact .short rfl (by decide)
  rcases eq_or_ne c '\t' with rfl | htab
  · exact .short rfl (by decide)
  rcases eq_or_ne c '\x08' with rfl | hback
  · exact .short rfl (by decide)
  rcases eq_or_ne c '\x0c' with rfl | hfeed
  · exact .short rfl (by decide)
  have hback : c.toNat ≠ 0x08 := fun h => hback (Char.toNat_inj.mp h)
  have hfeed : c.toNat ≠ 0x0C := fun h => hfeed (Char.toNat_inj.mp h)
  unfold escapeChar
  rw [if_neg hquote, if_neg hbackslash, if_neg hline, if_neg hreturn, if_neg htab, if_neg hback,
    if_neg hfeed]
  by_cases hprintable : 0x20 ≤ c.toNat ∧ c.toNat < 0x7F
  · rw [if_pos hprintable]
    exact .plain hprintable.1 hprintable.2 hquote hbackslash
  rw [if_neg hprintable]
  by_cases hunit : c.toNat < 0x10000
  · rw [if_pos hunit]
    exact .unit hunit
  · rw [if_neg hunit]
    exact .pair (not_lt.mp hunit)

/-- What is written for a character is read as this character. -/
theorem textBody_escapeChar (fuel : ℕ) (c : Char) (rest : List Char) :
    textBody (fuel + 1) (escapeChar c ++ rest) =
      (textBody fuel rest).map fun r => (c :: r.1, r.2) := by
  have hescape := escape_escapeChar c
  generalize escapeChar c = written at hescape
  cases hescape with
  | @short letter h _ =>
    -- The letter of a numbered escape, which is tried first, is no short escape.
    have hletter : letter ≠ 'u' := by
      rintro rfl
      cases h
    simp [textBody, h]
  | plain hlow _ hquote hbackslash => simp [textBody, hbackslash, not_lt.mpr hlow]
  | unit h => rw [unitEscape, List.cons_append, List.cons_append, textBody, unitChar?_hex h]
  | pair h =>
    have hlast := toNat_lt c
    rw [List.append_assoc, unitEscape, List.cons_append, List.cons_append, textBody,
      unitChar?_pair (by omega) (by omega), pairChar_units h]

/-- What is written for several characters is read as these, with a step for each of them and one
for the closing quote. -/
theorem textBody_flatMap_escapeChar {fuel : ℕ} {cs : List Char} (h : cs.length < fuel)
    (rest : List Char) :
    textBody fuel (cs.flatMap escapeChar ++ '"' :: rest) = some (cs, rest) := by
  induction cs generalizing fuel with
  | nil =>
    obtain ⟨fuel, rfl⟩ := Nat.exists_eq_add_one.mpr h
    rfl
  | cons c cs ih =>
    obtain ⟨fuel, rfl⟩ := Nat.exists_eq_add_one.mpr (Nat.zero_lt_of_lt h)
    rw [List.flatMap_cons, List.append_assoc, textBody_escapeChar, ih (Nat.lt_of_succ_lt_succ h)]
    rfl

/-! ## Texts -/

/-- No character is written as nothing: reading it takes a step. -/
theorem length_escapeChar_pos (c : Char) : 0 < (escapeChar c).length := by
  rw [List.length_pos_iff]
  intro h
  have hread := textBody_escapeChar 0 c ['"']
  rw [h] at hread
  cases hread

/-- A written text is longer than the text, by its quotes at least. -/
theorem length_encodeText (s : String) : s.toList.length + 2 ≤ (encodeText s).length := by
  have hescaped : s.toList.length ≤ (s.toList.flatMap escapeChar).length := by
    rw [List.length_flatMap, ← List.length_map (fun c => (escapeChar c).length)]
    refine List.length_le_sum_of_one_le _ fun n h => ?_
    obtain ⟨c, -, rfl⟩ := List.mem_map.mp h
    exact length_escapeChar_pos c
  simp only [encodeText, List.length_cons, List.length_append]
  omega

/-- A written text is read as the text, in no more steps than it has characters. -/
theorem exists_readText_encodeText {fuel : ℕ} {s : String} (h : (encodeText s).length ≤ fuel)
    (rest : List Char) :
    ∃ body, encodeText s ++ rest = '"' :: body ∧ readText fuel body = .ok (s, rest) := by
  have hlength := length_encodeText s
  refine ⟨s.toList.flatMap escapeChar ++ '"' :: rest, by simp [encodeText], ?_⟩
  rw [readText, textBody_flatMap_escapeChar (by omega)]
  simp

/-! ## ASCII -/

/-- All characters are ASCII. -/
def Ascii (cs : List Char) : Prop :=
  ∀ c ∈ cs, c.toNat < 0x80

@[simp]
theorem ascii_nil : Ascii [] :=
  List.forall_mem_nil _

@[simp]
theorem ascii_cons {c : Char} {cs : List Char} : Ascii (c :: cs) ↔ c.toNat < 0x80 ∧ Ascii cs :=
  List.forall_mem_cons

@[simp]
theorem ascii_append {cs ds : List Char} : Ascii (cs ++ ds) ↔ Ascii cs ∧ Ascii ds :=
  List.forall_mem_append

theorem ascii_unitEscape {n : ℕ} (h : n < 0x10000) : Ascii (unitEscape n) := by
  rw [unitEscape, Quoted.hex_four h]
  simp only [ascii_cons, ascii_nil, and_true]
  refine ⟨by decide, by decide, ?_, ?_, ?_, ?_⟩ <;> exact toNat_digitChar_lt (by omega)

theorem ascii_escapeChar (c : Char) : Ascii (escapeChar c) := by
  have hescape := escape_escapeChar c
  generalize escapeChar c = written at hescape
  cases hescape with
  | short _ hascii => simp [hascii]
  | plain _ hhigh _ _ => exact ascii_cons.mpr ⟨by omega, ascii_nil⟩
  | unit h => exact ascii_unitEscape h
  | pair h =>
    have hlast := toNat_lt c
    exact ascii_append.mpr ⟨ascii_unitEscape (by omega), ascii_unitEscape (by omega)⟩

theorem ascii_encodeText (s : String) : Ascii (encodeText s) := by
  have hbody : Ascii (s.toList.flatMap escapeChar) := by
    intro c h
    obtain ⟨d, -, hc⟩ := List.mem_flatMap.mp h
    exact ascii_escapeChar d c hc
  simp [encodeText, hbody]

end Json

end FormRouting
