import FormRouting.Number.Binary64
import FormRouting.Number.IntegerText

/-!
# Floating-point numbers in text

The floating-point number that a text names: blanks around it, a sign, and then either decimal
digits with an optional fraction and exponent, or the name of infinity or of what is not a number.
-/

namespace FormRouting

namespace RealText

/-- The character, or the ASCII digit of the same value. -/
def asciiDigit (c : Char) : Char :=
  match digitValue? c with
  | some d => Char.ofNat (0x30 + d)
  | none => c

/-- The characters without their underscores, which must stand between digits. -/
def dropUnderscores : (previous : Char) → List Char → Option (List Char)
  | previous, [] => if previous = '_' then none else some []
  | previous, c :: rest =>
    if c = '_' then
      if previous.isDigit then dropUnderscores c rest else none
    else if previous = '_' ∧ ¬c.isDigit then none
    else (dropUnderscores c rest).map (c :: ·)

/-- The natural number that ASCII digits name. -/
def natOfDigits (digits : List Char) : Nat :=
  IntegerText.ofDigits (digits.map fun c => c.toNat - 0x30)

/-- Reads the exponent, if there is one, to the end of the text. -/
def exponent? : List Char → Option Int
  | [] => some 0
  | e :: rest =>
    if e = 'e' ∨ e = 'E' then
      let (negative, digits) := IntegerText.splitSign rest
      if digits.isEmpty ∨ !digits.all Char.isDigit then none
      else
        let n : Int := natOfDigits digits
        some (if negative then -n else n)
    else none

/-- Reads an unsigned decimal: whole digits, a fraction and an exponent, with a digit before or
after the point. -/
def decimal? (negative : Bool) (cs : List Char) : Option Binary64 :=
  let whole := cs.takeWhile Char.isDigit
  let rest := cs.dropWhile Char.isDigit
  let (fraction, rest) :=
    match rest with
    | '.' :: after => (after.takeWhile Char.isDigit, after.dropWhile Char.isDigit)
    | rest => ([], rest)
  if whole.isEmpty ∧ fraction.isEmpty then none
  else
    (exponent? rest).map fun e =>
      Binary64.ofDecimal negative (natOfDigits (whole ++ fraction)) (e - fraction.length)

/-- Reads a number. -/
def read? (s : String) : Option Binary64 :=
  let cs := (trimNumberBlanks s.toList).map asciiDigit
  match dropUnderscores ' ' cs with
  | none => none
  | some cs =>
    let (negative, body) := IntegerText.splitSign cs
    let name := String.ofList (body.map Char.toLower)
    if name = "inf" ∨ name = "infinity" then some (.infinite negative)
    else if name = "nan" then some .nan
    else decimal? negative body

end RealText

end FormRouting
