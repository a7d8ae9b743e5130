import FormRouting.Number.Shortest

/-!
# Writing floating-point numbers

A number is written with the digits of its shortest decimal, laid out positionally when it is of
moderate size and with an exponent otherwise.
-/

namespace FormRouting

/-- How the digits of a number are laid out. The point position counts the digits before the point,
so `1.5` has position 1 and `0.05` has position -1. -/
structure NumberLayout where
  /-- The least and the greatest point position written without an exponent. -/
  leastPosition : Int
  greatestPosition : Int
  /-- What closes a whole number written without an exponent. -/
  wholeEnding : String
  /-- The least number of digits of an exponent. -/
  exponentWidth : Nat
  notANumber : String
  infinity : String

namespace NumberLayout

/-- The layout of numbers in texts and in JSON alike, but for the names of the numbers that are not
finite: positional from `0.0001` up to sixteen digits before the point, a whole number ends in `.0`,
an exponent has its sign and two digits at least. -/
def plain : NumberLayout :=
  ⟨-3, 16, ".0", 2, "nan", "inf"⟩

/-- The layout of numbers in JSON. -/
def json : NumberLayout :=
  { plain with notANumber := "NaN", infinity := "Infinity" }

/-- A natural number with zeros in front up to the given width. -/
def padded (width n : Nat) : String :=
  let digits := Nat.repr n
  String.ofList (List.replicate (width - digits.length) '0') ++ digits

/-- The digits of a decimal, its last zeros left off, and its point position. -/
def digitsAndPosition (d : Decimal) : List Char × Int :=
  let digits := (Nat.repr d.digits).toList
  let kept := (digits.reverse.dropWhile (· == '0')).reverse
  (if kept.isEmpty then ['0'] else kept,
    if d.digits = 0 then 1 else digits.length + d.exponent)

/-- Writes digits with the point at the given position. -/
def positional (layout : NumberLayout) (digits : List Char) (position : Int) : List Char :=
  let zeros (n : Int) := List.replicate n.toNat '0'
  if position ≤ 0 then '0' :: '.' :: (zeros (-position) ++ digits)
  else if (digits.length : Int) ≤ position then
    digits ++ zeros (position - digits.length) ++ layout.wholeEnding.toList
  else digits.take position.toNat ++ '.' :: digits.drop position.toNat

/-- Writes digits with one of them before the point, and the exponent that this takes. -/
def scientific (layout : NumberLayout) (digits : List Char) (exponent : Int) : List Char :=
  let lead := match digits with
    | first :: second :: rest => first :: '.' :: second :: rest
    | short => short
  let sign := if exponent < 0 then '-' else '+'
  lead ++ 'e' :: sign :: (padded layout.exponentWidth exponent.natAbs).toList

/-- Writes a magnitude. -/
def magnitude (layout : NumberLayout) (rank : Nat) : List Char :=
  let (digits, position) := digitsAndPosition (Decimal.shortest rank)
  if layout.leastPosition ≤ position ∧ position ≤ layout.greatestPosition then
    layout.positional digits position
  else layout.scientific digits (position - 1)

/-- Writes a number. -/
def write (layout : NumberLayout) : Binary64 → String
  | .nan => layout.notANumber
  | .infinite negative => (if negative then "-" else "") ++ layout.infinity
  | .finite negative rank =>
    String.ofList ((if negative then ['-'] else []) ++ layout.magnitude rank)

end NumberLayout

/-- The text of a number. -/
def Binary64.text (x : Binary64) : String :=
  NumberLayout.plain.write x

end FormRouting
