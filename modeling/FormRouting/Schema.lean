import FormRouting.Number.RealText
import FormRouting.Value.Reading

/-!
# Schemas

What a declared type of field takes. A value of the wrong shape is refused with the path of names
that leads to it; all refusals of one check are reported together, in the order of the fields.
-/

namespace FormRouting

/-- The paths of the fields that were refused. -/
structure SchemaError where
  paths : List (List String)
deriving DecidableEq, Repr

namespace Schema

/-- A text field: texts, and bytes that are text in UTF-8. -/
def text? : Value → Option String
  | .text s => some s
  | .bytes bs => String.fromUTF8? ⟨bs.toArray⟩
  | _ => none

/-- The spaces that may stand around the text of an integer field. -/
def isSpace (c : Char) : Bool :=
  isNumberBlank c

/-- The digits of an integer field's text: ASCII digits with single underscores between them. -/
def digits? (cs : List Char) : Option (List Char) :=
  RealText.dropUnderscores ' ' cs

/-- The text of an integer field without a fraction of zeros. -/
def dropZeroFraction (cs : List Char) : List Char :=
  let fraction := cs.dropWhile (· != '.')
  if 1 < fraction.length && (fraction.drop 1).all (· == '0') then cs.takeWhile (· != '.') else cs

/-- The integer that the text of an integer field spells: blanks around it, a sign, ASCII digits
with single underscores between them, and a fraction of zeros. -/
def integerOfText? (s : String) : Option Int :=
  let trimmed := ((s.toList.dropWhile isSpace).reverse.dropWhile isSpace).reverse
  if IntegerText.digitLimit < trimmed.length then none
  else
    let (negative, body) := IntegerText.splitSign trimmed
    match digits? (dropZeroFraction body) with
    | some digits =>
      if digits.isEmpty ∨ !digits.all Char.isDigit then none
      else
        let n : Int := RealText.natOfDigits digits
        some (if negative then -n else n)
    | none => none

/-- An integer field: integers, truth values as one and zero, whole floating-point numbers, and the
text of an integer. -/
def integer? : Value → Option Int
  | .int n => some n
  | .bool b => some (if b then 1 else 0)
  | .real (.finite negative rank) =>
    if Binary64.isWhole rank then some (Binary64.truncate negative rank) else none
  | .text s => integerOfText? s
  | .bytes bs => integerOfText? (Value.asciiText bs)
  | _ => none

/-- A text field that may be null. -/
def optionalText? : Value → Option (Option String)
  | .null => some none
  | v => (text? v).map some

/-- The path of a field that was refused, alone in a list; a field that was taken has none. -/
def refused {α : Type} (name : String) : Option α → List (List String)
  | some _ => []
  | none => [[name]]

end Schema

end FormRouting
