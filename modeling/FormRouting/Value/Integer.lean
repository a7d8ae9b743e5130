import FormRouting.Number.IntegerText
import FormRouting.Value.Text

/-!
# Integers from values

The integer that a value stands for: itself, the whole part of a number, one for true and zero for
false, or what a text or bytes spell.
-/

namespace FormRouting

/-- Why a value stands for no integer. -/
inductive IntegerError where
  /-- A value of this kind never does. -/
  | kind (name : String)
  /-- The text or the bytes spell none. -/
  | malformed (source : Value)
  | tooLong (digitCount : Nat)
  | notANumber
  | infinite

namespace IntegerError

/-- The longest part of a malformed source that a message shows. -/
def shownLength : Nat := 200

def message : IntegerError → String
  | .kind name =>
    "int() argument must be a string, a bytes-like object or a real number, not '" ++ name ++ "'"
  | .malformed source =>
    "invalid literal for int() with base 10: " ++
      String.ofList (source.literal.toList.take shownLength)
  | .tooLong n =>
    "Exceeds the limit (4300 digits) for integer string conversion: value has " ++ toString n ++
      " digits; use sys.set_int_max_str_digits() to increase the limit"
  | .notANumber => "cannot convert float NaN to integer"
  | .infinite => "cannot convert float infinity to integer"

end IntegerError

namespace Value

/-- The integer that a text spells, with the value that the text came from. -/
def integerOfText (source : Value) (s : String) : Except IntegerError Int :=
  match IntegerText.read s with
  | .ok n => .ok n
  | .error .malformed => .error (.malformed source)
  | .error (.tooLong n) => .error (.tooLong n)

/-- The characters of bytes, where only ASCII counts. -/
def asciiText (bs : List UInt8) : String :=
  String.ofList (bs.map fun b => if b.toNat < 0x80 then Char.ofNat b.toNat else '\uFFFD')

/-- The integer that a value stands for. -/
def toInteger : Value → Except IntegerError Int
  | .bool b => .ok (if b then 1 else 0)
  | .int n => .ok n
  | .real .nan => .error .notANumber
  | .real (.infinite _) => .error .infinite
  | .real (.finite negative rank) => .ok (Binary64.truncate negative rank)
  | .text s => integerOfText (.text s) s
  | .bytes bs => integerOfText (.bytes bs) (asciiText bs)
  | v => .error (.kind v.kindName)

@[simp]
theorem toInteger_int (n : Int) : (Value.int n).toInteger = .ok n := rfl

@[simp]
theorem toInteger_bool (b : Bool) : (Value.bool b).toInteger = .ok (if b then 1 else 0) := rfl

end Value

end FormRouting
