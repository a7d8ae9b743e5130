import FormRouting.Number.RealText
import FormRouting.Value.Reading

/-!
# Reading JSON

Reads JSON text as a value. Besides what JSON defines, the names of the numbers that are not finite
are taken. A number with a fraction or an exponent is a floating-point number, any other an integer.
A repeated key keeps its first place and its last value.
-/

namespace FormRouting

namespace Json

/-- Why a text is not read as JSON. -/
inductive Error where
  | malformed
  /-- An integer has more digits than are ever converted. -/
  | tooLong (digitCount : Nat)
deriving DecidableEq, Repr

def Error.message : Error → String
  | .malformed => "malformed text"
  | .tooLong n => (IntegerError.tooLong n).message

/-- The blanks of JSON. -/
def isBlank (c : Char) : Bool :=
  c == ' ' || c == '\t' || c == '\n' || c == '\r'

/-- The text after its leading blanks. -/
def skipBlanks (cs : List Char) : List Char :=
  cs.dropWhile isBlank

/-- The UTF-16 unit that four hexadecimal digits in front name. -/
def unit? : List Char → Option (Nat × List Char)
  | a :: b :: c :: d :: rest =>
    match hexDigitValue? a, hexDigitValue? b, hexDigitValue? c, hexDigitValue? d with
    | some a, some b, some c, some d => some (((a * 16 + b) * 16 + c) * 16 + d, rest)
    | _, _, _, _ => none
  | _ => none

/-- The character that an escape of one letter stands for. -/
def shortEscape? (c : Char) : Option Char :=
  match c with
  | '"' => some '"'
  | '\\' => some '\\'
  | '/' => some '/'
  | 'b' => some '\x08'
  | 'f' => some '\x0c'
  | 'n' => some '\n'
  | 'r' => some '\r'
  | 't' => some '\t'
  | _ => none

/-- The character of a pair of UTF-16 units. -/
def pairChar (high low : Nat) : Char :=
  Char.ofNat (0x10000 + (high - 0xD800) * 0x400 + (low - 0xDC00))

/-- The character in front of what follows `\u`. Two units of a pair make one character; a unit that
belongs to no pair stands for no character and is replaced. -/
def unitChar? (cs : List Char) : Option (Char × List Char) :=
  match unit? cs with
  | none => none
  | some (high, rest) =>
    if 0xD800 ≤ high ∧ high < 0xDC00 then
      match rest with
      | '\\' :: 'u' :: after =>
        match unit? after with
        | some (low, rest') =>
          if 0xDC00 ≤ low ∧ low < 0xE000 then some (pairChar high low, rest')
          else some ('\uFFFD', rest)
        | none => some ('\uFFFD', rest)
      | _ => some ('\uFFFD', rest)
    else if 0xDC00 ≤ high ∧ high < 0xE000 then some ('\uFFFD', rest)
    else some (Char.ofNat high, rest)

/-- The characters of a text up to its closing quote, and what follows it. -/
def textBody : (fuel : Nat) → List Char → Option (List Char × List Char)
  | 0, _ => none
  | _, [] => none
  | _ + 1, '"' :: rest => some ([], rest)
  | fuel + 1, '\\' :: 'u' :: rest =>
    match unitChar? rest with
    | some (c, after) => (textBody fuel after).map fun r => (c :: r.1, r.2)
    | none => none
  | fuel + 1, '\\' :: e :: rest =>
    match shortEscape? e with
    | some c => (textBody fuel rest).map fun r => (c :: r.1, r.2)
    | none => none
  | fuel + 1, c :: rest =>
    if c = '\\' ∨ c.toNat < 0x20 then none
    else (textBody fuel rest).map fun r => (c :: r.1, r.2)

/-- Reads the text after its opening quote. -/
def readText (fuel : Nat) (cs : List Char) : Except Error (String × List Char) :=
  match textBody fuel cs with
  | some (s, rest) => .ok (String.ofList s, rest)
  | none => .error .malformed

/-- Splits the whole digits of a number off: a single zero, or digits that begin otherwise. -/
def splitWhole (cs : List Char) : List Char × List Char :=
  match cs with
  | '0' :: rest => (['0'], rest)
  | cs => (cs.takeWhile Char.isDigit, cs.dropWhile Char.isDigit)

/-- Splits the fraction of a number off, when a digit follows its point. -/
def splitFraction (cs : List Char) : List Char × List Char :=
  match cs with
  | '.' :: after =>
    let digits := after.takeWhile Char.isDigit
    if digits.isEmpty then ([], cs) else ('.' :: digits, after.dropWhile Char.isDigit)
  | cs => ([], cs)

/-- Splits the exponent of a number off, when a digit follows its letter and sign. -/
def splitExponent (cs : List Char) : List Char × List Char :=
  match cs with
  | e :: after =>
    if e = 'e' ∨ e = 'E' then
      let (sign, digits) := match after with
        | '+' :: rest => (['+'], rest)
        | '-' :: rest => (['-'], rest)
        | rest => ([], rest)
      let run := digits.takeWhile Char.isDigit
      if run.isEmpty then ([], cs) else (e :: (sign ++ run), digits.dropWhile Char.isDigit)
    else ([], cs)
  | [] => ([], [])

/-- Reads a number after its sign. -/
def readNumber (negative : Bool) (cs : List Char) : Except Error (Value × List Char) :=
  let (whole, rest) := splitWhole cs
  if whole.isEmpty then .error .malformed
  else
    let (fraction, rest) := splitFraction rest
    let (exponent, rest) := splitExponent rest
    if fraction.isEmpty ∧ exponent.isEmpty then
      if IntegerText.digitLimit < whole.length then .error (.tooLong whole.length)
      else
        let n : Int := RealText.natOfDigits whole
        .ok (.int (if negative then -n else n), rest)
    else
      match RealText.decimal? negative (whole ++ fraction ++ exponent) with
      | some x => .ok (.real x, rest)
      | none => .error .malformed

/-- The rest of the text after a given word. -/
def afterWord? (word : String) (cs : List Char) : Option (List Char) :=
  if word.toList.isPrefixOf cs then some (cs.drop word.length) else none

/-- Reads a value that is a word or a number. -/
def readScalar (cs : List Char) : Except Error (Value × List Char) :=
  let words : List (String × Value) := [
    ("null", .null), ("true", .bool true), ("false", .bool false),
    ("NaN", .real .nan), ("Infinity", .real (.infinite false)),
    ("-Infinity", .real (.infinite true))]
  match words.findSome? fun w => (afterWord? w.1 cs).map fun rest => (w.2, rest) with
  | some found => .ok found
  | none =>
    match cs with
    | '-' :: rest => readNumber true rest
    | cs => readNumber false cs

mutual

/-- Reads a value that starts at the front. -/
def readValue : (fuel : Nat) → List Char → Except Error (Value × List Char)
  | 0, _ => .error .malformed
  | fuel + 1, cs =>
    match cs with
    | '"' :: rest =>
      match readText fuel rest with
      | .ok (s, after) => .ok (.text s, after)
      | .error e => .error e
    | '[' :: rest =>
      match skipBlanks rest with
      | ']' :: after => .ok (.list [], after)
      | inner =>
        match readItems fuel inner with
        | .ok (items, after) => .ok (.list items, after)
        | .error e => .error e
    | '\x7b' :: rest =>
      match skipBlanks rest with
      | '\x7d' :: after => .ok (.map [], after)
      | inner =>
        match readEntries fuel inner with
        | .ok (entries, after) => .ok (Value.mapOfEntries entries, after)
        | .error e => .error e
    | cs => readScalar cs

/-- Reads the items of a list up to its closing bracket. -/
def readItems : (fuel : Nat) → List Char → Except Error (List Value × List Char)
  | 0, _ => .error .malformed
  | fuel + 1, cs =>
    match readValue fuel cs with
    | .error e => .error e
    | .ok (v, rest) =>
      match skipBlanks rest with
      | ']' :: after => .ok ([v], after)
      | ',' :: after =>
        match readItems fuel (skipBlanks after) with
        | .ok (items, after) => .ok (v :: items, after)
        | .error e => .error e
      | _ => .error .malformed

/-- Reads the entries of a mapping up to its closing brace. -/
def readEntries : (fuel : Nat) → List Char → Except Error (List (Value × Value) × List Char)
  | 0, _ => .error .malformed
  | fuel + 1, cs =>
    match cs with
    | '"' :: rest =>
      match readText fuel rest with
      | .error e => .error e
      | .ok (key, rest) =>
        match skipBlanks rest with
        | ':' :: rest =>
          match readValue fuel (skipBlanks rest) with
          | .error e => .error e
          | .ok (v, rest) =>
            match skipBlanks rest with
            | '\x7d' :: after => .ok ([(.text key, v)], after)
            | ',' :: after =>
              match readEntries fuel (skipBlanks after) with
              | .ok (entries, after) => .ok ((.text key, v) :: entries, after)
              | .error e => .error e
            | _ => .error .malformed
        | _ => .error .malformed
    | _ => .error .malformed

end

/-- Reads a JSON text, which is one value with blanks around it. A step of the reading that takes no
character is followed by one that does, so twice the text's length bounds the steps. -/
def read (s : String) : Except Error Value :=
  let cs := s.toList
  match readValue (2 * cs.length + 1) (skipBlanks cs) with
  | .error e => .error e
  | .ok (v, rest) => if (skipBlanks rest).isEmpty then .ok v else .error .malformed

end Json

end FormRouting
