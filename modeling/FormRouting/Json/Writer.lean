import FormRouting.Number.IntegerText
import FormRouting.Text.Quoted
import FormRouting.Value.Basic

/-!
# Writing JSON

A value as JSON text: members are separated by a comma and a blank, a key from its value by a colon
and a blank, and every character outside printable ASCII is escaped. Keys become texts. Sets, bytes,
dates and moments have no JSON form, and neither have integers that have no text.
-/

namespace FormRouting

namespace Json

/-- A UTF-16 unit as an escape. -/
def unitEscape (n : Nat) : List Char :=
  '\\' :: 'u' :: Quoted.hex 4 n

/-- A character inside a JSON text. A character beyond the first plane takes two units. -/
def escapeChar (c : Char) : List Char :=
  let n := c.toNat
  if c = '"' then ['\\', '"']
  else if c = '\\' then ['\\', '\\']
  else if c = '\n' then ['\\', 'n']
  else if c = '\r' then ['\\', 'r']
  else if c = '\t' then ['\\', 't']
  else if n = 0x08 then ['\\', 'b']
  else if n = 0x0C then ['\\', 'f']
  else if 0x20 ≤ n ∧ n < 0x7F then [c]
  else if n < 0x10000 then unitEscape n
  else
    unitEscape (0xD800 + (n - 0x10000) / 0x400) ++ unitEscape (0xDC00 + (n - 0x10000) % 0x400)

/-- A text in JSON, character by character. -/
def encodeText (s : String) : List Char :=
  '"' :: (s.toList.flatMap escapeChar ++ ['"'])

/-- Written members with a comma and a blank between them. -/
def separated : List (List Char) → List Char
  | [] => []
  | [m] => m
  | m :: rest => m ++ ',' :: ' ' :: separated rest

/-- An integer in JSON. -/
def encodeInt? (n : Int) : Option (List Char) :=
  if IntegerText.isWritable n then some (toString n).toList else none

@[simp]
theorem encodeInt?_of_isWritable {n : Int} (h : IntegerText.isWritable n = true) :
    encodeInt? n = some (toString n).toList :=
  if_pos h

/-- The text of a key: numbers and the named values are written as texts. -/
def keyText? : Value → Option String
  | .text s => some s
  | .null => some "null"
  | .bool b => some (if b then "true" else "false")
  | .int n => (encodeInt? n).map String.ofList
  | .real x => some (NumberLayout.json.write x)
  | _ => none

mutual

/-- A value in JSON, or nothing when some part of it has no JSON form. -/
def encode? : Value → Option (List Char)
  | .null => some "null".toList
  | .bool b => some (if b then "true" else "false").toList
  | .int n => encodeInt? n
  | .real x => some (NumberLayout.json.write x).toList
  | .text s => some (encodeText s)
  | .list items | .tuple items =>
    (encodeItems? items).map fun members => '[' :: (separated members ++ [']'])
  | .map entries =>
    (encodeEntries? entries).map fun members => '\x7b' :: (separated members ++ ['\x7d'])
  | .bytes _ | .date _ | .moment _ | .set _ _ => none

/-- The items of a collection in JSON. -/
def encodeItems? : List Value → Option (List (List Char))
  | [] => some []
  | v :: rest =>
    match encode? v, encodeItems? rest with
    | some m, some members => some (m :: members)
    | _, _ => none

/-- The entries of a mapping in JSON. -/
def encodeEntries? : List (Value × Value) → Option (List (List Char))
  | [] => some []
  | (k, v) :: rest =>
    match keyText? k, encode? v, encodeEntries? rest with
    | some key, some m, some members => some ((encodeText key ++ ':' :: ' ' :: m) :: members)
    | _, _, _ => none

end

mutual

/-- Whether a value has a JSON form that every reader takes: it holds no number that is not finite,
and nothing that has no JSON form. -/
def isStrict : Value → Bool
  | .null | .bool _ | .text _ => true
  | .int n => IntegerText.isWritable n
  | .real (.finite _ _) => true
  | .real _ => false
  | .list items | .tuple items => areStrict items
  | .map entries => areStrictEntries entries
  | .bytes _ | .date _ | .moment _ | .set _ _ => false

/-- Whether all values of a list have such a form. -/
def areStrict : List Value → Bool
  | [] => true
  | v :: rest => isStrict v && areStrict rest

/-- Whether all entries of a mapping have such a form. -/
def areStrictEntries : List (Value × Value) → Bool
  | [] => true
  | (k, v) :: rest => (keyText? k).isSome && isStrict v && areStrictEntries rest

end

/-- A value as JSON text. -/
def write? (v : Value) : Option String :=
  (encode? v).map String.ofList

end Json

end FormRouting
