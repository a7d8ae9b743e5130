import FormRouting.Text.Printable

/-!
# Quoted texts

How a text is shown inside quotes: in single quotes, or in double quotes when it holds a single one
and no double one. The quote, the backslash and the unprintable characters are escaped.
-/

namespace FormRouting

namespace Quoted

/-- A number in lower-case hexadecimal digits, with zeros in front up to the given width. -/
def hex (width n : Nat) : List Char :=
  let digits := Nat.toDigits 16 n
  List.replicate (width - digits.length) '0' ++ digits

/-- The numbered escape of a character: two, four or eight hexadecimal digits, as few as it needs. -/
def numberedEscape (c : Char) : List Char :=
  let n := c.toNat
  if n ≤ 0xFF then '\\' :: 'x' :: hex 2 n
  else if n ≤ 0xFFFF then '\\' :: 'u' :: hex 4 n
  else '\\' :: 'U' :: hex 8 n

/-- A character between the given quotes. -/
def escapeChar (quote : Char) (c : Char) : List Char :=
  if c = quote ∨ c = '\\' then ['\\', c]
  else if c = '\t' then ['\\', 't']
  else if c = '\n' then ['\\', 'n']
  else if c = '\r' then ['\\', 'r']
  else if isPrintable c then [c]
  else numberedEscape c

/-- The quote that a text is shown in. -/
def quoteFor (cs : List Char) : Char :=
  if cs.contains '\'' && !cs.contains '"' then '"' else '\''

/-- The text in quotes, character by character. -/
def encode (cs : List Char) : List Char :=
  let quote := quoteFor cs
  quote :: (cs.flatMap (escapeChar quote) ++ [quote])

/-- A byte between the given quotes: printable ASCII as it is, all else escaped. -/
def escapeByte (quote : Char) (b : UInt8) : List Char :=
  let c := Char.ofNat b.toNat
  if b.toNat < 0x7F then escapeChar quote c else '\\' :: 'x' :: hex 2 b.toNat

/-- Bytes in quotes, marked as bytes by the letter in front. -/
def encodeBytes (bytes : List UInt8) : List Char :=
  let quote := quoteFor (bytes.map fun b => Char.ofNat b.toNat)
  'b' :: quote :: (bytes.flatMap (escapeByte quote) ++ [quote])

end Quoted

/-- The text in quotes. -/
def quoted (s : String) : String :=
  String.ofList (Quoted.encode s.toList)

end FormRouting
