import FormRouting.Yaml.Timestamp

/-!
# Tags

What a node of a document is. A tag is written out, or it is recognised from the text of a plain
scalar: the names of nothing and of the truth values, integers in four notations, floating-point
numbers in two, and timestamps.
-/

namespace FormRouting.Yaml

/-- What a node is. -/
inductive Tag where
  | null
  | bool
  | int
  | float
  | binary
  | timestamp
  | orderedMap
  | pairs
  | set
  | text
  | sequence
  | mapping
  /-- The key whose value is merged into the mapping. -/
  | merge
  /-- The key that stands for the value of its mapping. -/
  | value
  /-- A tag that nothing is known about. -/
  | other (name : String)
deriving DecidableEq, Repr

namespace Tag

/-- What the names of the known tags begin with. -/
def standardStem : String := "tag:yaml.org,2002:"

/-- The known tags by the ends of their names. -/
def standard : List (String × Tag) := [
  ("null", .null), ("bool", .bool), ("int", .int), ("float", .float), ("binary", .binary),
  ("timestamp", .timestamp), ("omap", .orderedMap), ("pairs", .pairs), ("set", .set),
  ("str", .text), ("seq", .sequence), ("map", .mapping), ("merge", .merge), ("value", .value)]

/-- The tag of the given name. -/
def ofName (name : String) : Tag :=
  match standard.find? fun e => standardStem ++ e.1 == name with
  | some e => e.2
  | none => .other name

/-! ## Recognising plain scalars -/

def nullNames : List String := ["", "~", "null", "Null", "NULL"]

def trueNames : List String := ["yes", "Yes", "YES", "true", "True", "TRUE", "on", "On", "ON"]

def falseNames : List String := ["no", "No", "NO", "false", "False", "FALSE", "off", "Off", "OFF"]

/-- The characters after a sign. -/
def afterSign : List Char → List Char
  | '-' :: rest => rest
  | '+' :: rest => rest
  | cs => cs

/-- A digit of a number, or an underscore between digits. -/
def isDigitOrGap (c : Char) : Bool :=
  c.isDigit || c == '_'

/-- A digit of the given base, or an underscore. -/
def isBaseDigit (base : Nat) (c : Char) : Bool :=
  c == '_' ||
    (if base = 16 then
      c.isDigit || ('a' ≤ c && c ≤ 'f') || ('A' ≤ c && c ≤ 'F')
    else c.isDigit && c.toNat - 0x30 < base)

/-- Whether characters are a place of a number to the base of sixty, after the first place. -/
def isSixtieth : List Char → Bool
  | [d] => d.isDigit
  | [t, d] => t.isDigit && t.toNat < 0x36 && d.isDigit
  | _ => false

/-- The parts of a list between the occurrences of a mark. -/
def splitAt (mark : Char) : List Char → List (List Char)
  | [] => [[]]
  | c :: rest =>
    if c = mark then [] :: splitAt mark rest
    else
      match splitAt mark rest with
      | part :: parts => (c :: part) :: parts
      | [] => [[c]]

/-- Whether characters are two or more places of a number to the base of sixty; the first place is
any number that satisfies the given condition. -/
def isSexagesimal (first : List Char → Bool) (cs : List Char) : Bool :=
  match splitAt ':' cs with
  | head :: places => first head && !places.isEmpty && places.all isSixtieth
  | [] => false

/-- Whether characters are an integer that does not begin with a zero. -/
def isPlainInteger : List Char → Bool
  | c :: rest => c.isDigit && c != '0' && rest.all isDigitOrGap
  | [] => false

/-- Whether characters are an integer, in one of its notations. -/
def isInteger (cs : List Char) : Bool :=
  match afterSign cs with
  | ['0'] => true
  | '0' :: 'b' :: digits => !digits.isEmpty && digits.all (isBaseDigit 2)
  | '0' :: 'x' :: digits => !digits.isEmpty && digits.all (isBaseDigit 16)
  | '0' :: digits => digits.all (isBaseDigit 8)
  | cs => isPlainInteger cs || isSexagesimal isPlainInteger cs

/-- Whether characters are empty or an exponent with a sign. -/
def isExponent : List Char → Bool
  | [] => true
  | e :: sign :: digits =>
    (e == 'e' || e == 'E') && (sign == '+' || sign == '-') && !digits.isEmpty &&
      digits.all Char.isDigit
  | _ => false

/-- Whether characters are a digit and then digits or underscores. -/
def isWholePart : List Char → Bool
  | c :: rest => c.isDigit && rest.all isDigitOrGap
  | [] => false

/-- Whether characters are a floating-point number, in one of its notations. -/
def isFloat (cs : List Char) : Bool :=
  let unsigned := afterSign cs
  let whole := unsigned.takeWhile (· != '.')
  let fraction := (unsigned.dropWhile (· != '.')).drop 1
  let hasPoint := unsigned.contains '.'
  let name := String.ofList unsigned
  let afterDigits := fraction.dropWhile isDigitOrGap
  [".inf", ".Inf", ".INF"].contains name ||
    [".nan", ".NaN", ".NAN"].contains (String.ofList cs) ||
    (hasPoint && isWholePart whole && isExponent afterDigits) ||
    (cs.head? == some '.' && (fraction.head?.map Char.isDigit).getD false &&
      isExponent afterDigits) ||
    (hasPoint && isSexagesimal isWholePart whole && afterDigits.isEmpty)

/-- What a plain scalar is recognised as; a line feed at its end does not count. -/
def ofPlain (s : String) : Tag :=
  let cs := s.toList
  let cs := if cs.getLast? = some '\n' then cs.dropLast else cs
  let name := String.ofList cs
  if nullNames.contains name ∧ (s.isEmpty ∨ !name.isEmpty) then .null
  else if trueNames.contains name ∨ falseNames.contains name then .bool
  else if isFloat cs then .float
  else if isInteger cs then .int
  else if name = "<<" then .merge
  else if ((Timestamp.read? cs).map (·.isRecognised)).getD false then .timestamp
  else if name = "=" then .value
  else if ["!", "&", "*"].contains name then .other (standardStem ++ "yaml")
  else .text

end Tag

end FormRouting.Yaml
