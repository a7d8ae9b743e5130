import FormRouting.Number.RealText
import FormRouting.Text.Base64
import FormRouting.Text.Quoted
import FormRouting.Value.Basic
import FormRouting.Yaml.Node

/-!
# Scalars

The values of scalars by their tags, and why a document has no value. The text of a scalar is
interpreted as its tag says, whether the tag was recognised from the text or written out, so that
any text can come under any tag.
-/

namespace FormRouting.Yaml

/-- Why a document has no value. -/
inductive Error where
  /-- The document is not well formed or uses what is not supported. -/
  | fault (fault : Fault)
  /-- The text names no truth value. -/
  | truthValue (name : String)
  /-- A number has no characters. -/
  | emptyNumber
  | integer (base : Nat) (text : String)
  | tooManyDigits (count : Nat)
  | real (text : String)
  /-- A number to the base of sixty has too many places. -/
  | tooManyPlaces
  | notATimestamp
  /-- A collection is marked as a timestamp. -/
  | timestampKind
  | calendar (error : CalendarError)
deriving DecidableEq, Repr

namespace Error

/-- Not well formed, or not supported. -/
def malformed : Error := .fault .malformed

/-- The longest text that a message about an integer shows. -/
def shownLength : Nat := 200

def message : Error → String
  | .fault .malformed => "malformed document"
  | .fault (.characterCode code) =>
    if code < Nat.pow 2 31 then "chr() arg not in range(0x110000)"
    else "Python int too large to convert to C int"
  | .fault (.surrogate _) => "surrogates not allowed"
  | .truthValue name => quoted name
  | .emptyNumber => "string index out of range"
  | .integer base text =>
    "invalid literal for int() with base " ++ toString base ++ ": " ++
      String.ofList ((quoted text).toList.take shownLength)
  | .tooManyDigits n =>
    "Exceeds the limit (4300 digits) for integer string conversion: value has " ++ toString n ++
      " digits; use sys.set_int_max_str_digits() to increase the limit"
  | .real text => "could not convert string to float: " ++ quoted text
  | .tooManyPlaces => "int too large to convert to float"
  | .notATimestamp => "no timestamp"
  | .timestampKind => "expected a text"
  | .calendar e => e.message

end Error

namespace Scalar

/-- The truth value of a name, whose case does not count. -/
def truthValue (text : String) : Except Error Bool :=
  let name := text.toLower
  if ["yes", "true", "on"].contains name then .ok true
  else if ["no", "false", "off"].contains name then .ok false
  else .error (.truthValue name)

/-- Splits off the sign of a number, which must have characters. -/
def splitSign : List Char → Except Error (Bool × List Char)
  | [] => .error .emptyNumber
  | '-' :: rest => .ok (true, rest)
  | '+' :: rest => .ok (false, rest)
  | cs => .ok (false, cs)

/-- The number with the given places to the base of sixty, the first place first. -/
def ofPlaces (places : List Int) : Int :=
  places.foldl (fun n d => 60 * n + d) 0

/-- An integer in decimal notation. -/
def decimal (cs : List Char) : Except Error Int :=
  let text := String.ofList cs
  match IntegerText.read text with
  | .ok n => .ok n
  | .error .malformed => .error (.integer 10 text)
  | .error (.tooLong n) => .error (.tooManyDigits n)

/-- An integer to another base. -/
def inBase (base : Nat) (cs : List Char) : Except Error Int :=
  let text := String.ofList cs
  match IntegerText.readBase? base text with
  | some n => .ok n
  | none => .error (.integer base text)

/-- An integer without its sign: binary, hexadecimal or octal after a zero, places to the base of
sixty with colons between them, or decimal. -/
def magnitude : List Char → Except Error Int
  | [] => .error .emptyNumber
  | ['0'] => .ok 0
  | '0' :: 'b' :: digits => inBase 2 digits
  | '0' :: 'x' :: digits => inBase 16 digits
  | '0' :: digits => inBase 8 ('0' :: digits)
  | cs =>
    if cs.contains ':' then do
      return ofPlaces (← (Tag.splitAt ':' cs).mapM decimal)
    else decimal cs

/-- An integer; underscores do not count. -/
def integer (text : String) : Except Error Int := do
  let (negative, cs) ← splitSign (text.toList.filter (· != '_'))
  let n ← magnitude cs
  return if negative then -n else n

/-- A floating-point number in decimal notation. -/
def decimalReal (cs : List Char) : Except Error Binary64 :=
  let text := String.ofList cs
  match RealText.read? text with
  | some x => .ok x
  | none => .error (.real text)

/-- The sum of places to the base of sixty, added from the last one on, each weighed and rounded. -/
def sumPlaces : (weight : Nat) → (total : Binary64) → List Binary64 → Except Error Binary64
  | _, total, [] => .ok total
  | weight, total, place :: rest =>
    match Binary64.ofInt? weight with
    | some w => sumPlaces (60 * weight) (total.add (place.mul w)) rest
    | none => .error .tooManyPlaces

/-- A floating-point number; underscores and case do not count. -/
def real (text : String) : Except Error Binary64 := do
  let (negative, cs) ← splitSign ((text.toList.filter (· != '_')).map Char.toLower)
  if cs = ".nan".toList then return .nan
  let x ←
    if cs = ".inf".toList then pure (.infinite false)
    else if cs.contains ':' then do
      sumPlaces 1 .zero (← (Tag.splitAt ':' cs).mapM decimalReal).reverse
    else decimalReal cs
  return if negative then x.neg else x

/-- Bytes written in base 64. -/
def binary (text : String) : Except Error (List UInt8) :=
  if text.toList.all (·.toNat < 0x80) then
    match Base64.decode? text.toList with
    | some bytes => .ok bytes
    | none => .error .malformed
  else .error .malformed

/-- A date, or a moment when there is a time of day; a line feed at the end does not count. -/
def timestamp (text : String) : Except Error Value :=
  let cs := text.toList
  let cs := if cs.getLast? = some '\n' then cs.dropLast else cs
  match Timestamp.read? cs with
  | none => .error .notATimestamp
  | some t =>
    match t.time with
    | none => (t.toDate.map Value.date).mapError .calendar
    | some (hour, minute, second, fraction) =>
      ((t.toMoment hour minute second fraction).map Value.moment).mapError .calendar

end Scalar

namespace Node

mutual

/-- The text of a scalar. A mapping stands for the value under its key `=`. -/
def scalarText? : Node → Option String
  | .scalar _ text => some text
  | .sequence _ _ => none
  | .mapping _ entries => valueText? entries

/-- The text of the value under the key `=`. -/
def valueText? : List (Node × Node) → Option String
  | [] => none
  | (key, value) :: rest => if key.tag = .value then scalarText? value else valueText? rest

end

/-- The text of a node that has to be a scalar. -/
def needScalar (node : Node) : Except Error String :=
  match node.scalarText? with
  | some text => .ok text
  | none => .error .malformed

/-- The value of a node with a tag of scalars; there is none for the tags of collections and the
unknown ones. -/
def scalarValue? (node : Node) : Option (Except Error Value) :=
  match node.tag with
  | .null => some ((needScalar node).map fun _ => .null)
  | .bool => some (do return .bool (← Scalar.truthValue (← needScalar node)))
  | .int => some (do return .int (← Scalar.integer (← needScalar node)))
  | .float => some (do return .real (← Scalar.real (← needScalar node)))
  | .binary => some (do return .bytes (← Scalar.binary (← needScalar node)))
  | .timestamp =>
    some (do
      let text ← needScalar node
      match node with
      | .scalar _ _ => Scalar.timestamp text
      | _ => throw .timestampKind)
  | .text => some ((needScalar node).map .text)
  | .merge | .value | .other _ => some (.error .malformed)
  | .orderedMap | .pairs | .set | .sequence | .mapping => none

end Node

end FormRouting.Yaml
