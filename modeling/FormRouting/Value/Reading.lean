import FormRouting.Value.Equality
import FormRouting.Value.Integer

/-!
# Reading values

Why a value cannot be read as what is asked of it, and the readers that records share.
-/

namespace FormRouting

/-- Why a value cannot be read as what is asked of it. -/
inductive ReadError where
  /-- A record lacks a field that it needs. -/
  | missing (key : String)
  /-- A value that is no record was asked for a field that a record needs. -/
  | notARecord (value : Value)
  /-- A value that is no record was asked for a field that a record may have. -/
  | noFields (kind : String)
  /-- The value has no members to go through. -/
  | notIterable (kind : String)
  /-- The value cannot be a key. -/
  | unhashable (kind : String)
  /-- The value holds something other than texts. -/
  | notTexts
  | integer (error : IntegerError)
  /-- The value names no type of question. -/
  | questionType (value : Value)
  /-- A value that is to be written, or to be shown in a message, has no text. -/
  | unwritable

namespace ReadError

/-- The message about a value that was asked for a field although it is no record. -/
def notARecordMessage : Value → String
  | .text _ => "string indices must be integers, not 'str'"
  | .bytes _ => "byte indices must be integers or slices, not str"
  | .list _ => "list indices must be integers or slices, not str"
  | .tuple _ => "tuple indices must be integers or slices, not str"
  | v => "'" ++ v.kindName ++ "' object is not subscriptable"

def message : ReadError → String
  | .missing key => quoted key
  | .notARecord v => notARecordMessage v
  | .noFields kind => "'" ++ kind ++ "' object has no attribute 'get'"
  | .notIterable kind => "'" ++ kind ++ "' object is not iterable"
  | .unhashable kind => "unhashable type: '" ++ kind ++ "'"
  | .notTexts => "expected texts"
  | .integer e => e.message
  | .questionType v => v.literal ++ " is not a valid QuestionType"
  | .unwritable =>
    "Exceeds the limit (4300 digits) for integer string conversion; " ++
      "use sys.set_int_max_str_digits() to increase the limit"

/-- The error whose message shows a value; where the value cannot be written, this is the error. -/
def showing (v : Value) (e : ReadError) : ReadError :=
  if v.isWritable then e else .unwritable

/-- Whether the error is a fault of what was defined, to be reported as such, rather than a failure
of the reading itself. A value in place of a record and an infinite number are not foreseen. -/
def isDefinitionFault : ReadError → Bool
  | .noFields _ | .integer .infinite => false
  | _ => true

end ReadError

namespace Value

/-- The entries of a record. -/
def fields (v : Value) : Except ReadError (List (Value × Value)) :=
  match v with
  | .map entries => .ok entries
  | v => .error (.noFields v.kindName)

/-- The members of a value. -/
def members (v : Value) : Except ReadError (List Value) :=
  match v.items? with
  | some items => .ok items
  | none => .error (.notIterable v.kindName)

/-- The field of a record that it needs to have. -/
def need (entries : List (Value × Value)) (key : String) : Except ReadError Value :=
  match lookup key entries with
  | some v => .ok v
  | none => .error (.missing key)

/-- The field of a record, or another value when it is missing. -/
def fieldOr (entries : List (Value × Value)) (key : String) (other : Value) : Value :=
  (lookup key entries).getD other

/-- The field of a record, or null when it is missing. -/
def field (entries : List (Value × Value)) (key : String) : Value :=
  fieldOr entries key .null

/-- The text of a value. -/
def readText (v : Value) : Except ReadError String :=
  if v.isWritable then .ok v.toText else .error .unwritable

/-- The integer that a value stands for. -/
def readInteger (v : Value) : Except ReadError Int :=
  v.toInteger.mapError .integer

mutual

/-- The kind of the part of a value, if there is one, that keeps it from being a key. -/
def unhashableKind? : Value → Option String
  | .tuple items => unhashableAmong? items
  | v => if v.isHashable then none else some v.kindName

/-- The first such kind among the items of a tuple. -/
def unhashableAmong? : List Value → Option String
  | [] => none
  | v :: rest =>
    match unhashableKind? v with
    | some kind => some kind
    | none => unhashableAmong? rest

end

end Value

end FormRouting
