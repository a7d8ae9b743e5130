import FormRouting.Calendar

/-!
# Values

The values that records, definition files and submissions are made of. They are dynamic because the
data is: a definition may put any value in any field, and each reader of a field decides what it
takes. A mapping keeps its entries in the order in which their keys first came.
-/

namespace FormRouting

/-- A value of a record, a definition or a submission. -/
inductive Value where
  | null
  | bool (b : Bool)
  | int (n : Int)
  | real (x : Binary64)
  | text (s : String)
  | bytes (bs : List UInt8)
  | date (d : Date)
  | moment (m : Moment)
  | list (items : List Value)
  | tuple (items : List Value)
  /-- A set of distinct members; a frozen one can be a key. -/
  | set (frozen : Bool) (items : List Value)
  | map (entries : List (Value × Value))

namespace Value

instance : Inhabited Value := ⟨.null⟩

/-- The name of a value's kind, as messages give it. -/
def kindName : Value → String
  | .null => "NoneType"
  | .bool _ => "bool"
  | .int _ => "int"
  | .real _ => "float"
  | .text _ => "str"
  | .bytes _ => "bytes"
  | .date _ => "datetime.date"
  | .moment _ => "datetime.datetime"
  | .list _ => "list"
  | .tuple _ => "tuple"
  | .set true _ => "frozenset"
  | .set false _ => "set"
  | .map _ => "dict"

/-- Whether a value counts as true: all but nothing, false, zero, and what is empty. -/
def truthy : Value → Bool
  | .null => false
  | .bool b => b
  | .int n => n != 0
  | .real x => !x.isZero
  | .text s => !s.isEmpty
  | .bytes bs => !bs.isEmpty
  | .date _ | .moment _ => true
  | .list items | .tuple items | .set _ items => !items.isEmpty
  | .map entries => !entries.isEmpty

/-- The value, or another one in place of what does not count as true. -/
def orElse (v other : Value) : Value :=
  if v.truthy then v else other

/-- Whether a field with this value is left blank: null, or the empty text. -/
def isUnset : Value → Bool
  | .null => true
  | .text s => s.isEmpty
  | _ => false

/-- The value of an entry with a text key. -/
def lookup (key : String) : List (Value × Value) → Option Value
  | [] => none
  | (.text k, v) :: rest => if k = key then some v else lookup key rest
  | _ :: rest => lookup key rest

/-- A mapping with text keys. -/
def record (fields : List (String × Value)) : Value :=
  .map (fields.map fun f => (.text f.1, f.2))

@[simp]
theorem lookup_nil (key : String) : lookup key [] = none := rfl

@[simp]
theorem lookup_text_cons (key k : String) (v : Value) (rest : List (Value × Value)) :
    lookup key ((.text k, v) :: rest) = if k = key then some v else lookup key rest := rfl

/-- The members that a value yields when it is gone through: the items of a collection, the keys of
a mapping, the characters of a text, the numbers of bytes. Other values yield none. -/
def items? : Value → Option (List Value)
  | .list items | .tuple items | .set _ items => some items
  | .map entries => some (entries.map (·.1))
  | .text s => some (s.toList.map fun c => .text (String.singleton c))
  | .bytes bs => some (bs.map fun b => .int b.toNat)
  | _ => none

/-- Whether values of this kind can be keys. -/
def isHashable : Value → Bool
  | .list _ | .set false _ | .map _ => false
  | _ => true

end Value

end FormRouting
