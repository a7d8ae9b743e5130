import FormRouting.Number.IntegerText
import FormRouting.Text.Quoted
import FormRouting.Value.Basic

/-!
# Values in writing

A value is written in two ways. Its *literal* shows texts in quotes and is how it appears inside a
collection or a message; its *text* is the same but for texts, dates and moments at the top, which
are written plainly. Both are laid out here for every value, but only a value that is *writable* is
ever written: one that holds an integer with too many digits is not, and what would show it fails.
-/

namespace FormRouting

namespace Value

mutual

/-- Whether a value can be written: every integer in it has a text. -/
def isWritable : Value → Bool
  | .int n => IntegerText.isWritable n
  | .list items | .tuple items | .set _ items => areWritable items
  | .map entries => areWritableEntries entries
  | .null | .bool _ | .real _ | .text _ | .bytes _ | .date _ | .moment _ => true

/-- Whether all values of a list can be written. -/
def areWritable : List Value → Bool
  | [] => true
  | v :: rest => isWritable v && areWritable rest

/-- Whether the keys and values of all entries can be written. -/
def areWritableEntries : List (Value × Value) → Bool
  | [] => true
  | (k, v) :: rest => isWritable k && isWritable v && areWritableEntries rest

end

/-- Members in brackets. -/
def bracketed (left right : String) (members : List String) : String :=
  left ++ ", ".intercalate members ++ right

mutual

/-- How a value that can be written is shown inside a collection. -/
def literal : Value → String
  | .null => "None"
  | .bool b => if b then "True" else "False"
  | .int n => toString n
  | .real x => x.text
  | .text s => quoted s
  | .bytes bs => String.ofList (Quoted.encodeBytes bs)
  | .date d => d.literal
  | .moment m => m.literal
  | .list items => bracketed "[" "]" (literals items)
  | .tuple [item] => "(" ++ literal item ++ ",)"
  | .tuple items => bracketed "(" ")" (literals items)
  | .set false [] => "set()"
  | .set true [] => "frozenset()"
  | .set false items => bracketed "\x7b" "\x7d" (literals items)
  | .set true items => bracketed "frozenset(\x7b" "\x7d)" (literals items)
  | .map entries => bracketed "\x7b" "\x7d" (entryLiterals entries)

/-- The literals of a list of values. -/
def literals : List Value → List String
  | [] => []
  | v :: rest => literal v :: literals rest

/-- The literals of entries: key, colon, value. -/
def entryLiterals : List (Value × Value) → List String
  | [] => []
  | (k, v) :: rest => (literal k ++ ": " ++ literal v) :: entryLiterals rest

end

/-- The text of a value that can be written. -/
def toText : Value → String
  | .text s => s
  | .date d => d.text
  | .moment m => m.textWith " "
  | v => v.literal

@[simp]
theorem isWritable_text (s : String) : (Value.text s).isWritable = true := by
  simp [isWritable]

@[simp]
theorem isWritable_int (n : Int) : (Value.int n).isWritable = IntegerText.isWritable n := by
  simp [isWritable]

@[simp]
theorem isWritable_null : Value.null.isWritable = true := by
  simp [isWritable]

@[simp]
theorem toText_text (s : String) : (Value.text s).toText = s := rfl

@[simp]
theorem toText_int (n : Int) : (Value.int n).toText = toString n := by
  simp [toText, literal]

end Value

end FormRouting
