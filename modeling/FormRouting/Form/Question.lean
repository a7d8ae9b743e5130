import FormRouting.Value.Reading

/-!
# Questions

A routing form asks questions of four types. A question is read from a record of a definitions file
or of the database; its label is kept as it was given.
-/

namespace FormRouting

/-- The input that a question takes. -/
inductive QuestionType where
  | text
  | select
  | radio
  | checkbox
deriving DecidableEq, Repr

namespace QuestionType

def name : QuestionType → String
  | .text => "text"
  | .select => "select"
  | .radio => "radio"
  | .checkbox => "checkbox"

/-- All types. -/
def all : List QuestionType := [.text, .select, .radio, .checkbox]

/-- The type with the given name. -/
def ofName? (s : String) : Option QuestionType :=
  all.find? (·.name == s)

/-- Whether a question of this type offers options. -/
def hasOptions : QuestionType → Bool
  | .text => false
  | _ => true

/-- Whether a question of this type takes several answers. -/
def isMultiValued : QuestionType → Bool
  | .checkbox => true
  | _ => false

@[simp]
theorem ofName?_name (t : QuestionType) : ofName? t.name = some t := by
  cases t <;> decide

/-- The type that a value names. -/
def ofValue (v : Value) : Except ReadError QuestionType :=
  match v with
  | .text s =>
    match ofName? s with
    | some t => .ok t
    | none => .error (.questionType v)
  | v => .error (.showing v (.questionType v))

end QuestionType

/-- One input of a routing form. -/
structure Question where
  id : String
  label : Value
  type : QuestionType
  options : List String
  required : Bool
  orderIndex : Int

namespace Question

/-- Reads a question from a record. The options are gone through only when the field counts as
true, and a question is required unless one of two fields says otherwise. -/
def ofRecord (record : Value) : Except ReadError Question :=
  match record with
  | .map entries => do
    let id ← (← Value.need entries "id").readText
    let type ← QuestionType.ofValue (← Value.need entries "type")
    let members ← ((Value.field entries "options").orElse (.list [])).members
    let options ← members.mapM Value.readText
    let orderIndex ←
      ((Value.fieldOr entries "order_index" (.int 0)).orElse (.int 0)).readInteger
    return {
      id
      label := Value.fieldOr entries "label" (.text "")
      type
      options
      required :=
        (Value.fieldOr entries "required" (Value.fieldOr entries "is_required" (.bool true))).truthy
      orderIndex }
  | v => .error (.notARecord v)

/-- The order in which questions are put: by index, then by id. -/
def le (p q : Question) : Bool :=
  p.orderIndex < q.orderIndex || (p.orderIndex == q.orderIndex && decide (p.id ≤ q.id))

/-- The questions in the order in which they are put. Equal ones keep their order. -/
def inOrder (questions : List Question) : List Question :=
  questions.mergeSort le

/-- The question with the given id; the last one when there are several. -/
def withId? (questions : List Question) (id : String) : Option Question :=
  questions.reverse.find? (·.id == id)

end Question

end FormRouting
