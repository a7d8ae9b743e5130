import FormRouting.Form
import FormRouting.Schema

/-!
# Public forms

What a visitor sees of a form: its questions in the order in which they are put, and the name of its
owner. The fields that a definition may fill with anything have to be of their declared types here.
-/

namespace FormRouting

/-- A question as a visitor sees it. -/
structure PublicQuestion where
  id : String
  label : String
  type : QuestionType
  options : List String
  isRequired : Bool
  orderIndex : Int
deriving DecidableEq, Repr

namespace PublicQuestion

/-- The public side of a question, whose label has to be a text. -/
def ofQuestion (q : Question) : Except SchemaError PublicQuestion :=
  match Schema.text? q.label with
  | some label => .ok ⟨q.id, label, q.type, q.options, q.required, q.orderIndex⟩
  | none => .error ⟨[["label"]]⟩

def toValue (q : PublicQuestion) : Value :=
  Value.record [
    ("id", .text q.id),
    ("label", .text q.label),
    ("type", .text q.type.name),
    ("options", .list (q.options.map .text)),
    ("is_required", .bool q.isRequired),
    ("order_index", .int q.orderIndex)]

end PublicQuestion

/-- A form as a visitor sees it. -/
structure PublicForm where
  id : Int
  title : String
  description : Option String
  questions : List PublicQuestion
  ownerName : String
deriving DecidableEq, Repr

namespace PublicForm

/-- The owner of a form that names none. -/
def unknownOwner : String := "Unknown"

/-- The public side of a form. The questions come first, and the first one that is refused ends the
check; the refused fields of the form itself are reported together. -/
def ofForm (form : Form) : Except SchemaError PublicForm := do
  let questions ← form.orderedQuestions.mapM PublicQuestion.ofQuestion
  let id := Schema.integer? form.id
  let title := Schema.text? form.title
  let description := Schema.optionalText? form.description
  let owner := Schema.text? (form.ownerName.orElse (.text unknownOwner))
  match id, title, description, owner with
  | some id, some title, some description, some owner =>
    return ⟨id, title, description, questions, owner⟩
  | _, _, _, _ =>
    throw ⟨Schema.refused "id" id ++ Schema.refused "title" title ++
      Schema.refused "description" description ++ Schema.refused "owner_name" owner⟩

def toValue (form : PublicForm) : Value :=
  Value.record [
    ("id", .int form.id),
    ("title", .text form.title),
    ("description", (form.description.map Value.text).getD .null),
    ("questions", .list (form.questions.map (·.toValue))),
    ("owner_name", .text form.ownerName)]

end PublicForm

end FormRouting
