import FormRouting.Form.Answer
import FormRouting.Form.Question
import FormRouting.Form.Rule
import FormRouting.Text.CaseFolding
import FormRouting.Text.Search

/-!
# Conditions

When a rule's condition holds of the answer to its question. Equality is exact, and for a
multi-valued question it asks whether the rule's value is selected; the other operators compare the
joined answer without regard to case. No condition holds of a question that is not answered.
-/

namespace FormRouting

namespace Rule

/-- Whether an answer equals the rule's value: being it, or having it selected. -/
def equalsAnswer (rule : Rule) (question : Question) (answer : Answer) : Bool :=
  if question.type.isMultiValued then
    match answer with
    | .text s => s == rule.value
    | .selections options => options.contains rule.value
  else
    answer == .text rule.value

/-- Whether the joined answer holds the rule's value, regardless of case. -/
def containsAnswer (rule : Rule) (answer : Answer) : Bool :=
  holdsText (foldCase answer.joined) (foldCase rule.value)

/-- Whether the joined answer begins with the rule's value, regardless of case. -/
def startsAnswer (rule : Rule) (answer : Answer) : Bool :=
  beginsWith (foldCase answer.joined) (foldCase rule.value)

/-- Whether the condition of a rule holds of an answer. -/
def holdsOf (rule : Rule) (question : Question) (answer : Answer) : Bool :=
  match rule.operator with
  | .equals => rule.equalsAnswer question answer
  | .notEquals => !rule.equalsAnswer question answer
  | .contains => rule.containsAnswer answer
  | .startsWith => rule.startsAnswer answer

/-- Whether the condition of a rule holds of the answer to a question, if there is one. -/
def holds (rule : Rule) (question : Question) : Option Answer → Bool
  | none => false
  | some answer => rule.holdsOf question answer

/-- Whether a value that need not be an answer equals the rule's value. -/
def equalsValue (rule : Rule) (question : Question) (v : Value) : Except ReadError Bool :=
  match v with
  | .text s => .ok (s == rule.value)
  | v =>
    if question.type.isMultiValued then do
      return (← v.members).any (·.same (.text rule.value))
    else .ok false

/-- Whether the condition of a rule holds of a value that need not be an answer. A value is no
answer when it holds something other than texts; then there is no joined text to look into. -/
def holdsOfValue (rule : Rule) (question : Question) (v : Value) : Except ReadError Bool :=
  match v, rule.operator with
  | .null, _ => .ok false
  | v, .equals => rule.equalsValue question v
  | v, .notEquals => (rule.equalsValue question v).map (!·)
  | v, .contains => (Answer.ofValue v).map rule.containsAnswer
  | v, .startsWith => (Answer.ofValue v).map rule.startsAnswer

end Rule

end FormRouting
