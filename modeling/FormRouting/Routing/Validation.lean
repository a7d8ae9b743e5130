import FormRouting.Form.Answer
import FormRouting.Form.Question

/-!
# Validation of answers

Checks a raw submission against the questions of a form. Every problem is reported, question by
question in the order in which they are put; only a submission without problems has answers.
Answers to questions that the form does not ask are ignored.
-/

namespace FormRouting

/-- A problem with the answer to a question. -/
inductive AnswerError where
  /-- A required question is left blank. -/
  | missing (questionId : String)
  /-- The value is not one of the question's options. -/
  | notAnOption (questionId value : String)
  /-- The value has the wrong shape; the expected one is in words. -/
  | wrongShape (questionId expected : String)
deriving DecidableEq, Repr

namespace AnswerError

def code : AnswerError → String
  | .missing _ => "missing_required_answer"
  | .notAnOption _ _ => "invalid_option_value"
  | .wrongShape _ _ => "invalid_answer_type"

def questionId : AnswerError → String
  | .missing id | .notAnOption id _ | .wrongShape id _ => id

def message : AnswerError → String
  | .missing _ => "This question is required"
  | .notAnOption _ value => "'" ++ value ++ "' is not an allowed option"
  | .wrongShape _ expected => "Expected " ++ expected

/-- The problem as a value, with what belongs to its kind. -/
def toValue (e : AnswerError) : Value :=
  let particular := match e with
    | .missing _ => []
    | .notAnOption _ value => [("value", Value.text value)]
    | .wrongShape _ expected => [("expected", Value.text expected)]
  Value.record ([("code", .text e.code), ("question_id", .text e.questionId)] ++ particular ++
    [("message", .text e.message)])

end AnswerError

namespace Value

/-- Whether a submitted value is blank: null, the empty text, or an empty collection of items. -/
def isBlank : Value → Bool
  | .null => true
  | .text s => s.isEmpty
  | .list items | .tuple items | .set _ items => items.isEmpty
  | _ => false

/-- The text of a submitted value: texts and numbers, and the truth values by their lower-case
names. -/
def answerText? : Value → Option String
  | .text s => some s
  | .bool b => some (if b then "true" else "false")
  | .int n => some (toString n)
  | .real x => some x.text
  | _ => none

/-- Whether the text of a submitted value can be written, if it has one. -/
def isAnswerWritable : Value → Bool
  | .int n => IntegerText.isWritable n
  | _ => true

/-- The items of a collection of items. -/
def collection? : Value → Option (List Value)
  | .list items | .tuple items | .set _ items => some items
  | _ => none

end Value

/-- What comes of the value submitted for one question. -/
inductive Checked where
  /-- The question was left out. -/
  | omitted
  | answered (answer : Answer)
  | refused (errors : List AnswerError)

namespace Checked

/-- The problems found. -/
def errors : Checked → List AnswerError
  | .refused errors => errors
  | _ => []

/-- The answer, when there is one. -/
def answer? : Checked → Option Answer
  | .answered a => some a
  | _ => none

end Checked

namespace Question

/-- The shapes that questions expect, in words. -/
def scalarShape : String := "a single value"

def selectionShape : String := "a list of option values"

/-- The answer to a question that was submitted blank. -/
def blankAnswer (q : Question) : Answer :=
  if q.type.isMultiValued then .selections [] else .text ""

/-- Checks the value submitted for a question that takes one answer. -/
def checkScalar (q : Question) (raw : Value) : Checked :=
  match raw.answerText? with
  | none => .refused [.wrongShape q.id scalarShape]
  | some s =>
    if q.type ≠ .text ∧ ¬q.options.contains s then .refused [.notAnOption q.id s]
    else .answered (.text s)

/-- Checks one item of a selection. -/
def checkItem (q : Question) (item : Value) : Except AnswerError String :=
  match item.answerText? with
  | none => .error (.wrongShape q.id selectionShape)
  | some s => if q.options.contains s then .ok s else .error (.notAnOption q.id s)

/-- The problems with the items of a selection, in their order. -/
def itemErrors (q : Question) (items : List Value) : List AnswerError :=
  items.filterMap fun item =>
    match q.checkItem item with
    | .ok _ => none
    | .error e => some e

/-- The options that the items of a selection name, each once. -/
def itemTexts (q : Question) (items : List Value) : List String :=
  (items.filterMap fun item => (q.checkItem item).toOption).eraseDups

/-- Checks the value submitted for a question that takes several answers. A single value counts as
a selection of one. -/
def checkSelection (q : Question) (raw : Value) : Checked :=
  let items := raw.collection?.getD [raw]
  let errors := q.itemErrors items
  if errors.isEmpty then .answered (.selections (q.itemTexts items)) else .refused errors

/-- Checks the value submitted for a question. A blank that was submitted is an answer, unless one
is required; a question that was not answered at all is left out. -/
def check (q : Question) (raw : Value) : Checked :=
  if raw.isBlank then
    if q.required then .refused [.missing q.id]
    else match raw with
      | .null => .omitted
      | _ => .answered q.blankAnswer
  else if q.type.isMultiValued then q.checkSelection raw
  else q.checkScalar raw

/-- The answers found by checking, keyed by question id. -/
def collectAnswers (results : List (String × Checked)) : AnswerSet Answer :=
  AnswerSet.ofList (results.filterMap fun r => r.2.answer?.map fun a => (r.1, a))

/-- Checks the submitted entries against the questions of a form. -/
def validate (questions : List Question) (raw : List (Value × Value)) :
    Except (List AnswerError) (AnswerSet Answer) :=
  let results := (inOrder questions).map fun q => (q.id, q.check (Value.field raw q.id))
  let errors := results.flatMap (·.2.errors)
  if errors.isEmpty then .ok (collectAnswers results) else .error errors

/-- Whether everything that checking the value submitted for a question writes out can be written. -/
def canCheck (q : Question) (raw : Value) : Bool :=
  if q.type.isMultiValued then (raw.collection?.getD [raw]).all (·.isAnswerWritable)
  else raw.isAnswerWritable

/-- Checks a submitted value. One that does not count as true stands for no answers at all; another
that is no record cannot be asked for an answer. -/
def validateValue (questions : List Question) (raw : Value) :
    Except ReadError (Except (List AnswerError) (AnswerSet Answer)) :=
  match raw.orElse (.map []) with
  | .map entries =>
    if questions.all fun q => q.canCheck (Value.field entries q.id) then
      .ok (validate questions entries)
    else .error .unwritable
  | v => if questions.isEmpty then .ok (validate questions []) else .error (.noFields v.kindName)

end Question

end FormRouting
