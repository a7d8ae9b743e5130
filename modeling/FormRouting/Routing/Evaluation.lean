import FormRouting.Form.Decision
import FormRouting.Routing.Condition

/-!
# Evaluation

Deciding where a visitor goes. The active rules whose question is part of the form are put into
order of precedence, the higher priority first and then the lower id, and the first one whose
condition holds decides. Evaluation depends on its arguments alone.
-/

namespace FormRouting

/-- A rule that points at a question which is not part of the form. -/
structure DanglingRule where
  ruleId : Int
  questionId : String
deriving DecidableEq, Repr

/-- The code that names a dangling rule in reports. -/
def DanglingRule.code : String := "unresolvable_rule_reference"

/-- The reference as a value. -/
def DanglingRule.toValue (d : DanglingRule) : Value :=
  Value.record [
    ("code", .text code),
    ("rule_id", .int d.ruleId),
    ("question_id", .text d.questionId)]

namespace Rule

/-- Whether a rule does not come after another in precedence. -/
def precedes (r s : Rule) : Bool :=
  s.priority < r.priority || (r.priority == s.priority && r.id ≤ s.id)

/-- Whether the rule's question is part of the form. -/
def resolves (rule : Rule) (questions : List Question) : Bool :=
  questions.any (·.id == rule.questionId)

/-- Whether a rule can take part in evaluation. -/
def isEligible (rule : Rule) (questions : List Question) : Bool :=
  rule.isActive && rule.resolves questions

/-- The rules that can take part in evaluation, in order of precedence. Rules of one priority and
id keep the order in which they were given. -/
def rank (rules : List Rule) (questions : List Question) : List Rule :=
  (rules.filter (·.isEligible questions)).mergeSort precedes

/-- The rules, active or not, whose question is not part of the form, by id. -/
def dangling (rules : List Rule) (questions : List Question) : List DanglingRule :=
  ((rules.mergeSort fun r s => r.id ≤ s.id).filter (!·.resolves questions)).map fun r =>
    ⟨r.id, r.questionId⟩

/-- Whether a rule's condition holds of the answers. Of several questions with one id the last one
counts. -/
def isSatisfied (rule : Rule) (questions : List Question) (answers : AnswerSet Answer) : Bool :=
  match Question.withId? questions rule.questionId with
  | some question => rule.holds question (answers.get? rule.questionId)
  | none => false

/-- The rule that decides, if there is one. -/
def select (answers : AnswerSet Answer) (rules : List Rule) (questions : List Question) :
    Option Rule :=
  (rank rules questions).find? (·.isSatisfied questions answers)

end Rule

/-- Where a visitor goes who gave the answers. -/
def Decision.evaluate (answers : AnswerSet Answer) (rules : List Rule)
    (questions : List Question) : Decision :=
  match Rule.select answers rules questions with
  | some rule => .ofRule rule
  | none => .noMatch

end FormRouting
