import FormRouting.Form.Question
import FormRouting.Form.Rule
import FormRouting.Log

/-!
# Forms

A routing form with its questions and rules, as it stood at one point in time, and how it is built
from an entry of a definitions file. A rule that describes no consistent action is reported and left
out; any other fault ends the building.
-/

namespace FormRouting

/-- A routing form. What routing does not interpret is kept as it was given. -/
structure Form where
  id : Value
  slug : Value
  title : Value
  description : Value
  isActive : Value
  ownerName : Value
  questions : List Question
  rules : List Rule

namespace Form

/-- The questions in the order in which they are put. -/
def orderedQuestions (form : Form) : List Question :=
  Question.inOrder form.questions

/-- Whether visitors can see the form. -/
def isPublished (form : Form) : Bool :=
  form.isActive.truthy

/-- Reads rules one after the other. A refused one is reported and left out; one that cannot be read
at all, or not even be reported, ends the reading, and what was reported before stands. -/
def readRules (report : (ruleId : Value) → RuleDefect → Except ReadError LogEntry) :
    List Value → List LogEntry × Except ReadError (List Rule)
  | [] => ([], .ok [])
  | record :: rest =>
    match Rule.ofRecord record with
    | .ok rule =>
      let (entries, rules) := readRules report rest
      (entries, rules.map (rule :: ·))
    | .error (.refused ruleId defect) =>
      match report ruleId defect with
      | .ok entry =>
        let (entries, rules) := readRules report rest
        (entry :: entries, rules)
      | .error e => ([], .error e)
    | .error (.unreadable e) => ([], .error e)

/-- The report of a rule that a definition leaves out. -/
def skippedRule (slug ruleId : Value) (defect : RuleDefect) : LogEntry :=
  ⟨.warning, "Skipping invalid rule definition", [
    ("form_slug", slug),
    ("rule_id", ruleId),
    ("error", .text (RuleError.refusal ruleId defect))]⟩

/-- Reports a rule that a definition leaves out. -/
def skipRule (slug ruleId : Value) (defect : RuleDefect) : Except ReadError LogEntry :=
  (skippedRule slug ruleId defect).write

/-- The members of a field that lists records; one that does not count as true lists none. -/
def listed (entries : List (Value × Value)) (key : String) : Except ReadError (List Value) :=
  ((Value.field entries key).orElse (.list [])).members

/-- The form of a definition whose questions and rules have been read. -/
def assemble (entries : List (Value × Value)) (questions : List Question) (rules : List Rule) :
    Except ReadError Form := do
  let id ← (← Value.need entries "id").readInteger
  let slug ← Value.need entries "slug"
  return {
    id := .int id
    slug := .text (← slug.readText)
    title := Value.fieldOr entries "title" (.text "")
    description := Value.field entries "description"
    isActive := .bool (Value.fieldOr entries "is_active" (.bool true)).truthy
    ownerName := Value.field entries "owner_name"
    questions
    rules }

/-- Builds a form from a definition, with what was reported on the way. -/
def ofDefinition (definition : Value) : List LogEntry × Except ReadError Form :=
  let start : Except ReadError (List (Value × Value) × List Question × List Value) := do
    let entries ← definition.fields
    let questions ← (← listed entries "questions").mapM Question.ofRecord
    return (entries, questions, ← listed entries "rules")
  match start with
  | .error e => ([], .error e)
  | .ok (entries, questions, records) =>
    let slug := Value.field entries "slug"
    let (reports, rules) := readRules (skipRule slug) records
    (reports, rules.bind (assemble entries questions))

end Form

end FormRouting
