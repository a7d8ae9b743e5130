import FormRouting.Form.Action

/-!
# Rules

A rule routes a visitor when its condition on one answer holds. It is read from a flat record, and a
record that describes no consistent rule is refused with the reason.
-/

namespace FormRouting

/-- How a condition compares an answer with the rule's value. -/
inductive Operator where
  | equals
  | notEquals
  | contains
  | startsWith
deriving DecidableEq, Repr

namespace Operator

def name : Operator → String
  | .equals => "equals"
  | .notEquals => "not_equals"
  | .contains => "contains"
  | .startsWith => "starts_with"

/-- All operators. -/
def all : List Operator := [.equals, .notEquals, .contains, .startsWith]

/-- The operator with the given name. -/
def ofName? (s : String) : Option Operator :=
  all.find? (·.name == s)

@[simp]
theorem ofName?_name (o : Operator) : ofName? o.name = some o := by
  cases o <;> decide

/-- The operator that a value names. -/
def ofValue? : Value → Option Operator
  | .text s => ofName? s
  | _ => none

end Operator

/-- One routing rule. -/
structure Rule where
  id : Int
  questionId : String
  operator : Operator
  value : String
  action : Action
  priority : Int
  isActive : Bool
deriving DecidableEq, Repr

/-- Why a record describes no rule. -/
inductive RuleDefect where
  | idNotInteger
  | missingQuestion
  | unknownOperator (value : Value)
  | priorityNotInteger (value : Value)
  | unknownAction (value : Value)
  /-- The target fields that are filled are not just the one of the action. -/
  | wrongTargets (kind : ActionKind) (filled : List ActionKind)

namespace RuleDefect

def message : RuleDefect → String
  | .idNotInteger => "rule id must be an integer"
  | .missingQuestion => "missing question_id"
  | .unknownOperator v => "unknown operator " ++ v.literal
  | .priorityNotInteger v => "priority must be an integer, got " ++ v.literal
  | .unknownAction v => "unknown action '" ++ v.toText ++ "'"
  | .wrongTargets kind filled =>
    let got := if filled.isEmpty then "none"
      else (Value.list (filled.map fun k => .text k.targetField)).literal
    "action '" ++ kind.name ++ "' requires exactly " ++ kind.targetField ++ ", got " ++ got

/-- Whether the message can be written. -/
def isWritable : RuleDefect → Bool
  | .unknownOperator v | .priorityNotInteger v | .unknownAction v => v.isWritable
  | .idNotInteger | .missingQuestion | .wrongTargets _ _ => true

end RuleDefect

/-- Why a rule could not be read. -/
inductive RuleError where
  /-- The record describes no rule. The id is the integer, or the value in its place when that was
  the defect. -/
  | refused (ruleId : Value) (defect : RuleDefect)
  | unreadable (error : ReadError)

namespace RuleError

/-- The refusal of a record. Its message shows the id of the rule and what is wrong, and it is that
which fails where one of them cannot be written. -/
def refuse (ruleId : Value) (defect : RuleDefect) : RuleError :=
  if ruleId.isWritable && defect.isWritable then .refused ruleId defect
  else .unreadable .unwritable

/-- The message of a refusal. -/
def refusal (ruleId : Value) (defect : RuleDefect) : String :=
  "rule " ++ ruleId.toText ++ ": " ++ defect.message

def message : RuleError → String
  | .refused ruleId defect => refusal ruleId defect
  | .unreadable e => e.message

end RuleError

/-- The kinds of actions whose target field is filled. -/
def Action.filledTargets (entries : List (Value × Value)) : List ActionKind :=
  ActionKind.all.filter fun k => !(Value.field entries k.targetField).isUnset

/-- Pairs the value that names an action with the one target field that is filled. -/
def Action.ofRecord (ruleId action record : Value) : Except RuleError Action :=
  match action.unhashableKind? with
  | some kind => .error (.unreadable (.unhashable kind))
  | none =>
    let named := match action with
      | .text s => ActionKind.ofName? s
      | _ => none
    match named with
    | none => .error (.refuse ruleId (.unknownAction action))
    | some kind => do
      let entries ← record.fields.mapError .unreadable
      let filled := filledTargets entries
      if filled = [kind] then
        return ⟨kind, ← (Value.field entries kind.targetField).readText.mapError .unreadable⟩
      else
        throw (.refuse ruleId (.wrongTargets kind filled))

namespace Rule

/-- An integer field: what stands for no integer is the given defect, but for an infinite number,
which is not foreseen. -/
def integerField (ruleId : Value) (defect : RuleDefect) (v : Value) : Except RuleError Int :=
  match v.toInteger with
  | .ok n => .ok n
  | .error .infinite => .error (.unreadable (.integer .infinite))
  | .error _ => .error (.refuse ruleId defect)

/-- Reads a rule from a record. -/
def ofRecord (record : Value) : Except RuleError Rule := do
  let entries ← record.fields.mapError .unreadable
  let field (key : String) := Value.field entries key
  let id ← integerField (field "id") .idNotInteger (field "id")
  let ruleId := Value.int id
  if (field "question_id").isUnset then throw (.refuse ruleId .missingQuestion)
  let some operator := Operator.ofValue? (field "operator")
    | throw (.refuse ruleId (.unknownOperator (field "operator")))
  let priority ← integerField ruleId (.priorityNotInteger (field "priority"))
    ((field "priority").orElse (.int 0))
  let questionId ← (field "question_id").readText.mapError .unreadable
  let value ← (Value.fieldOr entries "value" (.text "")).readText.mapError .unreadable
  let action ← Action.ofRecord ruleId (Value.fieldOr entries "action" (.text "")) record
  return {
    id
    questionId
    operator
    value
    action
    priority
    isActive := (Value.fieldOr entries "is_active" (.bool true)).truthy }

end Rule

end FormRouting
