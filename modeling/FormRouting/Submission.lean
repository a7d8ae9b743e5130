import FormRouting.Form.Decision
import FormRouting.Value.Arguments
import FormRouting.Value.Reading

/-!
# Submissions

What is recorded of a submission that was evaluated: the form, the answers as they were given, where
the visitor was routed, and who the visitor was.
-/

namespace FormRouting

/-- The record of a submission. -/
structure Submission where
  formId : Value
  answers : Value
  routedTo : Value
  bookingLinkId : Value
  ruleId : Value
  email : Value
  name : Value

namespace Submission

def toValue (s : Submission) : Value :=
  Value.record [
    ("routing_form_id", s.formId),
    ("answers", s.answers),
    ("routed_to", s.routedTo),
    ("routed_booking_link_id", s.bookingLinkId),
    ("rule_id", s.ruleId),
    ("submitter_email", s.email),
    ("submitter_name", s.name)]

/-- The record with the given fields. The time of the submission may be among them; it is not part
of what is modelled. -/
def ofArguments (given : List (Value × Value)) : Except ArgumentError Submission := do
  Arguments.check ["routing_form_id", "answers", "routed_to"]
    ["routed_booking_link_id", "rule_id", "submitter_email", "submitter_name", "created_at"] given
  let argument := Value.field given
  return {
    formId := argument "routing_form_id"
    answers := argument "answers"
    routedTo := argument "routed_to"
    bookingLinkId := argument "routed_booking_link_id"
    ruleId := argument "rule_id"
    email := argument "submitter_email"
    name := argument "submitter_name" }

/-- The record of a submission that led to a decision. -/
def ofDecision (formId answers : Value) (d : Decision) (email name : Option String) : Submission :=
  let text? (s : Option String) : Value := (s.map Value.text).getD .null
  { formId
    answers
    routedTo := .text d.summary
    bookingLinkId := text? d.bookingLink?
    ruleId := (d.ruleId.map Value.int).getD .null
    email := text? email
    name := text? name }

end Submission

end FormRouting
