import FormRouting.Form.Rule

/-!
# Decisions

Where a visitor ends up, the text that records it, and the answer that the visitor gets.
-/

namespace FormRouting

/-- Where a visitor ends up. -/
inductive Outcome where
  | booking
  | url
  | message
  | noMatch
deriving DecidableEq, Repr

namespace Outcome

def name : Outcome → String
  | .booking => "booking"
  | .url => "url"
  | .message => "message"
  | .noMatch => "no_match"

/-- All outcomes. -/
def all : List Outcome := [.booking, .url, .message, .noMatch]

/-- The outcome with the given name. -/
def ofName? (s : String) : Option Outcome :=
  all.find? (·.name == s)

@[simp]
theorem ofName?_name (o : Outcome) : ofName? o.name = some o := by
  cases o <;> decide

/-- The outcome that an action of the given kind leads to. -/
def ofAction : ActionKind → Outcome
  | .routeToBooking => .booking
  | .routeToUrl => .url
  | .showMessage => .message

end Outcome

/-- The result of evaluating one set of answers: an outcome, its booking link, address or message,
and the rule that decided. -/
structure Decision where
  outcome : Outcome
  detail : String
  ruleId : Option Int
deriving DecidableEq, Repr

namespace Decision

/-- The decision when no rule matches. -/
def noMatch : Decision := ⟨.noMatch, "", none⟩

/-- The decision that a matching rule makes. -/
def ofRule (rule : Rule) : Decision :=
  ⟨.ofAction rule.action.kind, rule.action.target, some rule.id⟩

/-- Whether some rule decided. -/
def matched (d : Decision) : Bool :=
  d.outcome != .noMatch

/-- The compact text of a decision that is kept with a submission. -/
def summary (d : Decision) : String :=
  match d.outcome with
  | .booking => "booking_link:" ++ d.detail
  | .url => "url:" ++ d.detail
  | .message => "message"
  | .noMatch => "no_match"

/-- The booking link that a decision leads to. -/
def bookingLink? (d : Decision) : Option String :=
  if d.outcome = .booking then some d.detail else none

end Decision

/-- The answer to a visitor. -/
structure DecisionResponse where
  action : ActionKind
  matched : Bool
  bookingLinkId : Option String
  url : Option String
  message : Option String
  ruleId : Option Int
deriving DecidableEq, Repr

namespace DecisionResponse

/-- The answer that a decision gives. A message that is empty, and a visit that no rule matched,
show the default message. -/
def ofDecision (d : Decision) (defaultMessage : String) : DecisionResponse :=
  match d.outcome with
  | .booking => ⟨.routeToBooking, true, some d.detail, none, none, d.ruleId⟩
  | .url => ⟨.routeToUrl, true, none, some d.detail, none, d.ruleId⟩
  | .message =>
    ⟨.showMessage, true, none, none,
      some (if d.detail.isEmpty then defaultMessage else d.detail), d.ruleId⟩
  | .noMatch => ⟨.showMessage, false, none, none, some defaultMessage, none⟩

/-- The answer as a value. -/
def toValue (r : DecisionResponse) : Value :=
  let text? (s : Option String) : Value := (s.map Value.text).getD .null
  Value.record [
    ("action", .text r.action.name),
    ("matched", .bool r.matched),
    ("booking_link_id", text? r.bookingLinkId),
    ("url", text? r.url),
    ("message", text? r.message),
    ("rule_id", (r.ruleId.map Value.int).getD .null)]

end DecisionResponse

end FormRouting
