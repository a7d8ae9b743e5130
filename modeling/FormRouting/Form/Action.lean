import FormRouting.Value.Reading

/-!
# Actions

What a rule does with a visitor: open a booking link, redirect to an address, or show a message. A
stored rule names its action and fills the one target field that belongs to it.
-/

namespace FormRouting

/-- The kinds of actions. -/
inductive ActionKind where
  | routeToBooking
  | routeToUrl
  | showMessage
deriving DecidableEq, Repr

namespace ActionKind

def name : ActionKind → String
  | .routeToBooking => "route_to_booking"
  | .routeToUrl => "route_to_url"
  | .showMessage => "show_message"

/-- The field of a stored rule that holds the target of an action of this kind. -/
def targetField : ActionKind → String
  | .routeToBooking => "target_booking_link_id"
  | .routeToUrl => "target_url"
  | .showMessage => "target_message"

/-- All kinds, in the order in which target fields are listed. -/
def all : List ActionKind := [.routeToBooking, .routeToUrl, .showMessage]

/-- The kind with the given name. -/
def ofName? (s : String) : Option ActionKind :=
  all.find? (·.name == s)

@[simp]
theorem ofName?_name (k : ActionKind) : ofName? k.name = some k := by
  cases k <;> decide

end ActionKind

/-- What a rule does with a visitor: a kind of action, and its booking link, address or message. -/
structure Action where
  kind : ActionKind
  target : String
deriving DecidableEq, Repr

namespace Action

/-- The action in words. -/
def describe (a : Action) : String :=
  match a.kind with
  | .routeToBooking => "route to booking link " ++ a.target
  | .routeToUrl => "redirect to " ++ a.target
  | .showMessage => "show message \"" ++ a.target ++ "\""

end Action

end FormRouting
