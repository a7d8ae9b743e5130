import FormRouting.Value.Reading

/-!
# Log entries

What the parts of the service report while they work. An entry is a value, and an operation that
reports returns its entries in the order in which they were made. An entry is written as it is made,
and what makes one that cannot be written fails.
-/

namespace FormRouting

inductive LogLevel where
  | info
  | warning
  | error
deriving DecidableEq, Repr

def LogLevel.name : LogLevel → String
  | .info => "info"
  | .warning => "warning"
  | .error => "error"

/-- How grave what is reported at a level is. -/
def LogLevel.rank : LogLevel → Nat
  | .info => 20
  | .warning => 30
  | .error => 40

/-- One report: a level, what happened, and the particulars. -/
structure LogEntry where
  level : LogLevel
  event : String
  fields : List (String × Value)

/-- Whether an entry can be written. -/
def LogEntry.isWritable (e : LogEntry) : Bool :=
  e.fields.all (·.2.isWritable)

/-- Writes an entry. -/
def LogEntry.write (e : LogEntry) : Except ReadError LogEntry :=
  if e.isWritable then .ok e else .error .unwritable

end FormRouting
