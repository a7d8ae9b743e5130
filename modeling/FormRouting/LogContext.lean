import FormRouting.Trace
import FormRouting.Value.Reading

/-!
# Log context

What is added to every report: the service whose logger it comes from, the span it belongs to, and
the request and the form that are being served.
-/

namespace FormRouting

/-- The request and the form that are being served. -/
structure LogContext where
  requestId : Value
  formSlug : Value

/-- Why a report cannot be given its context: its logger has no name. -/
inductive LoggerError where
  /-- The logger is of a kind in which nothing is searched. -/
  | unsearchable
  /-- The logger is a collection. -/
  | notAText
deriving DecidableEq, Repr

namespace LogContext

/-- Serving nothing. -/
def empty : LogContext := ⟨.null, .null⟩

def setRequest (c : LogContext) (requestId : Value) : LogContext :=
  { c with requestId }

/-- Sets the form, unless the slug does not count as true. -/
def setForm (c : LogContext) (slug : Value) : LogContext :=
  if slug.truthy then { c with formSlug := slug } else c

/-- Sets a field of a report. -/
def put (name : String) (v : Value) (report : List (Value × Value)) : List (Value × Value) :=
  Value.putEntry report (.text name) v

/-- Sets a field of a report to a value that counts as true. -/
def putTruthy (name : String) (v : Value) (report : List (Value × Value)) : List (Value × Value) :=
  if v.truthy then put name v report else report

/-- Sets a text field of a report, if there is a text. -/
def putText (name : String) (s : Option String) (report : List (Value × Value)) :
    List (Value × Value) :=
  match s with
  | some s => put name (.text s) report
  | none => report

/-- Adds the service: the first part of the logger's name, when it has several. -/
def addService (report : List (Value × Value)) : Except LoggerError (List (Value × Value)) :=
  match Value.fieldOr report "logger" (.text "") with
  | .text name =>
    let cs := name.toList
    .ok (if cs.contains '.' then put "service" (.text (String.ofList (cs.takeWhile (· != '.')))) report
      else report)
  | .bytes _ => .error .unsearchable
  | logger =>
    match logger.items? with
    | some items => if items.any (Value.same (.text ".")) then .error .notAText else .ok report
    | none => .error .unsearchable

/-- Adds the span. -/
def addSpan (span : Option Span) (report : List (Value × Value)) : List (Value × Value) :=
  putText "span_id" (span.bind (·.spanText?)) (putText "trace_id" (span.bind (·.traceText?)) report)

/-- Adds the request and the form. -/
def addServed (c : LogContext) (report : List (Value × Value)) : List (Value × Value) :=
  putTruthy "form_slug" c.formSlug (putTruthy "request_id" c.requestId report)

/-- A report with its whole context. -/
def complete (c : LogContext) (span : Option Span) (report : List (Value × Value)) :
    Except LoggerError (List (Value × Value)) :=
  (addService report).map fun report => c.addServed (addSpan span report)

end LogContext

end FormRouting
