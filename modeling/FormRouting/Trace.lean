import FormRouting.Text.Quoted

/-!
# Traces

The span of work that a request or a report belongs to. Its numbers are written in hexadecimal, at
their full width.
-/

namespace FormRouting

/-- A span of a trace. Only one that is being recorded is mentioned anywhere. -/
structure Span where
  traceId : Int
  spanId : Int
  recording : Bool
deriving DecidableEq, Repr

namespace Span

/-- A number in hexadecimal digits, with zeros in front up to the given width, or nothing for
zero. -/
def idText? (width : Nat) (id : Int) : Option String :=
  if id = 0 then none
  else if id < 0 then some (String.ofList ('-' :: Quoted.hex (width - 1) id.natAbs))
  else some (String.ofList (Quoted.hex width id.natAbs))

/-- The number of the trace in writing. -/
def traceText? (s : Span) : Option String :=
  if s.recording then idText? 32 s.traceId else none

/-- The number of the span in writing. -/
def spanText? (s : Span) : Option String :=
  if s.recording then idText? 16 s.spanId else none

end Span

end FormRouting
