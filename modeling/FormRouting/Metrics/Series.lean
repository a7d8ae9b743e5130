import FormRouting.Number.Layout
import FormRouting.Value.Basic

/-!
# Series

What a metric counts: totals that only grow, and histograms of observed quantities.
-/

namespace FormRouting

/-- Why a metric does not take what it is given. -/
inductive MetricError where
  /-- The labels are not those of the metric, or the value of one cannot be written. -/
  | labels
  /-- A total would shrink. -/
  | negative
  /-- The amount is no number. -/
  | notANumber
  /-- The amount is beyond the floating-point numbers. -/
  | tooLarge
  /-- The metric does not take this kind of operation. -/
  | unsupported
  /-- The arguments do not fit the operation. -/
  | arguments
deriving DecidableEq, Repr

/-- A total. Whole amounts are added up exactly; once another amount comes in, the total is a
floating-point number. -/
inductive Total where
  | whole (n : Nat)
  | real (x : Binary64)
deriving DecidableEq

namespace Total

/-- The floating-point number nearest to a natural number. -/
def nearest (n : Nat) : Binary64 :=
  Binary64.ofRatio false n 1

/-- The total as a floating-point number. -/
def toReal : Total → Binary64
  | .whole n => nearest n
  | .real x => x

/-- Adds a whole amount. -/
def addWhole (t : Total) (n : Nat) : Total :=
  match t with
  | .whole m => .whole (m + n)
  | .real x => .real (x.add (nearest n))

/-- Adds a floating-point amount. -/
def addReal (t : Total) (x : Binary64) : Total :=
  .real (t.toReal.add x)

/-- Adds an integer, which must not be negative, nor beyond the floating-point numbers. -/
def addInt (t : Total) (n : Int) : Except MetricError Total :=
  if n < 0 then .error .negative
  else if (Binary64.ofInt? n).isNone then .error .tooLarge
  else .ok (t.addWhole n.toNat)

/-- Adds an amount, which must not be negative. -/
def add (t : Total) (amount : Value) : Except MetricError Total :=
  match amount with
  | .bool b => t.addInt (if b then 1 else 0)
  | .int n => t.addInt n
  | .real x => if x.lt .zero then .error .negative else .ok (t.addReal x)
  | _ => .error .notANumber

end Total

/-- The upper bounds of the buckets of histograms, as decimals; the last bucket has none. -/
def Histogram.decimalBounds : List (Nat × Int) := [
  (5, -3), (1, -2), (25, -3), (5, -2), (75, -3), (1, -1), (25, -2), (5, -1), (75, -2),
  (1, 0), (25, -1), (5, 0), (75, -1), (10, 0)]

/-- The upper bounds of the buckets of histograms, in ascending order. -/
def Histogram.bounds : List Binary64 :=
  decimalBounds.map (fun b => Binary64.ofDecimal false b.1 b.2) ++ [.infinite false]

/-- A histogram: how many quantities fell into each bucket, and their sum. -/
structure Histogram where
  counts : List Nat
  sum : Binary64
deriving DecidableEq

namespace Histogram

def empty : Histogram := ⟨bounds.map fun _ => 0, .zero⟩

/-- Counts a quantity in the first bucket whose bound it does not exceed. -/
def countIn (x : Binary64) : List Binary64 → List Nat → List Nat
  | bound :: bounds, n :: counts =>
    if x.lt bound || x.same bound then (n + 1) :: counts else n :: countIn x bounds counts
  | _, counts => counts

/-- Observes a quantity. -/
def observeReal (h : Histogram) (x : Binary64) : Histogram :=
  ⟨countIn x bounds h.counts, h.sum.add x⟩

/-- Observes a quantity that was converted to a floating-point number, if it could be. -/
def observeConverted (h : Histogram) : Option Binary64 → Except MetricError Histogram
  | some x => .ok (h.observeReal x)
  | none => .error .tooLarge

/-- Observes a quantity, which has to be a number. -/
def observe (h : Histogram) (amount : Value) : Except MetricError Histogram :=
  match amount with
  | .bool b => .ok (h.observeReal (Total.nearest (if b then 1 else 0)))
  | .real x => .ok (h.observeReal x)
  | .int n => h.observeConverted (Binary64.ofInt? n)
  | _ => .error .notANumber

/-- How many quantities were observed. -/
def count (h : Histogram) : Nat :=
  h.counts.foldr (· + ·) 0

/-- How many quantities do not exceed each bound. -/
def cumulative (seen : Nat) : List Nat → List Nat
  | [] => []
  | n :: rest => (seen + n) :: cumulative (seen + n) rest

end Histogram

/-- The kinds of metrics. -/
inductive MetricKind where
  /-- Facts about the service. -/
  | info
  | counter
  | histogram
deriving DecidableEq, Repr

/-- One series of a metric. -/
inductive Series where
  | info (facts : List (String × String))
  | counter (total : Total)
  | histogram (h : Histogram)
deriving DecidableEq

/-- The series of a kind at its beginning. -/
def Series.initial : MetricKind → Series
  | .info => .info []
  | .counter => .counter (.whole 0)
  | .histogram => .histogram .empty

/-- What is done to a series. -/
inductive MetricUpdate where
  | add (amount : Value)
  /-- Adds how many things were counted. -/
  | addCount (n : Nat)
  | observe (amount : Value)

namespace MetricUpdate

/-- Whether metrics of a kind take the update. -/
def fits : MetricUpdate → MetricKind → Bool
  | .add _, .counter => true
  | .addCount _, .counter => true
  | .observe _, .histogram => true
  | _, _ => false

/-- The series after the update. -/
def apply : MetricUpdate → Series → Except MetricError Series
  | .add amount, .counter t => (t.add amount).map .counter
  | .addCount n, .counter t => .ok (.counter (t.addWhole n))
  | .observe amount, .histogram h => (h.observe amount).map .histogram
  | _, _ => .error .unsupported

end MetricUpdate

end FormRouting
