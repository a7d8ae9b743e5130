import FormRouting.Metrics.Basic

/-!
# Samples

The numbers that metrics show, each with a name and labels, and their lines in the text that
monitoring collects.
-/

namespace FormRouting

/-- A number that a metric shows. The labels are in the order of their names. -/
structure Sample where
  name : String
  labels : List (String × String)
  value : Binary64
deriving DecidableEq

namespace Sample

/-- Whether labels come first in the order of names and values. -/
def labelsLe : List (String × String) → List (String × String) → Bool
  | [], _ => true
  | _ :: _, [] => false
  | a :: as, b :: bs =>
    if a.1 ≠ b.1 then decide (a.1 < b.1)
    else if a.2 ≠ b.2 then decide (a.2 < b.2)
    else labelsLe as bs

/-- The order of samples: by name, and then by labels. -/
def le (a b : Sample) : Bool :=
  if a.name ≠ b.name then decide (a.name < b.name) else labelsLe a.labels b.labels

/-- Labels in the order of their names. -/
def sortLabels (labels : List (String × String)) : List (String × String) :=
  labels.mergeSort fun a b => decide (a.1 ≤ b.1)

/-- A number in the text of samples: as elsewhere, but for the names of what is not finite and for
whole numbers of more than six digits, which take an exponent of at least two digits behind a
zero. -/
def numberText (x : Binary64) : String :=
  match x with
  | .nan => "NaN"
  | .infinite negative => if negative then "-Inf" else "+Inf"
  | .finite negative rank =>
    let (digits, position) := NumberLayout.digitsAndPosition (Decimal.shortest rank)
    if !negative && 6 < position && position ≤ 16 then
      let exponent := position - 1
      let layout := { NumberLayout.plain with exponentWidth := (toString exponent).length + 1 }
      String.ofList (layout.scientific digits exponent)
    else x.text

/-- A character in the value of a label. -/
def escapeChar (c : Char) : List Char :=
  if c = '\\' then ['\\', '\\']
  else if c = '\n' then ['\\', 'n']
  else if c = '"' then ['\\', '"']
  else [c]

/-- The value of a label in writing. -/
def labelText (label : String × String) : String :=
  label.1 ++ "=\"" ++ String.ofList (label.2.toList.flatMap escapeChar) ++ "\""

/-- The line of a sample. -/
def line (s : Sample) : String :=
  let labels := if s.labels.isEmpty then ""
    else "\x7b" ++ ",".intercalate (s.labels.map labelText) ++ "\x7d"
  s.name ++ labels ++ " " ++ numberText s.value

end Sample

namespace Metric

/-- The samples of a histogram: a count for each bound, of what does not exceed it, the count of
all, and the sum. -/
def histogramSamples (name : String) (labels : List (String × String)) (h : Histogram) :
    List Sample :=
  let buckets := (Histogram.bounds.zip (Histogram.cumulative 0 h.counts)).map fun b =>
    (⟨name ++ "_bucket", Sample.sortLabels (("le", Sample.numberText b.1) :: labels),
      Total.nearest b.2⟩ : Sample)
  buckets ++ [⟨name ++ "_count", labels, Total.nearest h.count⟩, ⟨name ++ "_sum", labels, h.sum⟩]

/-- The samples of a series. -/
def seriesSamples (m : Metric) (key : List String) (s : Series) : List Sample :=
  let labels := Sample.sortLabels (m.labelNames.zip key)
  match s with
  | .info facts =>
    [⟨m.name ++ "_info", Sample.sortLabels (labels ++ facts), Total.nearest 1⟩]
  | .counter t => [⟨m.name, labels, t.toReal⟩]
  | .histogram h => histogramSamples m.name labels h

/-- The samples of a metric. -/
def samples (m : Metric) : List Sample :=
  m.series.flatMap fun e => m.seriesSamples e.1 e.2

end Metric

namespace Metrics

/-- All samples, in order. -/
def samples (m : Metrics) : List Sample :=
  (m.metrics.flatMap (·.samples)).mergeSort Sample.le

/-- The value of the sample with the given name and labels. -/
def sampleValue? (m : Metrics) (name : String) (labels : List (String × String)) :
    Option Binary64 :=
  let labels := Sample.sortLabels labels
  (m.samples.find? fun s => s.name == name && s.labels == labels).map (·.value)

end Metrics

end FormRouting
