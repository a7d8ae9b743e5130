import FormRouting.Metrics.Series
import FormRouting.Value.Arguments
import FormRouting.Value.Reading
import FormRouting.Value.Text

/-!
# Metrics

The metrics of a service. A metric with labels has one series for each combination of their values,
from the first time it is mentioned on; a metric without labels has one series from the start.
-/

namespace FormRouting

/-- A metric with its series, which are kept by the values of its labels. -/
structure Metric where
  name : String
  kind : MetricKind
  labelNames : List String
  series : List (List String × Series)

namespace Metric

/-- A metric at its beginning. -/
def initial (name : String) (kind : MetricKind) (labelNames : List String) : Metric :=
  ⟨name, kind, labelNames, if labelNames.isEmpty then [([], .initial kind)] else []⟩

/-- Texts in the order of their characters. -/
def sorted (names : List String) : List String :=
  names.mergeSort fun a b => decide (a ≤ b)

/-- The values of the labels in the metric's own order, in writing. The labels have to be exactly
those of the metric, which has some. -/
def labelValues (m : Metric) (labels : List (String × Value)) : Except MetricError (List String) :=
  if m.labelNames.isEmpty then .error .labels
  else if sorted (labels.map (·.1)) = sorted m.labelNames then
    if labels.all (·.2.isWritable) then
      .ok (m.labelNames.map fun name => ((labels.lookup name).getD .null).toText)
    else .error .labels
  else .error .labels

/-- The metric with a series for the given values of its labels. -/
def touch (m : Metric) (key : List String) : Metric :=
  if (m.series.lookup key).isSome then m
  else { m with series := m.series ++ [(key, .initial m.kind)] }

/-- Puts a series in the place of the one with the same values of the labels. -/
def replace (m : Metric) (key : List String) (s : Series) : Metric :=
  { m with series := m.series.map fun e => if e.1 = key then (key, s) else e }

/-- Updates the series with the given values of the labels, from its beginning if it is new. A
refused update leaves the new series behind. -/
def updateSeries (m : Metric) (key : List String) (u : MetricUpdate) :
    Metric × Option MetricError :=
  let m := m.touch key
  if u.fits m.kind then
    match u.apply ((m.series.lookup key).getD (.initial m.kind)) with
    | .ok s => (m.replace key s, none)
    | .error e => (m, some e)
  else (m, some .unsupported)

/-- Updates the series with the given labels. Without labels the update goes to the metric itself,
which takes it only if it has none. -/
def update (m : Metric) (labels : List (String × Value)) (u : MetricUpdate) :
    Metric × Option MetricError :=
  if labels.isEmpty then
    if u.fits m.kind then
      if m.labelNames.isEmpty then m.updateSeries [] u else (m, some .labels)
    else (m, some .unsupported)
  else
    match m.labelValues labels with
    | .ok key => m.updateSeries key u
    | .error e => (m, some e)

end Metric

/-- The metrics of a service. -/
structure Metrics where
  service : String
  metrics : List Metric

namespace Metrics

/-- The service whose metrics include those of routing. -/
def routingService : String := "routing"

/-- The version of the service. -/
def version : String := "1.0.0"

def decisions : String := "routing_decisions_total"

def validationFailures : String := "routing_validation_failures_total"

def unresolvableRules : String := "routing_unresolvable_rules_total"

def evaluationDuration : String := "routing_evaluation_duration_seconds"

def requests : String := "http_requests_total"

def requestDuration : String := "http_request_duration_seconds"

def healthChecks : String := "health_check_total"

def errors : String := "errors_total"

def businessEvents : String := "business_events_total"

/-- The metrics of every service. -/
def common (service : String) : List Metric := [
  ⟨"service_info", .info, [], [([], .info [("service", service), ("version", version)])]⟩,
  .initial requests .counter ["method", "endpoint", "status_code"],
  .initial requestDuration .histogram ["method", "endpoint"],
  .initial healthChecks .counter ["status"],
  .initial errors .counter ["error_type", "service"],
  .initial businessEvents .counter ["event_type", "service"]]

/-- The metrics of routing. -/
def routing : List Metric := [
  .initial decisions .counter ["outcome"],
  .initial validationFailures .counter ["error_code"],
  .initial unresolvableRules .counter [],
  .initial evaluationDuration .histogram []]

/-- The metrics of a service at its start. -/
def ofService (service : String) : Metrics :=
  ⟨service, common service ++ if service = routingService then routing else []⟩

/-- The metric with the given name. -/
def get? (m : Metrics) (name : String) : Option Metric :=
  m.metrics.find? (·.name == name)

/-- Updates a metric in a list. -/
def updateIn (name : String) (labels : List (String × Value)) (u : MetricUpdate) :
    List Metric → List Metric × Option MetricError
  | [] => ([], none)
  | m :: rest =>
    if m.name = name then
      let (m, e) := m.update labels u
      (m :: rest, e)
    else
      let (rest, e) := updateIn name labels u rest
      (m :: rest, e)

/-- Updates the metric with the given name; one that does not exist takes every update. -/
def update (m : Metrics) (name : String) (labels : List (String × Value)) (u : MetricUpdate) :
    Metrics × Option MetricError :=
  let (metrics, e) := updateIn name labels u m.metrics
  ({ m with metrics }, e)

/-- Adds one to a counter. -/
def increment (m : Metrics) (name : String) (labels : List (String × String)) : Metrics :=
  (m.update name (labels.map fun l => (l.1, .text l.2)) (.add (.int 1))).1

/-! ## What the parts of the service count -/

/-- Records a request that was answered. -/
def recordRequest (m : Metrics) (method endpoint status duration : Value) :
    Metrics × Option MetricError :=
  match m.update requests [("method", method), ("endpoint", endpoint), ("status_code", status)]
      (.add (.int 1)) with
  | (m, some e) => (m, some e)
  | (m, none) =>
    m.update requestDuration [("method", method), ("endpoint", endpoint)] (.observe duration)

/-- Records a health check. -/
def recordHealth (m : Metrics) (status : Value) : Metrics × Option MetricError :=
  m.update healthChecks [("status", status)] (.add (.int 1))

/-- The service that an event is counted for, the own one if none is named. -/
def serviceOr (m : Metrics) (service : Value) : Value :=
  service.orElse (.text m.service)

/-- Records an error. -/
def recordError (m : Metrics) (code service : Value) : Metrics × Option MetricError :=
  m.update errors [("error_type", code), ("service", m.serviceOr service)] (.add (.int 1))

/-- Records a business event. -/
def recordEvent (m : Metrics) (event service : Value) : Metrics × Option MetricError :=
  m.update businessEvents [("event_type", event), ("service", m.serviceOr service)]
    (.add (.int 1))

/-! ## Operations with named arguments -/

/-- What can be done to metrics. -/
inductive Operation where
  | recordRequest
  | recordHealth
  | recordError
  | recordEvent
  | increment
  /-- Times work. -/
  | time
deriving DecidableEq, Repr

/-- The labels among arguments: all but the named ones. -/
def labelsAmong (named : List String) (given : List (Value × Value)) : List (String × Value) :=
  given.filterMap fun e =>
    match e.1 with
    | .text name => if named.contains name then none else some (name, e.2)
    | _ => none

/-- The name that no label can have among arguments, as the operation is called with it already. -/
def receiver : String := "self"

/-- The argument that names a metric. The other arguments are labels, which can have any name but
one. -/
def metricNamed? (argument : String) (given : List (Value × Value)) : Option Value :=
  if (Value.lookup receiver given).isSome then none else Value.lookup argument given

/-- Updates the metric that a value names. What cannot be a key names none and is refused. -/
def updateNamed (m : Metrics) (name : Value) (labels : List (String × Value)) (u : MetricUpdate) :
    Metrics × Option MetricError :=
  match name with
  | .text name => m.update name labels u
  | name => (m, name.unhashableKind?.map fun _ => .arguments)

/-- Carries an operation out, where work that is timed takes the given time. -/
def performTaking (elapsed : Binary64) (m : Metrics) (operation : Operation)
    (given : List (Value × Value)) : Metrics × Option MetricError :=
  let argument := Value.field given
  let checked (needed optional : List String) (act : Metrics × Option MetricError) :=
    match Arguments.check needed optional given with
    | .ok () => act
    | .error _ => (m, some .arguments)
  match operation with
  | .recordRequest =>
    checked ["method", "endpoint", "status_code", "duration"] []
      (m.recordRequest (argument "method") (argument "endpoint") (argument "status_code")
        (argument "duration"))
  | .recordHealth => checked ["status"] [] (m.recordHealth (argument "status"))
  | .recordError =>
    checked ["error_type"] ["service"]
      (m.recordError (argument "error_type") (argument "service"))
  | .recordEvent =>
    checked ["event_type"] ["service"]
      (m.recordEvent (argument "event_type") (argument "service"))
  | .increment =>
    match metricNamed? "metric_name" given with
    | none => (m, some .arguments)
    | some name =>
      m.updateNamed name (labelsAmong ["metric_name", "amount"] given)
        (.add (Value.fieldOr given "amount" (.int 1)))
  | .time =>
    match metricNamed? "operation_name" given with
    | none => (m, some .arguments)
    | some name =>
      m.updateNamed name (labelsAmong ["operation_name"] given) (.observe (.real elapsed))

/-- Carries an operation out, where work that is timed takes no time. -/
def perform (m : Metrics) (operation : Operation) (given : List (Value × Value)) :
    Metrics × Option MetricError :=
  m.performTaking .zero operation given

/-- Whether there is a metric of the name that arguments give. -/
def hasNamed (m : Metrics) (given : List (Value × Value)) : Except MetricError Bool :=
  match Arguments.check ["name"] [] given with
  | .error _ => .error .arguments
  | .ok () =>
    match Value.field given "name" with
    | .text name => .ok (m.get? name).isSome
    | name => if name.unhashableKind?.isSome then .error .arguments else .ok false

end Metrics

end FormRouting
