import FormRouting.Metrics.Sample
import FormRouting.Proofs.Metrics.Calls
import Mathlib.Algebra.GroupWithZero.Nat

/-!
# What calls add up to

Over a run of calls every counter has counted the sum of the amounts of those calls that name it and
are not refused (`countsMore_run`), as a call that succeeds adds its amount to the one counter that it
names, and a refused one leaves every series as it was. What the metrics show is what their series
are (`HasSeries`), and no call takes one away, so of one call it follows that no counter decreases and
that at most one is another (`callExact_of_plain`).

A request is counted before its duration is observed (`recordRequest_of_refused`). So durations are
asked to be numbers that a histogram takes (`endless_request_is_counted`).
-/

namespace FormRouting

namespace Metrics

variable {service : String} {m : Metrics}

/-! ## One call -/

/-- What a metric shows under some labels. -/
def HasSeries (m : Metrics) (name : String) (labels : List (String × String)) (s : Series) : Prop :=
  ∃ metric ∈ m.metrics, metric.name = name ∧
    ∃ key, labels = metric.labelNames.zip key ∧ (key, s) ∈ metric.series

/-- A call names a counter, by its name and its labels in whichever order. -/
def Call.Names (service : String) (call : Call) (name : String) (labels : List (String × String)) :
    Prop :=
  ∃ entry, call.entry? service = some entry ∧ entry.name = name ∧
    (Metric.labelTexts entry.labels).Perm labels

/-- The name of the metric among the arguments of a call, for those operations that take one. -/
def Call.metric? (call : Call) : Option Value :=
  match call.operation with
  | .increment => metricNamed? "metric_name" call.given
  | .time => metricNamed? "operation_name" call.given
  | _ => none

theorem Call.adds_eq_zero {call : Call} {name : String} {labels : List (String × String)}
    (h : ¬call.Names service name labels) : call.adds service name labels = 0 := by
  unfold adds
  split
  · rename_i entry hentry
    rw [Entry.addsTo, if_neg fun hboth => h ⟨entry, hentry, hboth.1, hboth.2⟩]
  · rfl

/-- A series that is shown is the one of its metric at its values, as the service began with it. -/
theorem HasSeries.exists_initial {name : String} {labels : List (String × String)} {s : Series}
    (h : m.HasSeries name labels s) (hkept : m.Kept service) :
    ∃ first ∈ (ofService service).metrics, first.kind = s.kind ∧ first.name = name ∧
      ∃ key, key.length = first.labelNames.length ∧ labels = first.labelNames.zip key ∧
        m.Has name key ∧ m.seriesAt? name key = some s := by
  obtain ⟨metric, hmem, rfl, key, rfl, hseries⟩ := h
  obtain ⟨first, hfirst, hshape⟩ := hkept.exists_initial hmem
  have hmetric := hkept.each metric hmem
  have hat : metric.seriesAt key = s := Metric.seriesAt_of_mem hmetric hseries
  have hkey : key ∈ metric.keys := List.mem_map_of_mem hseries
  have hkind : first.kind = metric.kind := congrArg (·.2.1) hshape
  have hnames : first.labelNames = metric.labelNames := congrArg (·.2.2) hshape
  refine ⟨first, hfirst, ?_, congrArg Prod.fst hshape, key, ?_, ?_,
    ⟨metric, hkept.get?_of_mem hmem, hkey⟩, ?_⟩
  · rw [hkind, ← hmetric.kinds key, hat]
  · rw [hnames]
    exact hmetric.lengths key hkey
  · rw [hnames]
  · rw [seriesAt?_of_get? (hkept.get?_of_mem hmem), hat]

/-- A series of which there is one is shown under the labels that the metric began with. -/
theorem Kept.hasSeries (hkept : m.Kept service) {first : Metric}
    (hfirst : first ∈ (ofService service).metrics) {key : List String} {s : Series}
    (hhas : m.Has first.name key) (hat : m.seriesAt? first.name key = some s) :
    m.HasSeries first.name (first.labelNames.zip key) s := by
  obtain ⟨metric, hget, hkey⟩ := hhas
  obtain ⟨now, hnow, hshape⟩ := hkept.exists_now hfirst
  obtain rfl : metric = now := Option.some.inj (hget.symm.trans hnow)
  have hmem := (mem_of_get? hget).1
  rw [seriesAt?_of_get? hget] at hat
  have hseries := Metric.mem_of_mem_keys (hkept.each metric hmem) hkey
  rw [Option.some.inj hat] at hseries
  exact ⟨metric, hmem, (mem_of_get? hget).2, key,
    congrArg (fun shape => List.zip shape.2.2 key) hshape.symm, hseries⟩

/-- What a call does to what the metrics show. -/
structure CallExact (service : String) (m : Metrics) (call : Call) : Prop where
  /-- No counter decreases. -/
  grows : ∀ name labels n, m.HasSeries name labels (.counter (.whole n)) →
    ∃ n' ≥ n, (call.make m).1.HasSeries name labels (.counter (.whole n'))
  /-- A counter that it does not name stays as it is. -/
  others : ∀ name labels n, m.HasSeries name labels (.counter (.whole n)) →
    ¬call.Names service name labels → (call.make m).1.HasSeries name labels (.counter (.whole n))
  /-- If it is refused, everything stays as it is. -/
  refused : (call.make m).2 ≠ none → ∀ name labels s, m.HasSeries name labels s →
    (call.make m).1.HasSeries name labels s
  /-- If there is no metric of the name that it is given, it does nothing and is not refused. -/
  unknown : ∀ name, call.metric? = some (.text name) → m.get? name = none → call.make m = (m, none)

theorem make_of_unknown {call : Call} {name : String} (hname : call.metric? = some (.text name))
    (hget : m.get? name = none) : call.make m = (m, none) := by
  unfold Call.metric? at hname
  unfold Call.make performTaking
  split at hname
  · rename_i hoperation
    rw [hoperation, hname]
    exact update_of_absent hget _ _
  · rename_i hoperation
    rw [hoperation, hname]
    exact update_of_absent hget _ _
  · cases hname

theorem callExact_of_plain (h : m.Kept service) {call : Call} (hcall : call.Plain) :
    CallExact service m call := by
  have hends := ends_make h hcall
  have hkept := h.make call
  have hhas : ∀ {name key}, m.Has name key → (call.make m).1.Has name key := fun h' => h'.make h call
  -- What a counter shows afterwards is more by what the call adds, or is the same.
  have hmoves : ∀ {name labels n}, m.HasSeries name labels (.counter (.whole n)) →
      ∃ k, (k = 0 ∨ k = call.adds service name labels) ∧
        (call.make m).1.HasSeries name labels (.counter (.whole (n + k))) := by
    intro name labels n hshown
    obtain ⟨first, hfirst, hkind, rfl, key, hlength, rfl, hkey, hat⟩ := hshown.exists_initial h
    generalize hmade : call.make m = made at hends hkept hhas ⊢
    cases hends with
    | refused hsame =>
      exact ⟨0, .inl rfl, hkept.hasSeries hfirst (hhas hkey) ((hsame _ _).trans hat)⟩
    | done hmore =>
      exact ⟨_, .inr rfl,
        hkept.hasSeries hfirst (hhas hkey) (hmore first hfirst hkind key hlength n hat)⟩
  refine ⟨fun name labels n hshown => ?_, fun name labels n hshown hnames => ?_,
    fun herror name labels s hshown => ?_, fun name => make_of_unknown⟩
  · obtain ⟨k, -, hafter⟩ := hmoves hshown
    exact ⟨n + k, Nat.le_add_right n k, hafter⟩
  · obtain ⟨k, hk, hafter⟩ := hmoves hshown
    rw [Call.adds_eq_zero hnames, or_self] at hk
    rwa [hk] at hafter
  · obtain ⟨first, hfirst, -, rfl, key, -, rfl, hkey, hat⟩ := hshown.exists_initial h
    generalize hmade : call.make m = made at hends hkept hhas herror ⊢
    cases hends with
    | refused hsame => exact hkept.hasSeries hfirst (hhas hkey) ((hsame _ _).trans hat)
    | done _ => exact absurd rfl herror

/-! ## Runs of calls -/

/-- The metrics after calls. -/
def after (m : Metrics) (calls : List Call) : Metrics :=
  calls.foldl (fun m call => (call.make m).1) m

/-- Calls with what each of them was refused for, if it was. -/
def trace (m : Metrics) : List Call → List (Call × Option MetricError)
  | [] => []
  | call :: rest => (call, (call.make m).2) :: trace (call.make m).1 rest

/-- The sum of what calls add to a counter that were not refused. -/
def counted (service : String) (made : List (Call × Option MetricError)) (name : String)
    (labels : List (String × String)) : ℕ :=
  (made.map fun call => if call.2 = none then call.1.adds service name labels else 0).sum

theorem Kept.after (h : m.Kept service) (calls : List Call) : (m.after calls).Kept service := by
  induction calls generalizing m with
  | nil => exact h
  | cons call rest ih => exact ih (h.make call)

/-- A refused call adds nothing, and any other one its amount. -/
theorem countsMore_make (h : m.Kept service) {call : Call} (hcall : call.Plain) :
    CountsMore service m (call.make m).1 fun name labels =>
      if (call.make m).2 = none then call.adds service name labels else 0 := by
  have hends := ends_make h hcall
  generalize call.make m = made at hends ⊢
  cases hends with
  | refused hsame => exact fun _ _ _ _ _ _ hn => (hsame _ _).trans hn
  | done hmore => exact hmore

/-- Over a run, every counter has counted the sum. -/
theorem countsMore_run (h : m.Kept service) {calls : List Call} (hcalls : ∀ call ∈ calls, call.Plain) :
    CountsMore service m (m.after calls) (counted service (m.trace calls)) := by
  induction calls generalizing m with
  | nil => exact .refl service m
  | cons call rest ih =>
    rw [List.forall_mem_cons] at hcalls
    have hfirst := countsMore_make h hcalls.1
    have hrest := ih (h.make call) hcalls.2
    exact hfirst.trans hrest

/-- The counters that a service begins with have counted nothing. -/
theorem seriesAt?_ofService {first : Metric} (hfirst : first ∈ (ofService service).metrics)
    (hkind : first.kind = .counter) (key : List String) :
    (ofService service).seriesAt? first.name key = some (.counter (.whole 0)) := by
  have hinitial : ∃ labelNames, first = .initial first.name .counter labelNames := by
    have hcommon : first ∈ common service ∨ first ∈ routing := by
      unfold ofService at hfirst
      refine (List.mem_append.mp hfirst).imp_right fun h => ?_
      split_ifs at h
      · exact h
      · cases h
    simp only [common, routing, List.mem_cons, List.not_mem_nil, or_false] at hcommon
    rcases hcommon with (rfl | rfl | rfl | rfl | rfl | rfl) | rfl | rfl | rfl | rfl <;>
      first | exact ⟨_, rfl⟩ | cases hkind
  obtain ⟨labelNames, heq⟩ := hinitial
  rw [seriesAt?_of_get? ((kept_ofService service).get?_of_mem hfirst), heq, Metric.seriesAt_initial]
  rfl

/-- The labels of a counter have no order. -/
theorem counted_of_perm (made : List (Call × Option MetricError)) (name : String)
    {labels labels' : List (String × String)} (h : labels.Perm labels') :
    counted service made name labels = counted service made name labels' := by
  have hadds : ∀ call : Call, call.adds service name labels = call.adds service name labels' := by
    intro call
    unfold Call.adds Entry.addsTo
    split
    · simp only [h.congr_right]
    · rfl
  simp only [counted, hadds]

/-- A counter that there is after calls has counted the sum of what they added to it. -/
theorem total_of_mem_after {calls : List Call} (hcalls : ∀ call ∈ calls, call.Plain) {metric : Metric}
    (hmem : metric ∈ ((ofService service).after calls).metrics) (hkind : metric.kind = .counter)
    {e : List String × Series} (he : e ∈ metric.series) :
    e.2 = .counter (.whole (counted service ((ofService service).trace calls) metric.name
      (metric.labelNames.zip e.1))) := by
  have hstart := kept_ofService service
  have hkept := hstart.after calls
  have hmetric := hkept.each metric hmem
  have hshown : ((ofService service).after calls).HasSeries metric.name
      (metric.labelNames.zip e.1) e.2 :=
    ⟨metric, hmem, rfl, e.1, rfl, he⟩
  have hcounter : e.2.kind = .counter := by
    rw [← Metric.seriesAt_of_mem hmetric he, hmetric.kinds, hkind]
  obtain ⟨first, hfirst, hfirstKind, hname, key, hlength, hlabels, -, hat⟩ :=
    hshown.exists_initial hkept
  have hfirstCounter := hfirstKind.trans hcounter
  have hsum := countsMore_run hstart hcalls first hfirst hfirstCounter key hlength 0
    (seriesAt?_ofService hfirst hfirstCounter key)
  rw [hname, hat, Nat.zero_add] at hsum
  rw [hlabels]
  exact Option.some.inj hsum

/-- What calls make of the metrics of a service. -/
structure CallsExact (service : String) (calls : List Call) : Prop where
  /-- Every counter has counted the sum of what was added by the calls that were not refused. -/
  totals : ∀ metric ∈ ((ofService service).after calls).metrics, metric.kind = .counter →
    ∀ e ∈ metric.series, e.2 = .counter (.whole
      (counted service ((ofService service).trace calls) metric.name (metric.labelNames.zip e.1)))
  /-- So its samples show this sum. -/
  samples : ∀ metric ∈ ((ofService service).after calls).metrics, metric.kind = .counter →
    ∀ sample ∈ metric.samples, sample.name = metric.name ∧ sample.value = Total.nearest
      (counted service ((ofService service).trace calls) sample.name sample.labels)
  /-- Each call changes at most the one that it names. -/
  calls : ∀ before call rest, calls = before ++ call :: rest →
    CallExact service ((ofService service).after before) call

/-- For every service and all calls whose amounts are no floating-point numbers and whose durations
are numbers within these, the counters show exactly what the calls add that succeed. -/
theorem counters_account_for_calls (service : String) {calls : List Call}
    (hcalls : ∀ call ∈ calls, call.Plain) : CallsExact service calls where
  totals metric hmem hkind e he := total_of_mem_after hcalls hmem hkind he
  samples := by
    intro metric hmem hkind sample hsample
    obtain ⟨e, he, hshown⟩ := List.mem_flatMap.mp hsample
    have htotal := total_of_mem_after hcalls hmem hkind he
    simp only [Metric.seriesSamples, htotal, List.mem_singleton] at hshown
    subst hshown
    -- A sample has its labels in order.
    have hsorted : (Sample.sortLabels (metric.labelNames.zip e.1)).Perm
        (metric.labelNames.zip e.1) := List.mergeSort_perm _ _
    dsimp only
    rw [counted_of_perm _ _ hsorted, Total.toReal]
    exact ⟨rfl, rfl⟩
  calls := by
    intro before call rest hsplit
    have hplain : call.Plain := hcalls call (by rw [hsplit]; simp)
    exact callExact_of_plain ((kept_ofService service).after before) hplain

/-- Errors of a service: two are counted at once under labels in another order, one of the service
itself, and what follows is refused or does nothing. -/
def errorCalls : List Call := [
  ⟨.increment, [(.text "service", .text "svc"), (.text "amount", .int 2),
    (.text "error_type", .text "E"), (.text "metric_name", .text errors)], .zero⟩,
  ⟨.recordError, [(.text "error_type", .text "E"), (.text "service", .text "")], .zero⟩,
  ⟨.increment, [(.text "metric_name", .text errors), (.text "amount", .int (-1)),
    (.text "error_type", .text "E"), (.text "service", .text "svc")], .zero⟩,
  ⟨.increment, [(.text "metric_name", .text errors), (.text "error_type", .text "E")], .zero⟩,
  ⟨.increment, [(.text "metric_name", .text "losses_total"), (.text "amount", .int 5)], .zero⟩,
  ⟨.time, [(.text "operation_name", .text errors), (.text "error_type", .text "F"),
    (.text "service", .text "svc")], .zero⟩]

theorem counters_account_for_calls_errors :
    (∀ call ∈ errorCalls, call.Plain) ∧ CallsExact "svc" errorCalls := by
  have hplain : ∀ call ∈ errorCalls, call.Plain := by
    simp only [errorCalls, List.forall_mem_cons, List.not_mem_nil, false_implies, implies_true,
      and_true]
    refine ⟨⟨?_, ?_⟩, ⟨?_, ?_⟩, ⟨?_, ?_⟩, ⟨?_, ?_⟩, ⟨?_, ?_⟩, ?_, ?_⟩
    all_goals rintro - x ⟨⟩
  exact ⟨hplain, counters_account_for_calls "svc" hplain⟩

/-- A request is counted before its duration is observed, and so even if that is refused. -/
theorem recordRequest_of_refused (h : m.Kept service) {duration : Value}
    (hduration : ∀ g : Histogram, ∃ e, g.observe duration = .error e) {method endpoint status : Value}
    (hlabels : Metric.AreWritable
      [("method", method), ("endpoint", endpoint), ("status_code", status)]) {n : ℕ}
    (hn : m.seriesAt? requests [method.toText, endpoint.toText, status.toText] =
      some (.counter (.whole n))) :
    (m.recordRequest method endpoint status duration).2 ≠ none ∧
      (m.recordRequest method endpoint status duration).1.seriesAt? requests
        [method.toText, endpoint.toText, status.toText] = some (.counter (.whole (n + 1))) := by
  obtain ⟨s, hs, -, htaken, -⟩ := update_of_texts h (mem_requests service)
    (show _ = [method.toText, endpoint.toText, status.toText].length from rfl)
    (show Metric.labelTexts [("method", method), ("endpoint", endpoint), ("status_code", status)] = _
      from rfl) hlabels (show (MetricUpdate.add (.int 1)).fits .counter = true from rfl)
  obtain rfl : s = .counter (.whole n) := Option.some.inj (hs.symm.trans hn)
  obtain ⟨s', happly, hmore⟩ := MetricUpdate.Adds.one.apply (Series.Measures.counter n)
  obtain rfl : s' = .counter (.whole (n + 1)) := by
    cases hmore
    rfl
  obtain ⟨hnone, hcounted⟩ := htaken _ happly
  have hkept := h.update requests
    [("method", method), ("endpoint", endpoint), ("status_code", status)] (.add (.int 1))
  unfold recordRequest
  change (m.update requests _ _).2 = none at hnone
  change (m.update requests _ _).1.seriesAt? requests _ = _ at hcounted
  generalize m.update requests [("method", method), ("endpoint", endpoint), ("status_code", status)]
    (.add (.int 1)) = after at hkept hnone hcounted ⊢
  obtain ⟨m', e⟩ := after
  obtain rfl : e = none := hnone
  obtain ⟨g, -, hrefused⟩ := exists_requestDuration hkept (hlabels ("method", method) (by simp))
    (hlabels ("endpoint", endpoint) (by simp)) duration
  obtain ⟨e, he⟩ := hduration g
  refine ⟨hrefused e he, ?_⟩
  -- The histogram is another metric.
  have hother : requests ≠ requestDuration := by decide
  rw [seriesAt?, get?_update_of_ne hother]
  exact hcounted

/-- A call that records a request, with all its arguments. -/
theorem make_recordRequest (m : Metrics) (method endpoint status duration : Value)
    (elapsed : Binary64) :
    Call.make m ⟨.recordRequest, [(.text "method", method), (.text "endpoint", endpoint),
        (.text "status_code", status), (.text "duration", duration)], elapsed⟩ =
      m.recordRequest method endpoint status duration :=
  rfl

/-- A request whose duration is an integer beyond the floating-point numbers. -/
def endlessRequest : Call :=
  ⟨.recordRequest, [(.text "method", .text "GET"), (.text "endpoint", .text "/"),
    (.text "status_code", .int 200), (.text "duration", .int (Int.pow 10 400))], .zero⟩

/-- A counter that is not at its beginning is there. -/
theorem has_of_seriesAt? {name : String} {key : List String} {n : ℕ}
    (h : m.seriesAt? name key = some (.counter (.whole (n + 1)))) : m.Has name key := by
  obtain ⟨metric, hget, hat⟩ := Option.map_eq_some_iff.mp h
  refine ⟨metric, hget, ?_⟩
  cases hlookup : metric.series.lookup key with
  | some s =>
    obtain ⟨e, hmem, hkey⟩ :=
      List.lookup_isSome_iff.mp (Option.isSome_iff_exists.mpr ⟨s, hlookup⟩)
    exact List.mem_map.mpr ⟨e, hmem, (beq_iff_eq.mp hkey).symm⟩
  | none =>
    rw [Metric.seriesAt, hlookup, Option.getD_none] at hat
    cases hkind : metric.kind <;> rw [hkind] at hat <;> cases hat

/-- The call is refused, but a counter shows the request, to which no call that succeeds has added. -/
theorem endless_request_is_counted :
    (endlessRequest.make (ofService "svc")).2 ≠ none ∧
      (endlessRequest.make (ofService "svc")).1.HasSeries requests
        [("method", "GET"), ("endpoint", "/"), ("status_code", "200")] (.counter (.whole 1)) ∧
      counted "svc" ((ofService "svc").trace [endlessRequest]) requests
        [("method", "GET"), ("endpoint", "/"), ("status_code", "200")] = 0 := by
  have hstart := kept_ofService "svc"
  have hrange : Binary64.ofInt? (Int.pow 10 400) = none := by decide +kernel
  have hduration (g : Histogram) : ∃ e, g.observe (.int (Int.pow 10 400)) = .error e :=
    ⟨.tooLarge, by rw [observe_int, hrange, Histogram.observeConverted]⟩
  have hlabels : Metric.AreWritable
      [("method", .text "GET"), ("endpoint", .text "/"), ("status_code", .int 200)] := by
    have hint : Value.isWritable (.int 200) = true := by decide +kernel
    simp [Metric.AreWritable, Value.isWritable_text, hint]
  have hzero := seriesAt?_ofService (mem_requests "svc") rfl ["GET", "/", "200"]
  obtain ⟨hrefused, hone⟩ := recordRequest_of_refused hstart hduration hlabels hzero
  have hmake : endlessRequest.make (ofService "svc") = (ofService "svc").recordRequest
      (.text "GET") (.text "/") (.int 200) (.int (Int.pow 10 400)) := make_recordRequest _ _ _ _ _ _
  rw [← hmake] at hrefused hone
  refine ⟨hrefused, ?_, ?_⟩
  · exact (hstart.make endlessRequest).hasSeries (mem_requests "svc") (has_of_seriesAt? hone) hone
  · rw [counted, trace, trace, List.map_singleton, List.sum_singleton]
    exact if_neg hrefused

end Metrics

end FormRouting
