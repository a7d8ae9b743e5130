import FormRouting.Proofs.Metrics.Refusal

/-!
# Calls of the operations on metrics

Calls with whatever arguments. What a call is to add, and to which counter, is said by its arguments
alone (`Call.entry?`), with the labels by the texts of their values and in no order. A call that
succeeds adds its amount to the counter that it names and to no other one, and a call that is refused
leaves every series as it was (`ends_make`): an update that adds and one that observes have a lemma
each that says how they end, and the operations are made of these two.

Whatever updates preserve, calls do (`make_preserves`).
-/

namespace FormRouting

/-- Needed arguments that are checked are given. -/
theorem Arguments.isSome_lookup_of_check {needed optional : List String}
    {given : List (Value × Value)} (h : check needed optional given = .ok ()) {name : String}
    (hname : name ∈ needed) : (Value.lookup name given).isSome := by
  unfold check at h
  split at h
  · cases h
  · split at h
    · cases h
    · rename_i hnone
      simpa [Option.ne_none_iff_isSome] using List.find?_eq_none.mp hnone name hname

namespace Metrics

/-! ## Calls -/

/-- A call of an operation: its named arguments, and how long the work takes, if it times some. -/
structure Call where
  operation : Operation
  given : List (Value × Value)
  elapsed : Binary64

/-- What a call is to add to a counter. -/
structure Entry where
  name : String
  labels : List (String × Value)
  amount : Value

/-- The number that an amount stands for. -/
def countOf : Value → ℕ
  | .int n => n.toNat
  | .bool b => b.toNat
  | _ => 0

/-- What an entry adds to the counter with a name and labels: its amount, if these are its own. The
labels go by the texts of their values, and have no order. -/
def Entry.addsTo (entry : Entry) (name : String) (labels : List (String × String)) : ℕ :=
  if entry.name = name ∧ (Metric.labelTexts entry.labels).Perm labels then countOf entry.amount else 0

namespace Call

/-- Makes a call. -/
def make (m : Metrics) (call : Call) : Metrics × Option MetricError :=
  m.performTaking call.elapsed call.operation call.given

/-- What a call is to add, at a service. Errors and events are those of the service itself unless
another one is named. -/
def entry? (service : String) (call : Call) : Option Entry :=
  let argument := Value.field call.given
  let named := (argument "service").orElse (.text service)
  match call.operation with
  | .recordRequest =>
    some ⟨requests, [("method", argument "method"), ("endpoint", argument "endpoint"),
      ("status_code", argument "status_code")], .int 1⟩
  | .recordHealth => some ⟨healthChecks, [("status", argument "status")], .int 1⟩
  | .recordError =>
    some ⟨errors, [("error_type", argument "error_type"), ("service", named)], .int 1⟩
  | .recordEvent =>
    some ⟨businessEvents, [("event_type", argument "event_type"), ("service", named)], .int 1⟩
  | .increment =>
    match metricNamed? "metric_name" call.given with
    | some (.text name) =>
      some ⟨name, labelsAmong ["metric_name", "amount"] call.given,
        Value.fieldOr call.given "amount" (.int 1)⟩
    | _ => none
  | .time => none

/-- What a call adds to a counter, if it succeeds. -/
def adds (service : String) (call : Call) (name : String) (labels : List (String × String)) : ℕ :=
  match call.entry? service with
  | some entry => entry.addsTo name labels
  | none => 0

end Call

/-- A number that a histogram takes: an integer has to be within the floating-point numbers. -/
inductive IsDuration : Value → Prop where
  | real (x : Binary64) : IsDuration (.real x)
  | bool (b : Bool) : IsDuration (.bool b)
  | int {n : ℤ} (h : (Binary64.ofInt? n).isSome) : IsDuration (.int n)

/-- A call whose amount is no floating-point number, and whose duration is a number within these. -/
structure Call.Plain (call : Call) : Prop where
  amount : call.operation = .increment → ∀ x, Value.fieldOr call.given "amount" (.int 1) ≠ .real x
  duration : call.operation = .recordRequest →
    ∀ v, Value.lookup "duration" call.given = some v → IsDuration v

/-! ## What is added -/

/-- Every counter of a service has counted more by what is added under its name and labels. -/
def CountsMore (service : String) (m m' : Metrics) (added : String → List (String × String) → ℕ) :
    Prop :=
  ∀ metric ∈ (ofService service).metrics, metric.kind = .counter →
    ∀ key, key.length = metric.labelNames.length →
      ∀ n, m.seriesAt? metric.name key = some (.counter (.whole n)) →
        m'.seriesAt? metric.name key =
          some (.counter (.whole (n + added metric.name (metric.labelNames.zip key))))

/-- How an operation ends: it is refused and leaves all series as they were, or something is added. -/
inductive Ends (service : String) (m : Metrics) (added : String → List (String × String) → ℕ) :
    Metrics × Option MetricError → Prop where
  | refused {m' : Metrics} {e : MetricError}
      (hsame : ∀ name key, m'.seriesAt? name key = m.seriesAt? name key) :
      Ends service m added (m', some e)
  | done {m' : Metrics} (h : CountsMore service m m' added) : Ends service m added (m', none)

variable {service : String} {m m' m'' : Metrics} {added later : String → List (String × String) → ℕ}

theorem CountsMore.refl (service : String) (m : Metrics) : CountsMore service m m fun _ _ => 0 :=
  fun _ _ _ _ _ _ h => h

theorem CountsMore.trans (h : CountsMore service m m' added) (h' : CountsMore service m' m'' later) :
    CountsMore service m m'' fun name labels => added name labels + later name labels := by
  intro metric hmem hkind key hlength n hn
  rw [← Nat.add_assoc]
  exact h' metric hmem hkind key hlength _ (h metric hmem hkind key hlength n hn)

/-- A metric is what it was when the service began. -/
theorem Kept.exists_initial (h : m.Kept service) {metric : Metric} (hmem : metric ∈ m.metrics) :
    ∃ first ∈ (ofService service).metrics, first.shape = metric.shape := by
  have hshape := List.mem_map_of_mem (f := Metric.shape) hmem
  rw [h.shapes] at hshape
  exact List.mem_map.mp hshape

/-- What the service began with is there. -/
theorem Kept.exists_now (h : m.Kept service) {first : Metric}
    (hmem : first ∈ (ofService service).metrics) :
    ∃ metric, m.get? first.name = some metric ∧ metric.shape = first.shape := by
  have hshape := List.mem_map_of_mem (f := Metric.shape) hmem
  rw [← h.shapes] at hshape
  obtain ⟨metric, hmetric, heq⟩ := List.mem_map.mp hshape
  have hname : metric.name = first.name := congrArg Prod.fst heq
  exact ⟨metric, hname ▸ h.get?_of_mem hmetric, heq⟩

theorem eq_of_shape {service : String} {first second : Metric}
    (hfirst : first ∈ (ofService service).metrics) (hsecond : second ∈ (ofService service).metrics)
    (hname : first.name = second.name) : first = second :=
  List.inj_on_of_nodup_map (nodup_names_ofService service) hfirst hsecond hname

/-- A whole total to which an amount is added that is no floating-point number. -/
theorem eq_of_add {n : ℕ} {amount : Value} {t : Total} (hamount : ∀ x, amount ≠ .real x)
    (h : Total.add (.whole n) amount = .ok t) : t = .whole (n + countOf amount) := by
  have hint : ∀ {k : ℤ}, Total.addInt (.whole n) k = .ok t → t = .whole (n + k.toNat) := by
    intro k hk
    unfold Total.addInt at hk
    split_ifs at hk
    exact (Except.ok.inj hk).symm
  unfold Total.add at h
  split at h
  · rename_i b
    rw [hint h]
    cases b <;> rfl
  · exact hint h
  · rename_i x
    exact absurd rfl (hamount x)
  · cases h

/-- Values of labels that stand under the same names, in whichever order, are the same. -/
theorem eq_of_perm_zip {names key key' : List String} (distinct : names.Nodup)
    (hkey : key.length = names.length) (hkey' : key'.length = names.length)
    (h : (names.zip key).Perm (names.zip key')) : key = key' := by
  induction names generalizing key key' with
  | nil => rw [List.length_eq_zero_iff.mp hkey, List.length_eq_zero_iff.mp hkey']
  | cons name names ih =>
    obtain ⟨s, key, rfl⟩ := List.exists_cons_of_length_eq_add_one hkey
    obtain ⟨s', key', rfl⟩ := List.exists_cons_of_length_eq_add_one hkey'
    rw [List.zip_cons_cons, List.zip_cons_cons] at h
    rw [List.nodup_cons] at distinct
    -- The first name is not among the others, so its value is the first one on both sides.
    obtain rfl : s = s' := by
      rcases List.mem_cons.mp (h.mem_iff.mp List.mem_cons_self) with hfirst | hrest
      · exact congrArg Prod.snd hfirst
      · exact absurd (List.of_mem_zip hrest).1 distinct.1
    rw [ih distinct.2 (Nat.succ.inj hkey) (Nat.succ.inj hkey') h.cons_inv]

/-- What is true of an update that adds an amount: it is refused, or the counter that its labels name
has counted the amount more. -/
theorem ends_update_add (h : m.Kept service) (name : String) (labels : List (String × Value))
    {amount : Value} (hamount : ∀ x, amount ≠ .real x) :
    Ends service m (Entry.addsTo ⟨name, labels, amount⟩) (m.update name labels (.add amount)) := by
  have hupdated := updated_update h name labels (.add amount)
  generalize m.update name labels (.add amount) = ended at hupdated ⊢
  cases hupdated with
  | refused hsame => exact .refused hsame
  | absent hget =>
    refine .done fun metric hmem _ key _ n hn => ?_
    -- A counter has another name, as there is a metric of that.
    have hname : name ≠ metric.name := by
      rintro rfl
      rw [seriesAt?, hget] at hn
      cases hn
    rw [Entry.addsTo, if_neg fun hboth => hname hboth.1]
    exact hn
  | @taken m' found named s hget hnames hfits happly hseries =>
    refine .done fun metric hmem hkind key hlength n hn => ?_
    rw [hseries]
    obtain ⟨first, hfirst, hshape⟩ := h.exists_initial (mem_of_get? hget).1
    by_cases hname : metric.name = name
    · obtain rfl : first = metric := eq_of_shape hfirst hmem (by
        rw [hname, ← (mem_of_get? hget).2]
        exact congrArg Prod.fst hshape)
      have hlabels : first.labelNames = found.labelNames := congrArg (·.2.2) hshape
      have hfound : found.seriesAt key = .counter (.whole n) := by
        rw [hname, seriesAt?_of_get? hget] at hn
        exact Option.some.inj hn
      by_cases hkey : key = named
      · -- The labels name these values, whose counter is added to.
        subst hkey
        rw [if_pos ⟨hname, rfl⟩, Entry.addsTo, if_pos ⟨hname.symm, hlabels ▸ hnames.perm⟩]
        rw [hfound] at happly
        obtain ⟨t, ht, rfl⟩ := map_eq_ok_iff.mp happly
        rw [eq_of_add hamount ht]
      · rw [if_neg fun hboth => hkey hboth.2, Entry.addsTo, if_neg]
        · exact hn
        · rintro ⟨-, hperm⟩
          rw [hlabels] at hperm hlength
          have distinct := (h.each found (mem_of_get? hget).1).labels
          exact hkey (eq_of_perm_zip distinct hlength hnames.length (hperm.symm.trans hnames.perm))
    · rw [if_neg fun hboth => hname hboth.1, Entry.addsTo, if_neg fun hboth => hname hboth.1.symm]
      exact hn

/-- An observation adds to no counter. -/
theorem ends_update_observe (h : m.Kept service) (name : String) (labels : List (String × Value))
    (amount : Value) :
    Ends service m (fun _ _ => 0) (m.update name labels (.observe amount)) := by
  have hupdated := updated_update h name labels (.observe amount)
  generalize m.update name labels (.observe amount) = ended at hupdated ⊢
  cases hupdated with
  | refused hsame => exact .refused hsame
  | absent _ => exact .done (.refl service m)
  | @taken m' found named s hget hnames hfits happly hseries =>
    refine .done fun metric hmem hkind key hlength n hn => ?_
    rw [hseries, if_neg]
    · exact hn
    · rintro ⟨hname, -⟩
      -- Only histograms take observations.
      rw [hname, seriesAt?_of_get? hget] at hn
      have hcounter : found.kind = .counter := by
        rw [← (h.each found (mem_of_get? hget).1).kinds key, Option.some.inj hn]
        rfl
      rw [hcounter] at hfits
      cases hfits

/-- An integer is observed as the floating-point number that it converts to. -/
theorem observe_int (g : Histogram) (n : ℤ) :
    g.observe (.int n) = g.observeConverted (Binary64.ofInt? n) :=
  rfl

/-- A number that a histogram takes is observed. -/
theorem exists_observe {v : Value} (h : IsDuration v) (g : Histogram) : ∃ g', g.observe v = .ok g' := by
  cases h with
  | real x => exact ⟨_, rfl⟩
  | bool b => exact ⟨_, rfl⟩
  | @int n h =>
    obtain ⟨x, hx⟩ := Option.isSome_iff_exists.mp h
    exact ⟨g.observeReal x, by rw [observe_int, hx, Histogram.observeConverted]⟩

/-- An update under all labels of a metric that have texts goes to the series with their values. It is
taken exactly if this series takes it. -/
theorem update_of_texts (h : m.Kept service) {first : Metric}
    (hfirst : first ∈ (ofService service).metrics) {labels : List (String × Value)}
    {key : List String} (hlength : first.labelNames.length = key.length)
    (hlabels : Metric.labelTexts labels = first.labelNames.zip key)
    (hwritable : Metric.AreWritable labels) {u : MetricUpdate} (hfits : u.fits first.kind = true) :
    ∃ s, m.seriesAt? first.name key = some s ∧ s.kind = first.kind ∧
      (∀ s', u.apply s = .ok s' → (m.update first.name labels u).2 = none ∧
        (m.update first.name labels u).1.seriesAt? first.name key = some s') ∧
      ∀ e, u.apply s = .error e → (m.update first.name labels u).2 ≠ none := by
  obtain ⟨metric, hget, hshape⟩ := h.exists_now hfirst
  have hkind : metric.kind = first.kind := congrArg (·.2.1) hshape
  have hnames : metric.labelNames = first.labelNames := congrArg (·.2.2) hshape
  have hmetric := h.each metric (mem_of_get? hget).1
  rw [← hnames] at hlength hlabels
  rw [← hkind] at hfits ⊢
  -- Labels whose texts are those of the key update the series under it.
  have htexts : Metric.labelTexts labels = Metric.labelTexts (metric.labelsOf key) := by
    rw [hlabels, Metric.labelsOf, Metric.labelTexts, List.zip_map_right, List.map_map]
    exact (List.map_id _).symm
  have hupdate : metric.update labels u = metric.updateSeries key u := by
    rw [metric.update_congr htexts hwritable (Metric.areWritable_zip_text _ _),
      metric.update_labelsOf hmetric.labels hlength hfits]
  have hafter : (m.update first.name labels u).1.seriesAt? first.name key =
      some ((metric.updateSeries key u).1.seriesAt key) := by
    rw [seriesAt?_of_get? (get?_update hget), hupdate]
  have hsnd : (m.update first.name labels u).2 = (metric.updateSeries key u).2 := by
    rw [snd_update hget, hupdate]
  rw [hafter, hsnd]
  refine ⟨_, seriesAt?_of_get? hget key, hmetric.kinds key, fun s' happly => ?_, fun e happly => ?_⟩
  · rw [metric.updateSeries_eq key hfits happly]
    have hseries := Metric.seriesAt_updateSeries metric key hfits happly key
    rw [metric.updateSeries_eq key hfits happly, if_pos rfl] at hseries
    exact ⟨rfl, congrArg some hseries⟩
  · rcases metric.updateSeries_cases key u with ⟨e', he, -⟩ | ⟨s', -, hok, -⟩
    · rw [he]
      exact Option.some_ne_none e'
    · rw [happly] at hok
      cases hok

theorem mem_requests (service : String) :
    Metric.initial requests .counter ["method", "endpoint", "status_code"] ∈
      (ofService service).metrics := by
  simp [ofService, common]

/-- The labels of an update that a metric takes have texts. -/
theorem areWritable_of_taken (h : m.Kept service) {first : Metric}
    (hfirst : first ∈ (ofService service).metrics) {labels : List (String × Value)} {u : MetricUpdate}
    (hnone : (m.update first.name labels u).2 = none) : Metric.AreWritable labels := by
  have hupdated := updated_update h first.name labels u
  generalize m.update first.name labels u = ended at hnone hupdated
  cases hupdated with
  | absent habsent =>
    obtain ⟨metric, hget, -⟩ := h.exists_now hfirst
    rw [hget] at habsent
    cases habsent
  | refused _ => cases hnone
  | taken _ hnames _ _ _ => exact hnames.writable

theorem mem_requestDuration (service : String) :
    Metric.initial requestDuration .histogram ["method", "endpoint"] ∈
      (ofService service).metrics := by
  simp [ofService, common]

/-- There is a histogram that the duration of a request with a method and an endpoint that have texts
goes to, and the duration is refused if the histogram refuses it. -/
theorem exists_requestDuration (h : m.Kept service) {method endpoint : Value}
    (hmethod : method.isWritable = true) (hendpoint : endpoint.isWritable = true) (v : Value) :
    ∃ g : Histogram,
      (∀ g', g.observe v = .ok g' → (m.update requestDuration
        [("method", method), ("endpoint", endpoint)] (.observe v)).2 = none) ∧
      ∀ e, g.observe v = .error e → (m.update requestDuration
        [("method", method), ("endpoint", endpoint)] (.observe v)).2 ≠ none := by
  obtain ⟨s, -, hkind, htaken, hrefused⟩ := update_of_texts h (mem_requestDuration service)
    (show _ = [method.toText, endpoint.toText].length from rfl)
    (show Metric.labelTexts [("method", method), ("endpoint", endpoint)] = _ from rfl)
    (by simp [Metric.AreWritable, hmethod, hendpoint])
    (show (MetricUpdate.observe v).fits .histogram = true from rfl)
  obtain ⟨g, rfl⟩ := Series.kind_eq_histogram hkind
  have happly : (MetricUpdate.observe v).apply (.histogram g) = (g.observe v).map .histogram := rfl
  refine ⟨g, fun g' hg' => ?_, fun e he => ?_⟩
  · rw [hg'] at happly
    exact (htaken _ happly).1
  · rw [he] at happly
    exact hrefused e happly

/-- The duration of a request is taken, if it is a number that a histogram takes. -/
theorem snd_update_requestDuration (h : m.Kept service) {v : Value} (hv : IsDuration v)
    {method endpoint : Value} (hmethod : method.isWritable = true)
    (hendpoint : endpoint.isWritable = true) :
    (m.update requestDuration [("method", method), ("endpoint", endpoint)] (.observe v)).2 = none := by
  obtain ⟨g, htaken, -⟩ := exists_requestDuration h hmethod hendpoint v
  obtain ⟨g', hg'⟩ := exists_observe hv g
  exact htaken g' hg'

/-- Recording a request counts it, and the duration is observed without adding to a counter. -/
theorem ends_recordRequest (h : m.Kept service) {duration : Value} (hduration : IsDuration duration)
    (method endpoint status : Value) :
    Ends service m
      (Entry.addsTo ⟨requests, [("method", method), ("endpoint", endpoint), ("status_code", status)],
        .int 1⟩)
      (m.recordRequest method endpoint status duration) := by
  have hone : ∀ x : Binary64, Value.int 1 ≠ .real x := by simp
  have hcounted := ends_update_add h requests
    [("method", method), ("endpoint", endpoint), ("status_code", status)] hone
  have hkept := h.update requests
    [("method", method), ("endpoint", endpoint), ("status_code", status)] (.add (.int 1))
  have hwritable : (m.update requests [("method", method), ("endpoint", endpoint),
      ("status_code", status)] (.add (.int 1))).2 = none → Metric.AreWritable _ :=
    areWritable_of_taken h (mem_requests service)
  unfold recordRequest
  generalize m.update requests [("method", method), ("endpoint", endpoint), ("status_code", status)]
    (.add (.int 1)) = counted at hcounted hkept hwritable ⊢
  cases hcounted with
  | refused hsame => exact .refused hsame
  | @done m' hmore =>
    dsimp only at hkept ⊢
    -- The request has been counted, so all its labels have texts, and its duration is taken as
    -- well.
    have hlabels := hwritable rfl
    have hobserved := ends_update_observe hkept requestDuration
      [("method", method), ("endpoint", endpoint)] duration
    have htaken := snd_update_requestDuration hkept hduration (hlabels ("method", method) (by simp))
      (hlabels ("endpoint", endpoint) (by simp))
    generalize m'.update requestDuration [("method", method), ("endpoint", endpoint)]
      (.observe duration) = observed at hobserved htaken ⊢
    cases hobserved with
    | refused _ => cases htaken
    | done hsame => exact .done (hmore.trans hsame)

/-- An update of the metric that a value names, which has to be a text to name one. -/
theorem ends_updateNamed {u : MetricUpdate} {name : Value} {labels : List (String × Value)}
    (htext : ∀ s, name = .text s → Ends service m added (m.update s labels u))
    (hother : (∀ s, name ≠ .text s) → added = fun _ _ => 0) :
    Ends service m added (m.updateNamed name labels u) := by
  unfold updateNamed
  split
  · exact htext _ rfl
  · rename_i hname
    rw [hother hname]
    cases name.unhashableKind? with
    | none => exact .done (.refl service m)
    | some _ => exact .refused fun _ _ => rfl

/-- How a call ends. -/
theorem ends_make (h : m.Kept service) {call : Call} (hcall : call.Plain) :
    Ends service m (call.adds service) (call.make m) := by
  obtain ⟨operation, given, elapsed⟩ := call
  have hrefused : ∀ {added : String → List (String × String) → ℕ} {e : MetricError},
      Ends service m added (m, some e) := .refused fun _ _ => rfl
  have hone : ∀ x : Binary64, Value.int 1 ≠ .real x := by simp
  -- Arguments that do not fit are turned down before anything is counted; the other calls end as
  -- the update does that they make.
  unfold Call.make performTaking
  cases operation with
  | recordRequest =>
    dsimp only
    split
    · rename_i hcheck
      obtain ⟨v, hv⟩ := Option.isSome_iff_exists.mp
        (Arguments.isSome_lookup_of_check hcheck (show "duration" ∈ _ by simp))
      have hduration : Value.field given "duration" = v := Value.fieldOr_of_lookup hv _
      rw [hduration]
      exact ends_recordRequest h (hcall.duration rfl v hv) _ _ _
    · exact hrefused
  | recordHealth =>
    dsimp only
    split
    · exact ends_update_add h _ _ hone
    · exact hrefused
  | recordError =>
    dsimp only
    split
    · unfold recordError serviceOr
      rw [h.own]
      exact ends_update_add h _ _ hone
    · exact hrefused
  | recordEvent =>
    dsimp only
    split
    · unfold recordEvent serviceOr
      rw [h.own]
      exact ends_update_add h _ _ hone
    · exact hrefused
  | increment =>
    dsimp only
    split
    -- Nothing is known of a metric that a call names, but whether the service has it.
    · exact hrefused
    · rename_i name hname
      refine ends_updateNamed (fun s hs => ?_) fun hother => ?_
      · subst hs
        have hadds : Call.adds service ⟨.increment, given, elapsed⟩ = Entry.addsTo
            ⟨s, labelsAmong ["metric_name", "amount"] given, Value.fieldOr given "amount" (.int 1)⟩ := by
          funext other labels
          simp only [Call.adds, Call.entry?, hname]
        rw [hadds]
        exact ends_update_add h s _ (hcall.amount rfl)
      · funext s labels
        cases name <;> first | exact absurd rfl (hother _) | simp only [Call.adds, Call.entry?, hname]
  | time =>
    dsimp only
    split
    · exact hrefused
    · rename_i name hname
      exact ends_updateNamed (fun s _ => ends_update_observe h s _ _) fun _ => rfl

/-! ## What calls preserve -/

/-- What every update preserves, every call preserves. -/
theorem make_preserves {P : Metrics → Prop}
    (hupdate : ∀ (m : Metrics) name labels u, P m → P (m.update name labels u).1) (h : P m)
    (call : Call) : P (call.make m).1 := by
  have hnamed : ∀ name labels u, P (m.updateNamed name labels u).1 := by
    intro name labels u
    unfold updateNamed
    split
    · exact hupdate m _ labels u h
    · exact h
  unfold Call.make performTaking
  cases call.operation with
  | recordRequest =>
    dsimp only
    split
    -- The second update is made only if the first one was taken.
    · unfold recordRequest
      split
      · rename_i hended
        obtain rfl := congrArg Prod.fst hended
        exact hupdate m _ _ _ h
      · rename_i hended
        obtain rfl := congrArg Prod.fst hended
        exact hupdate _ _ _ _ (hupdate m _ _ _ h)
    · exact h
  | recordHealth | recordError | recordEvent =>
    dsimp only
    split
    · exact hupdate m _ _ _ h
    · exact h
  | increment | time =>
    dsimp only
    split
    · exact h
    · exact hnamed _ _ _

theorem Kept.make (h : m.Kept service) (call : Call) : (call.make m).1.Kept service :=
  make_preserves (P := fun m => m.Kept service) (fun _ name labels u hm => hm.update name labels u) h
    call

/-- A call removes no series. -/
theorem Has.make {name : String} {key : List String} (h : m.Has name key) (hkept : m.Kept service)
    (call : Call) : (call.make m).1.Has name key :=
  (make_preserves (P := fun m => m.Kept service ∧ m.Has name key)
    (fun _ name labels u hm => ⟨hm.1.update name labels u, hm.2.update hm.1 name labels u⟩)
    ⟨hkept, h⟩ call).2

end Metrics

end FormRouting
