import FormRouting.Proofs.Metrics.Update

/-!
# The ledger of the metrics

What the metrics of routing have counted, kept as a list of marks: one for each thing that was
counted, with the name of the metric and the values of its labels. `Metrics.Shows` relates metrics
to a ledger of what the routing itself counts, and `Metrics.Tallies` to a ledger of any accounts. What
an operation appends to the ledger does not depend on what was counted before (`Metrics.Adds`), so
what several operations append is put together by `Adds.trans`. Operations on metrics that the ledger
does not keep append nothing (`Keeps.update_other`).
-/

namespace FormRouting

/-- What was counted, one mark for each thing: the name of a metric and the values of its labels. -/
abbrev Ledger := List (String × List String)

namespace Ledger

/-- A metric that a ledger keeps account of. -/
structure Account where
  name : String
  kind : MetricKind
  labelNames : List String

/-- The metrics that a ledger keeps account of. -/
def accounts : List Account := [
  ⟨Metrics.errors, .counter, ["error_type", "service"]⟩,
  ⟨Metrics.businessEvents, .counter, ["event_type", "service"]⟩,
  ⟨Metrics.decisions, .counter, ["outcome"]⟩,
  ⟨Metrics.validationFailures, .counter, ["error_code"]⟩,
  ⟨Metrics.unresolvableRules, .counter, []⟩,
  ⟨Metrics.evaluationDuration, .histogram, []⟩]

/-- Accounts that can be kept side by side: no two have one name, and the labels of each are
distinct. -/
structure Separate (kept : List Account) : Prop where
  names : (kept.map (·.name)).Nodup
  labels : ∀ a ∈ kept, a.labelNames.Nodup

/-- No two separate accounts have one name. -/
theorem Separate.unique {kept : List Account} (h : Separate kept) {a b : Account} (ha : a ∈ kept)
    (hb : b ∈ kept) (hname : a.name = b.name) : a = b :=
  List.inj_on_of_nodup_map h.names ha hb hname

/-- Separate accounts that include those of routing. -/
structure Covers (kept : List Account) : Prop where
  separate : Separate kept
  all : ∀ a ∈ accounts, a ∈ kept

theorem covers_accounts : Covers accounts :=
  ⟨⟨by decide, by decide⟩, fun _ ha => ha⟩

/-- The mark of an error of this service with a code, which has to have a text. -/
def ofError (code : Value) : Ledger :=
  if code.isWritable then [(Metrics.errors, [code.toText, Metrics.routingService])] else []

end Ledger

namespace Metrics

open Ledger (Account accounts Covers)

/-- The metric with the given name has counted a number under the given values of its labels. -/
def Counts (m : Metrics) (name : String) (key : List String) (n : ℕ) : Prop :=
  ∃ metric, m.get? name = some metric ∧ Series.Measures metric.kind (metric.seriesAt key) n

/-- Metrics have counted one number only. -/
theorem Counts.unique {m : Metrics} {name : String} {key : List String} {n k : ℕ}
    (hn : m.Counts name key n) (hk : m.Counts name key k) : n = k := by
  obtain ⟨metric, hget, hn⟩ := hn
  obtain ⟨other, hother, hk⟩ := hk
  rw [hget] at hother
  obtain rfl := Option.some.inj hother
  exact hn.unique hk

/-- Metrics have counted what a ledger says of the given accounts. -/
def Keeps (m : Metrics) (kept : List Account) (marks : Ledger) : Prop :=
  ∀ a ∈ kept, ∃ metric, m.get? a.name = some metric ∧ metric.kind = a.kind ∧
    metric.labelNames = a.labelNames ∧
    ∀ key, Series.Measures a.kind (metric.seriesAt key) (marks.count (a.name, key))

/-- The metrics of routing have counted what a ledger says. -/
structure Shows (m : Metrics) (marks : Ledger) : Prop where
  service : m.service = routingService
  series : ∀ a ∈ accounts, ∃ metric, m.get? a.name = some metric ∧ metric.kind = a.kind ∧
    metric.labelNames = a.labelNames ∧
    ∀ key, Series.Measures a.kind (metric.seriesAt key) (marks.count (a.name, key))

/-- The metrics of routing have counted what a ledger says of the given accounts. -/
structure Tallies (m : Metrics) (kept : List Account) (marks : Ledger) : Prop where
  service : m.service = routingService
  keeps : m.Keeps kept marks

/-- Metrics afterwards have counted some marks more than the metrics before. -/
def Adds (m m' : Metrics) (kept : List Account) (marks : Ledger) : Prop :=
  ∀ before, m.Tallies kept before → m'.Tallies kept (before ++ marks)

variable {m m' m'' : Metrics} {kept : List Account} {marks later : Ledger}

/-- A number that the metrics have counted is how often the ledger marks it. -/
theorem Keeps.counts (h : m.Keeps kept marks) {a : Account} (ha : a ∈ kept) (key : List String) :
    m.Counts a.name key (marks.count (a.name, key)) := by
  obtain ⟨metric, hget, hkind, -, hseries⟩ := h a ha
  refine ⟨metric, hget, ?_⟩
  rw [hkind]
  exact hseries key

/-- What the metrics of routing have counted, they have counted of each account. -/
theorem Shows.keeps (h : m.Shows marks) : m.Keeps accounts marks :=
  h.series

theorem Shows.counts (h : m.Shows marks) {a : Account} (ha : a ∈ accounts) (key : List String) :
    m.Counts a.name key (marks.count (a.name, key)) :=
  h.keeps.counts ha key

/-! ## At the start -/

/-- Metrics at their beginning have counted nothing. -/
theorem keeps_of_initial
    (h : ∀ a ∈ kept, m.get? a.name = some (.initial a.name a.kind a.labelNames) ∧ a.kind ≠ .info) :
    m.Keeps kept [] := by
  intro a ha
  obtain ⟨hget, hkind⟩ := h a ha
  refine ⟨_, hget, rfl, rfl, fun key => ?_⟩
  rw [Metric.seriesAt_initial]
  exact Series.measures_initial hkind

/-- An update of an account appends its marks to the ledger, and nothing of it is refused. -/
theorem Keeps.update (h : m.Keeps kept marks) (hkept : Ledger.Separate kept) {a : Account}
    (ha : a ∈ kept) (key : List String) (hkey : a.labelNames.length = key.length) {u : MetricUpdate}
    {k : ℕ} (hu : u.Adds a.kind k) :
    (m.update a.name (a.labelNames.zip (key.map .text)) u).1.Keeps kept
        (marks ++ List.replicate k (a.name, key)) ∧
      (m.update a.name (a.labelNames.zip (key.map .text)) u).2 = none := by
  obtain ⟨metric, hget, hkind, hnames, hseries⟩ := h a ha
  obtain ⟨s, happly, hs⟩ := hu.apply (hseries key)
  have hfits : u.fits metric.kind = true := by rw [hkind]; exact hu.fits
  have hlabels : metric.labelNames.Nodup := by rw [hnames]; exact hkept.labels a ha
  have hlength : metric.labelNames.length = key.length := by rw [hnames]; exact hkey
  have hzip : a.labelNames.zip (key.map .text) = metric.labelsOf key := by
    rw [Metric.labelsOf, hnames]
  rw [hzip]
  refine ⟨fun b hb => ?_, ?_⟩
  · by_cases hab : b.name = a.name
    · -- The account itself: the series under the key is updated, and the mark is one of its.
      obtain rfl : b = a := hkept.unique hb ha hab
      obtain ⟨series, hupdate⟩ := metric.exists_series_update (metric.labelsOf key) u
      refine ⟨_, get?_update hget, ?_, ?_, fun k' => ?_⟩
      · rw [hupdate]
        exact hkind
      · rw [hupdate]
        exact hnames
      · rw [metric.seriesAt_update hlabels hlength hfits happly k', List.count_append,
          List.count_replicate]
        by_cases hk : k' = key
        · rw [if_pos hk, hk, if_pos (by simp)]
          exact hs
        · rw [if_neg hk, if_neg (by simpa using Ne.symm hk)]
          exact hseries k'
    · -- Another account: its metric stays as it is, and the mark is none of its.
      obtain ⟨other, hother, hkind', hnames', hseries'⟩ := h b hb
      refine ⟨other, ?_, hkind', hnames', fun k' => ?_⟩
      · rw [get?_update_of_ne hab, hother]
      · have hmark : ¬((a.name, key) == (b.name, k')) = true := by
          simpa using fun h => absurd h.symm hab
        rw [List.count_append, List.count_replicate, if_neg hmark]
        exact hseries' k'
  · rw [snd_update hget, metric.update_labelsOf hlabels hlength hfits,
      metric.updateSeries_eq key hfits happly]

/-- An update of an account goes by the texts of the values of its labels, if all have one. -/
theorem Keeps.update_of_texts (h : m.Keeps kept marks) (hkept : Ledger.Separate kept) {a : Account}
    (ha : a ∈ kept) (key : List String) (hkey : a.labelNames.length = key.length)
    {labels : List (String × Value)} (hlabels : Metric.labelTexts labels = a.labelNames.zip key)
    (hwritable : Metric.AreWritable labels) {u : MetricUpdate} {k : ℕ} (hu : u.Adds a.kind k) :
    (m.update a.name labels u).1.Keeps kept (marks ++ List.replicate k (a.name, key)) ∧
      (m.update a.name labels u).2 = none := by
  have htexts : Metric.labelTexts (a.labelNames.zip (key.map .text)) = a.labelNames.zip key := by
    unfold Metric.labelTexts
    rw [List.zip_map_right, List.map_map]
    exact List.map_id _
  rw [m.update_congr a.name (hlabels.trans htexts.symm) hwritable
    (Metric.areWritable_zip_text _ _) u]
  exact h.update hkept ha key hkey hu

/-- An update of a metric of which the ledger is not kept appends nothing to it. -/
theorem Keeps.update_other (h : m.Keeps kept marks) {name : String}
    (hname : ∀ a ∈ kept, a.name ≠ name) (labels : List (String × Value)) (u : MetricUpdate) :
    (m.update name labels u).1.Keeps kept marks := by
  intro a ha
  obtain ⟨metric, hget, hmetric⟩ := h a ha
  exact ⟨metric, by rw [get?_update_of_ne (hname a ha), hget], hmetric⟩

/-- An update of a metric that the ledger does not keep appends nothing to it. -/
theorem Shows.update_other (h : m.Shows marks) {name : String}
    (hname : ∀ a ∈ accounts, a.name ≠ name) (labels : List (String × Value)) (u : MetricUpdate) :
    (m.update name labels u).1.Shows marks :=
  ⟨h.service, h.keeps.update_other hname labels u⟩

/-! ## What operations add -/

theorem Adds.refl (m : Metrics) (kept : List Account) : m.Adds m kept [] := by
  intro before h
  rw [List.append_nil]
  exact h

theorem Adds.trans (h : m.Adds m' kept marks) (h' : m'.Adds m'' kept later) :
    m.Adds m'' kept (marks ++ later) := by
  intro before hbefore
  rw [← List.append_assoc]
  exact h' _ (h _ hbefore)

/-- What is added to the accounts of routing is appended to their ledger. -/
theorem Shows.adds (h : m.Shows marks) (hadds : m.Adds m' accounts later) :
    m'.Shows (marks ++ later) := by
  obtain ⟨hservice, hkeeps⟩ := hadds marks ⟨h.service, h.keeps⟩
  exact ⟨hservice, hkeeps⟩

/-- An update of an account adds its marks, whatever was counted before. -/
theorem adds_update (m : Metrics) (hkept : Ledger.Separate kept) {a : Account} (ha : a ∈ kept)
    (key : List String) (hkey : a.labelNames.length = key.length) {labels : List (String × Value)}
    (hlabels : Metric.labelTexts labels = a.labelNames.zip key)
    (hwritable : Metric.AreWritable labels) {u : MetricUpdate} {k : ℕ} (hu : u.Adds a.kind k) :
    m.Adds (m.update a.name labels u).1 kept (List.replicate k (a.name, key)) := by
  intro before h
  exact ⟨h.service, (h.keeps.update_of_texts hkept ha key hkey hlabels hwritable hu).1⟩

section

variable (hkept : Covers kept)
include hkept

/-- Counting a decision adds its outcome. -/
theorem adds_increment_decisions (m : Metrics) (outcome : String) :
    m.Adds (m.increment decisions [("outcome", outcome)]) kept [(decisions, [outcome])] :=
  m.adds_update (a := ⟨decisions, .counter, ["outcome"]⟩) hkept.separate
    (hkept.all _ (by simp [accounts])) [outcome] rfl rfl
    (Metric.areWritable_zip_text ["outcome"] [outcome]) .one

/-- Counting a problem with an answer adds its code. -/
theorem adds_increment_validationFailures (m : Metrics) (code : String) :
    m.Adds (m.increment validationFailures [("error_code", code)]) kept
      [(validationFailures, [code])] :=
  m.adds_update (a := ⟨validationFailures, .counter, ["error_code"]⟩) hkept.separate
    (hkept.all _ (by simp [accounts])) [code] rfl rfl
    (Metric.areWritable_zip_text ["error_code"] [code]) .one

/-- Recording an error of this service adds the text of its code, if it has one. -/
theorem adds_recordError (m : Metrics) (code : Value) :
    m.Adds (m.recordError code .null).1 kept (Ledger.ofError code) := by
  intro before h
  have hservice : m.serviceOr .null = .text routingService := by rw [← h.service]; rfl
  unfold Metrics.recordError Ledger.ofError
  rw [hservice]
  have hwritable : Metric.AreWritable [("error_type", code), ("service", .text routingService)] ↔
      code.isWritable = true := by
    simp [Metric.AreWritable, Value.isWritable]
  split_ifs with hcode
  · exact m.adds_update (a := ⟨errors, .counter, ["error_type", "service"]⟩) hkept.separate
      (hkept.all _ (by simp [accounts])) [code.toText, routingService] rfl rfl
      (hwritable.mpr hcode) .one before h
  · rw [m.update_of_not_areWritable errors (hwritable.not.mpr hcode), List.append_nil]
    exact h

/-- Recording a business event of this service adds it. -/
theorem adds_recordEvent (m : Metrics) (event : String) :
    m.Adds (m.recordEvent (.text event) .null).1 kept
      [(businessEvents, [event, routingService])] := by
  intro before h
  have hservice : m.serviceOr .null = .text routingService := by rw [← h.service]; rfl
  unfold Metrics.recordEvent
  rw [hservice]
  exact m.adds_update (a := ⟨businessEvents, .counter, ["event_type", "service"]⟩) hkept.separate
    (hkept.all _ (by simp [accounts])) [event, routingService] rfl rfl
    (Metric.areWritable_zip_text ["event_type", "service"] [event, routingService]) .one before h

end

/-- Recording an error of this service marks its code. -/
theorem Shows.recordError (h : m.Shows marks) (code : String) :
    (m.recordError (.text code) .null).1.Shows (marks ++ [(errors, [code, routingService])]) :=
  h.adds (adds_recordError Ledger.covers_accounts m (.text code))

/-- Recording a request leaves the ledger as it is. -/
theorem Shows.recordRequest (h : m.Shows marks) (method endpoint status duration : Value) :
    (m.recordRequest method endpoint status duration).1.Shows marks := by
  have hrequests : ∀ a ∈ accounts, a.name ≠ requests := by decide
  have hduration : ∀ a ∈ accounts, a.name ≠ requestDuration := by decide
  have hcounted := h.update_other hrequests
    [("method", method), ("endpoint", endpoint), ("status_code", status)] (.add (.int 1))
  unfold Metrics.recordRequest
  generalize m.update requests [("method", method), ("endpoint", endpoint), ("status_code", status)]
    (.add (.int 1)) = counted at hcounted ⊢
  obtain ⟨counted, e⟩ := counted
  -- The duration is observed unless counting the request failed.
  cases e with
  | some e => exact hcounted
  | none => exact hcounted.update_other hduration _ _

/-- Recording a check of the health leaves the ledger as it is. -/
theorem Shows.recordHealth (h : m.Shows marks) (status : Value) :
    (m.recordHealth status).1.Shows marks :=
  h.update_other (by decide) _ _

end Metrics

end FormRouting
