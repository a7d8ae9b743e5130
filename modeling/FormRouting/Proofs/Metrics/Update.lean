import FormRouting.Metrics.Basic
import Mathlib.Data.List.Nodup
import Mathlib.Data.Nat.Notation
import Mathlib.Tactic.SplitIfs

/-!
# What an update counts

What a series has counted (`Series.Measures`), and what the updates that the service makes add to it
(`MetricUpdate.Adds`). `Metric.seriesAt_update` says which series an update of a metric goes to: the
one with the given values of the labels, while every other one stays as it is.
`Metrics.get?_update` and `Metrics.get?_update_of_ne` say the same of all metrics.
-/

namespace FormRouting

/-! ## Series -/

/-- A series of a kind has counted a number: it is the total of a counter, and how many quantities a
histogram has observed. -/
inductive Series.Measures : MetricKind → Series → ℕ → Prop where
  | counter (n : ℕ) : Measures .counter (.counter (.whole n)) n
  | histogram {h : Histogram} (hcounts : h.counts ≠ []) : Measures .histogram (.histogram h) h.count

/-- A new counter or histogram has counted nothing. -/
theorem Series.measures_initial {kind : MetricKind} (h : kind ≠ .info) :
    Measures kind (.initial kind) 0 := by
  cases kind with
  | info => exact absurd rfl h
  | counter => exact .counter 0
  | histogram =>
    have hempty : Histogram.empty.count = 0 := by decide
    rw [← hempty]
    exact .histogram (by decide)

/-- A series has counted one number only. -/
theorem Series.Measures.unique {kind : MetricKind} {s : Series} {m n : ℕ} (hm : Measures kind s m)
    (hn : Measures kind s n) : m = n := by
  cases hm with
  | counter m =>
    cases hn with
    | counter n => rfl
  | histogram hm =>
    cases hn with
    | histogram hn => rfl

/-- Zero falls into the first bucket. -/
theorem Histogram.count_observeReal_zero {h : Histogram} (hcounts : h.counts ≠ []) :
    (h.observeReal .zero).counts ≠ [] ∧ (h.observeReal .zero).count = h.count + 1 := by
  obtain ⟨counts, sum⟩ := h
  cases counts with
  | nil => exact absurd rfl hcounts
  | cons n rest =>
    -- The first bound is above zero, so the other buckets are not looked at.
    have hfirst : (Histogram.observeReal ⟨n :: rest, sum⟩ .zero).counts = (n + 1) :: rest := by
      unfold observeReal bounds decimalBounds
      rw [List.map_cons, List.cons_append, countIn, if_pos (by decide +kernel)]
    unfold count
    rw [hfirst]
    refine ⟨by simp, ?_⟩
    rw [List.foldr_cons, List.foldr_cons]
    omega

/-- An update of a metric of some kind that adds a number to what is counted. -/
inductive MetricUpdate.Adds : MetricUpdate → MetricKind → ℕ → Prop where
  | one : Adds (.add (.int 1)) .counter 1
  | several (n : ℕ) : Adds (.addCount n) .counter n
  | observed : Adds (.observe (.real .zero)) .histogram 1

theorem MetricUpdate.Adds.fits {u : MetricUpdate} {kind : MetricKind} {k : ℕ}
    (h : u.Adds kind k) : u.fits kind = true := by
  cases h <;> rfl

/-- Such an update is taken, and adds its number. -/
theorem MetricUpdate.Adds.apply {u : MetricUpdate} {kind : MetricKind} {k : ℕ} (h : u.Adds kind k)
    {s : Series} {n : ℕ} (hs : Series.Measures kind s n) :
    ∃ s', u.apply s = .ok s' ∧ Series.Measures kind s' (n + k) := by
  cases h with
  | one =>
    cases hs with
    | counter n =>
      -- One is not negative, and it can be added as it is a number that the total can hold.
      have hone : ¬(Binary64.ofInt? 1).isNone = true := by decide +kernel
      have hadd : Total.addInt (.whole n) 1 = .ok (.whole (n + 1)) := by
        unfold Total.addInt
        rw [if_neg (by decide), if_neg hone]
        rfl
      refine ⟨_, ?_, .counter (n + 1)⟩
      show (Total.addInt (.whole n) 1).map Series.counter = _
      rw [hadd]
      rfl
  | several k =>
    cases hs with
    | counter n => exact ⟨_, rfl, .counter (n + k)⟩
  | observed =>
    cases hs with
    | @histogram h hcounts =>
      obtain ⟨hne, hcount⟩ := Histogram.count_observeReal_zero hcounts
      refine ⟨_, rfl, ?_⟩
      rw [← hcount]
      exact .histogram hne

/-! ## The series of one metric -/

namespace Metric

/-- The series with the given values of the labels, at its beginning if there is none yet. -/
def seriesAt (m : Metric) (key : List String) : Series :=
  (m.series.lookup key).getD (.initial m.kind)

/-- The series of a new metric are at their beginning. -/
theorem seriesAt_initial (name : String) (kind : MetricKind) (labelNames key : List String) :
    (initial name kind labelNames).seriesAt key = .initial kind := by
  unfold initial seriesAt
  dsimp only
  split_ifs
  · rw [List.lookup_cons]
    cases key == [] <;> rfl
  · rfl

/-- Mentioning a combination of values keeps the name, the kind and the labels of a metric. -/
theorem exists_series_touch (m : Metric) (key : List String) :
    ∃ series, m.touch key = { m with series } := by
  unfold touch
  split_ifs
  · exact ⟨m.series, rfl⟩
  · exact ⟨_, rfl⟩

/-- Mentioning a combination of values changes no series. -/
theorem seriesAt_touch (m : Metric) (key k : List String) :
    (m.touch key).seriesAt k = m.seriesAt k := by
  unfold touch
  split_ifs with h
  · rfl
  · unfold seriesAt
    rw [List.lookup_append]
    cases hk : m.series.lookup k with
    | some s => rfl
    | none =>
      -- What is mentioned for the first time stands at its beginning, as it does before.
      rw [Option.none_or, List.lookup_cons]
      cases k == key <;> rfl

/-- After it was mentioned, a combination of values has a series. -/
theorem isSome_lookup_touch (m : Metric) (key : List String) :
    ((m.touch key).series.lookup key).isSome = true := by
  unfold touch
  split_ifs with h
  · exact h
  · rw [List.lookup_append, List.lookup_cons, beq_self_eq_true]
    simp

/-- Replacing a series puts the new one in its place and leaves the others. -/
theorem lookup_replace (key k : List String) (s : Series) (entries : List (List String × Series)) :
    (entries.map fun e => if e.1 = key then (key, s) else e).lookup k =
      if k = key then (entries.lookup k).map fun _ => s else entries.lookup k := by
  induction entries with
  | nil => simp
  | cons e rest ih =>
    rw [List.map_cons, List.lookup_cons, ih, List.lookup_cons]
    by_cases he : e.1 = key
    · rw [if_pos he, he]
      by_cases hk : k = key
      · simp [hk]
      · simp [hk, beq_false_of_ne hk]
    · rw [if_neg he]
      by_cases hk : k = key
      · have hne : (key == e.1) = false := beq_false_of_ne (Ne.symm he)
        simp [hk, hne]
      · cases hke : k == e.1 <;> simp [hk]

/-- What an update does to the series with some values of the labels: the series is mentioned, and
then the update is refused, or what it makes of the series is put in its place. -/
theorem updateSeries_ends (m : Metric) (key : List String) (u : MetricUpdate) :
    (∃ e, m.updateSeries key u = (m.touch key, some e) ∧
        ∀ s, u.fits m.kind = true → u.apply (m.seriesAt key) ≠ .ok s) ∨
      ∃ s, u.fits m.kind = true ∧ u.apply (m.seriesAt key) = .ok s ∧
        m.updateSeries key u = ((m.touch key).replace key s, none) := by
  have hkind : (m.touch key).kind = m.kind := by
    obtain ⟨series, h⟩ := m.exists_series_touch key
    rw [h]
  have hcurrent : ((m.touch key).series.lookup key).getD (.initial (m.touch key).kind) =
      m.seriesAt key := seriesAt_touch m key key
  unfold updateSeries
  dsimp only
  rw [hcurrent, hkind]
  by_cases hfits : u.fits m.kind = true
  · rw [if_pos hfits]
    cases happly : u.apply (m.seriesAt key) with
    | ok s => exact .inr ⟨s, hfits, rfl, rfl⟩
    | error e => exact .inl ⟨e, rfl, fun s _ h => by cases h⟩
  · rw [if_neg hfits]
    exact .inl ⟨_, rfl, fun s h => absurd h hfits⟩

theorem exists_series_updateSeries (m : Metric) (key : List String) (u : MetricUpdate) :
    ∃ series, (m.updateSeries key u).1 = { m with series } := by
  obtain ⟨series, h⟩ := m.exists_series_touch key
  rcases m.updateSeries_ends key u with ⟨e, hends, -⟩ | ⟨s, -, -, hends⟩
  · rw [hends, h]
    exact ⟨series, rfl⟩
  · rw [hends, h]
    exact ⟨_, rfl⟩

/-- A metric whose series are updated keeps its name, its kind and its labels. -/
theorem exists_series_update (m : Metric) (labels : List (String × Value)) (u : MetricUpdate) :
    ∃ series, (m.update labels u).1 = { m with series } := by
  unfold update
  split_ifs
  · exact m.exists_series_updateSeries [] u
  · exact ⟨m.series, rfl⟩
  · exact ⟨m.series, rfl⟩
  · split
    · exact m.exists_series_updateSeries _ u
    · exact ⟨m.series, rfl⟩

theorem update_name (m : Metric) (labels : List (String × Value)) (u : MetricUpdate) :
    (m.update labels u).1.name = m.name := by
  obtain ⟨series, h⟩ := m.exists_series_update labels u
  rw [h]

/-- An update that is taken puts the series after it in the place of the one before. -/
theorem updateSeries_eq (m : Metric) (key : List String) {u : MetricUpdate} {s : Series}
    (hfits : u.fits m.kind = true) (happly : u.apply (m.seriesAt key) = .ok s) :
    m.updateSeries key u = ((m.touch key).replace key s, none) := by
  rcases m.updateSeries_ends key u with ⟨e, -, hrefused⟩ | ⟨s', -, happly', hends⟩
  · exact absurd happly (hrefused s hfits)
  · rw [hends, Except.ok.inj (happly.symm.trans happly')]

/-- An update that is taken goes to the series with the given values of the labels and to no
other. -/
theorem seriesAt_updateSeries (m : Metric) (key : List String) {u : MetricUpdate} {s : Series}
    (hfits : u.fits m.kind = true) (happly : u.apply (m.seriesAt key) = .ok s) (k : List String) :
    (m.updateSeries key u).1.seriesAt k = if k = key then s else m.seriesAt k := by
  rw [m.updateSeries_eq key hfits happly]
  show (((m.touch key).replace key s).series.lookup k).getD (.initial (m.touch key).kind) = _
  unfold replace
  dsimp only
  rw [lookup_replace]
  split_ifs with hk
  · -- The series was mentioned first, so there is one to replace.
    obtain ⟨current, hlookup⟩ := Option.isSome_iff_exists.mp (isSome_lookup_touch m key)
    rw [hk, hlookup]
    rfl
  · exact seriesAt_touch m key k

/-! ## Labels -/

/-- Labels with the names in order are looked up in order. -/
theorem map_lookup_zip {names : List String} (distinct : names.Nodup) {key : List String}
    (h : names.length = key.length) :
    (names.map fun name => (((names.zip (key.map Value.text)).lookup name).getD .null).toText) =
      key := by
  induction names generalizing key with
  | nil => exact (List.length_eq_zero_iff.mp h.symm).symm
  | cons name names ih =>
    cases key with
    | nil => simp at h
    | cons s key =>
      -- The first name is looked up in front; no other name is equal to it.
      obtain ⟨hnew, distinct⟩ := List.nodup_cons.mp distinct
      rw [List.map_cons, List.map_cons, List.zip_cons_cons, List.lookup_cons, beq_self_eq_true]
      have hrest := @ih distinct key (by simpa using h)
      refine congrArg₂ _ rfl (Eq.trans (List.map_congr_left fun other hother => ?_) hrest)
      have hne : other ≠ name := by
        rintro rfl
        exact hnew hother
      rw [List.lookup_cons, beq_false_of_ne hne]

/-- The names of labels with the texts of their values. -/
def labelTexts (labels : List (String × Value)) : List (String × String) :=
  labels.map fun label => (label.1, label.2.toText)

theorem lookup_labelTexts (labels : List (String × Value)) (name : String) :
    (labelTexts labels).lookup name = (labels.lookup name).map Value.toText := by
  induction labels with
  | nil => rfl
  | cons label rest ih =>
    unfold labelTexts at ih ⊢
    rw [List.map_cons, List.lookup_cons, List.lookup_cons, ih]
    cases name == label.1 <;> rfl

/-- The values of labels can all be written. -/
def AreWritable (labels : List (String × Value)) : Prop :=
  ∀ label ∈ labels, label.2.isWritable = true

theorem all_isWritable_iff {labels : List (String × Value)} :
    labels.all (·.2.isWritable) = true ↔ AreWritable labels :=
  List.all_eq_true

/-- The labels of a metric under the values of a key are texts. -/
theorem areWritable_zip_text (names key : List String) :
    AreWritable (names.zip (key.map .text)) := by
  intro label hlabel
  obtain ⟨s, -, hs⟩ := List.mem_map.mp (List.of_mem_zip hlabel).2
  rw [← hs]
  rfl

/-- An update goes by the texts of the values of the labels, if all have one. -/
theorem update_congr (m : Metric) {labels labels' : List (String × Value)}
    (h : labelTexts labels = labelTexts labels') (hwritable : AreWritable labels)
    (hwritable' : AreWritable labels') (u : MetricUpdate) :
    m.update labels u = m.update labels' u := by
  have hnames : labels.map (·.1) = labels'.map (·.1) := by
    have hfirst := congrArg (List.map (·.1)) h
    unfold labelTexts at hfirst
    rwa [List.map_map, List.map_map] at hfirst
  have hempty : labels.isEmpty = labels'.isEmpty := by
    rw [← List.isEmpty_map (f := (·.1)), hnames, List.isEmpty_map]
  have htext : ∀ name, ((labels.lookup name).getD .null).toText =
      ((labels'.lookup name).getD .null).toText := by
    intro name
    rw [← Option.getD_map Value.toText, ← Option.getD_map Value.toText, ← lookup_labelTexts,
      ← lookup_labelTexts, h]
  have hvalues : m.labelValues labels = m.labelValues labels' := by
    unfold labelValues
    simp only [hnames, htext, all_isWritable_iff.mpr hwritable, all_isWritable_iff.mpr hwritable']
  unfold update
  rw [hempty, hvalues]

/-- An update under a value that has no text is refused before anything is done. -/
theorem update_of_not_areWritable (m : Metric) {labels : List (String × Value)}
    (h : ¬AreWritable labels) (u : MetricUpdate) : m.update labels u = (m, some .labels) := by
  have hsome : ¬labels.isEmpty = true := by
    intro hempty
    rw [List.isEmpty_iff.mp hempty] at h
    exact h (List.forall_mem_nil _)
  have hvalues : m.labelValues labels = .error .labels := by
    unfold labelValues
    rw [if_neg (all_isWritable_iff.not.mpr h), ite_self, ite_self]
  unfold update
  rw [if_neg hsome, hvalues]

/-- What a metric is updated under: the values of its labels, of which there is one for each name.
-/
def labelsOf (m : Metric) (key : List String) : List (String × Value) :=
  m.labelNames.zip (key.map .text)

/-- An update under all labels of a metric goes to the series with their values. -/
theorem update_labelsOf (m : Metric) (distinct : m.labelNames.Nodup) {key : List String}
    (hkey : m.labelNames.length = key.length) {u : MetricUpdate} (hfits : u.fits m.kind = true) :
    m.update (m.labelsOf key) u = m.updateSeries key u := by
  have hnames : (m.labelsOf key).map (·.1) = m.labelNames := by
    unfold labelsOf
    rw [List.map_fst_zip (by simp [hkey])]
  unfold update
  -- A metric without labels is updated as it is, one with labels under their values.
  by_cases hnone : m.labelNames = []
  · obtain rfl : key = [] := List.length_eq_zero_iff.mp (by rw [← hkey, hnone]; rfl)
    have hempty : (m.labelsOf []).isEmpty = true := by
      unfold labelsOf
      rw [hnone]
      rfl
    rw [if_pos hempty, if_pos hfits, if_pos (List.isEmpty_iff.mpr hnone)]
  · have hsome : ¬(m.labelsOf key).isEmpty = true := by
      intro hempty
      rw [List.isEmpty_iff.mp hempty] at hnames
      exact hnone hnames.symm
    have hwritable : AreWritable (m.labelsOf key) := areWritable_zip_text _ _
    have hvalues : m.labelValues (m.labelsOf key) = .ok key := by
      unfold labelValues
      rw [if_neg (List.isEmpty_iff.not.mpr hnone), hnames, if_pos rfl,
        if_pos (all_isWritable_iff.mpr hwritable)]
      exact congrArg Except.ok (map_lookup_zip distinct hkey)
    rw [if_neg hsome, hvalues]

/-- An update under all labels of a metric that is taken goes to the series with their values and to
no other. -/
theorem seriesAt_update (m : Metric) (distinct : m.labelNames.Nodup) {key : List String}
    (hkey : m.labelNames.length = key.length) {u : MetricUpdate} {s : Series}
    (hfits : u.fits m.kind = true) (happly : u.apply (m.seriesAt key) = .ok s) (k : List String) :
    (m.update (m.labelsOf key) u).1.seriesAt k = if k = key then s else m.seriesAt k := by
  rw [m.update_labelsOf distinct hkey hfits]
  exact seriesAt_updateSeries m key hfits happly k

end Metric

/-! ## All metrics -/

namespace Metrics

variable {m : Metrics} {name : String} {labels : List (String × Value)} {u : MetricUpdate}

/-- What happens in an update, and what is refused of it, is what happens to the metric with the name
and what it refuses. -/
theorem updateIn_of_find? {metrics : List Metric} {metric : Metric}
    (h : metrics.find? (·.name == name) = some metric) :
    (updateIn name labels u metrics).1.find? (·.name == name) = some (metric.update labels u).1 ∧
      (updateIn name labels u metrics).2 = (metric.update labels u).2 := by
  induction metrics with
  | nil => simp at h
  | cons first rest ih =>
    rw [List.find?_cons] at h
    unfold updateIn
    by_cases hname : first.name = name
    · rw [beq_iff_eq.mpr hname] at h
      obtain rfl : first = metric := Option.some.inj h
      rw [if_pos hname]
      exact ⟨List.find?_cons_of_pos (by rw [first.update_name, beq_iff_eq, hname]), rfl⟩
    · rw [beq_false_of_ne hname] at h
      rw [if_neg hname, List.find?_cons_of_neg (by simpa using hname)]
      exact ih h

/-- The metric with the name that is updated is updated. -/
theorem get?_update {metric : Metric} (h : m.get? name = some metric) :
    (m.update name labels u).1.get? name = some (metric.update labels u).1 :=
  (updateIn_of_find? h).1

/-- What is refused of an update is what the metric with the name refuses. -/
theorem snd_update {metric : Metric} (h : m.get? name = some metric) :
    (m.update name labels u).2 = (metric.update labels u).2 :=
  (updateIn_of_find? h).2

/-- An update goes by the texts of the values of the labels, if all have one. -/
theorem update_congr (m : Metrics) (name : String) {labels labels' : List (String × Value)}
    (h : Metric.labelTexts labels = Metric.labelTexts labels') (hwritable : Metric.AreWritable labels)
    (hwritable' : Metric.AreWritable labels') (u : MetricUpdate) :
    m.update name labels u = m.update name labels' u := by
  have hupdate : updateIn name labels u m.metrics = updateIn name labels' u m.metrics := by
    induction m.metrics with
    | nil => rfl
    | cons first rest ih =>
      unfold updateIn
      rw [first.update_congr h hwritable hwritable', ih]
  unfold update
  rw [hupdate]

/-- An update under a value that has no text leaves all metrics as they are. -/
theorem update_of_not_areWritable (m : Metrics) (name : String) {labels : List (String × Value)}
    (h : ¬Metric.AreWritable labels) (u : MetricUpdate) : (m.update name labels u).1 = m := by
  have hupdate : (updateIn name labels u m.metrics).1 = m.metrics := by
    induction m.metrics with
    | nil => rfl
    | cons first rest ih =>
      unfold updateIn
      rw [first.update_of_not_areWritable h]
      split_ifs
      · rfl
      · exact congrArg (first :: ·) ih
  show { m with metrics := (updateIn name labels u m.metrics).1 } = m
  rw [hupdate]

/-- Metrics with other names are left as they are. -/
theorem get?_update_of_ne {other : String} (hne : other ≠ name) :
    (m.update name labels u).1.get? other = m.get? other := by
  show (updateIn name labels u m.metrics).1.find? (·.name == other) =
    m.metrics.find? (·.name == other)
  induction m.metrics with
  | nil => rfl
  | cons first rest ih =>
    unfold updateIn
    by_cases hname : first.name = name
    · -- Here the first metric is replaced, and neither it nor its successor has the other name.
      have hfirst : ¬(first.name == other) = true := by
        rw [beq_iff_eq, hname]
        exact Ne.symm hne
      have hskip : ∀ metric : Metric, metric.name = first.name →
          (metric :: rest).find? (·.name == other) = rest.find? (·.name == other) := by
        intro metric hmetric
        rw [List.find?_cons_of_neg]
        rw [hmetric]
        exact hfirst
      rw [if_pos hname, hskip first rfl]
      exact hskip _ (first.update_name labels u)
    · rw [if_neg hname, List.find?_cons, List.find?_cons, ih]

end Metrics

end FormRouting
