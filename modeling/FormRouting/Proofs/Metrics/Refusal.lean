import FormRouting.Proofs.Metrics.Update
import FormRouting.Proofs.Reading
import Mathlib.Data.List.Nodup

/-!
# Updates that may be refused

What an update does of which nothing is known: its labels may be wrong, its amount may be none, and
there may be no metric of its name. An update of a metric is refused before anything is done, or it
goes to the series that its labels name, whatever comes of it there (`Metric.update_cases`). So of all
metrics only that one series can have another value afterwards, and none has if the update is refused
(`Metrics.updated_update`).

`Metric.Kept` and `Metrics.Kept` say what every update preserves: the names, kinds and labels of the
metrics, one series for each combination of values, and that a series is of the kind of its metric.
-/

namespace FormRouting

/-! ## Kinds -/

/-- The kind of metrics that a series is of. -/
def Series.kind : Series → MetricKind
  | .info _ => .info
  | .counter _ => .counter
  | .histogram _ => .histogram

@[simp]
theorem Series.kind_initial (kind : MetricKind) : (Series.initial kind).kind = kind := by
  cases kind <;> rfl

theorem Series.kind_eq_histogram {s : Series} (h : s.kind = .histogram) : ∃ g, s = .histogram g := by
  cases s <;> first | exact ⟨_, rfl⟩ | cases h

/-- An update leaves a series of its kind. -/
theorem MetricUpdate.kind_of_apply {u : MetricUpdate} {s s' : Series} (h : u.apply s = .ok s') :
    s'.kind = s.kind := by
  unfold apply at h
  split at h
  · obtain ⟨t, -, rfl⟩ := map_eq_ok_iff.mp h
    rfl
  · obtain rfl := Except.ok.inj h
    rfl
  · obtain ⟨g, -, rfl⟩ := map_eq_ok_iff.mp h
    rfl
  · cases h

/-! ## One metric -/

namespace Metric

variable {m : Metric} {labels : List (String × Value)} {key : List String} {u : MetricUpdate}

/-- Labels name the values of a metric's labels, in whichever order. -/
structure Names (m : Metric) (labels : List (String × Value)) (key : List String) : Prop where
  length : key.length = m.labelNames.length
  perm : (labelTexts labels).Perm (m.labelNames.zip key)
  writable : AreWritable labels

/-- What is looked up under a name that only one pair has. -/
theorem lookup_of_mem {α β : Type} [BEq α] [LawfulBEq α] {entries : List (α × β)}
    (distinct : (entries.map (·.1)).Nodup) {e : α × β} (h : e ∈ entries) :
    entries.lookup e.1 = some e.2 := by
  induction entries with
  | nil => cases h
  | cons first rest ih =>
    rw [List.map_cons, List.nodup_cons] at distinct
    rw [List.lookup_cons]
    rcases List.mem_cons.mp h with rfl | hrest
    · rw [beq_self_eq_true]
    · have hne : e.1 ≠ first.1 := by
        rintro heq
        exact distinct.1 (heq ▸ List.mem_map_of_mem hrest)
      rw [beq_false_of_ne hne]
      exact ih distinct.2 hrest

/-- Labels that a metric takes name the values under which it takes them. -/
theorem names_of_labelValues (distinct : m.labelNames.Nodup) (h : m.labelValues labels = .ok key) :
    m.Names labels key := by
  unfold labelValues at h
  split_ifs at h with hnone hsorted hwritable
  obtain rfl := Except.ok.inj h
  have hperm : (labels.map (·.1)).Perm m.labelNames :=
    ((List.mergeSort_perm _ _).symm.trans (.of_eq hsorted)).trans (List.mergeSort_perm _ _)
  refine ⟨List.length_map _, ?_, all_isWritable_iff.mp hwritable⟩
  -- Each label is found under its name, so its text is the one that is looked up there.
  have htexts : labelTexts labels = (labels.map (·.1)).map fun name =>
      (name, ((labels.lookup name).getD .null).toText) := by
    rw [labelTexts, List.map_map]
    refine List.map_congr_left fun label hlabel => ?_
    rw [Function.comp_apply, lookup_of_mem (hperm.nodup_iff.mpr distinct) hlabel]
    rfl
  have hzip : m.labelNames.zip (m.labelNames.map fun name =>
      ((labels.lookup name).getD .null).toText) = m.labelNames.map fun name =>
        (name, ((labels.lookup name).getD .null).toText) := by
    have h := List.zip_map' (f := id) (l := m.labelNames)
      (g := fun name => ((labels.lookup name).getD .null).toText)
    rwa [List.map_id] at h
  rw [htexts, hzip]
  exact hperm.map _

/-- An update is refused before anything is done, or it goes to the series that its labels name. -/
theorem update_cases (distinct : m.labelNames.Nodup) (labels : List (String × Value))
    (u : MetricUpdate) :
    (∃ e, m.update labels u = (m, some e)) ∨
      ∃ key, m.Names labels key ∧ m.update labels u = m.updateSeries key u := by
  unfold update
  split_ifs with hlabels hfits hnames
  · obtain rfl := List.isEmpty_iff.mp hlabels
    have hnone := List.isEmpty_iff.mp hnames
    exact .inr ⟨[], ⟨by rw [hnone], by rw [hnone]; rfl, List.forall_mem_nil _⟩, rfl⟩
  · exact .inl ⟨_, rfl⟩
  · exact .inl ⟨_, rfl⟩
  · split
    · rename_i key hkey
      exact .inr ⟨key, names_of_labelValues distinct hkey, rfl⟩
    · exact .inl ⟨_, rfl⟩

/-- What an update does to the series with some values of the labels: it is refused, and the value of
no series is another one, or it is taken there. -/
theorem updateSeries_cases (m : Metric) (key : List String) (u : MetricUpdate) :
    (∃ e, (m.updateSeries key u).2 = some e ∧
        ∀ k, (m.updateSeries key u).1.seriesAt k = m.seriesAt k) ∨
      ∃ s, u.fits m.kind = true ∧ u.apply (m.seriesAt key) = .ok s ∧
        (m.updateSeries key u).2 = none ∧
        ∀ k, (m.updateSeries key u).1.seriesAt k = if k = key then s else m.seriesAt k := by
  rcases m.updateSeries_ends key u with ⟨e, hends, -⟩ | ⟨s, hfits, happly, hends⟩
  · rw [hends]
    exact .inl ⟨e, rfl, seriesAt_touch m key⟩
  · exact .inr ⟨s, hfits, happly, by rw [hends], seriesAt_updateSeries m key hfits happly⟩

/-! ## What updates of a metric preserve -/

/-- The values of the labels of which there are series. -/
def keys (m : Metric) : List (List String) :=
  m.series.map (·.1)

/-- What every update of a metric preserves. -/
structure Kept (m : Metric) : Prop where
  labels : m.labelNames.Nodup
  distinct : m.keys.Nodup
  lengths : ∀ key ∈ m.keys, key.length = m.labelNames.length
  kinds : ∀ key, (m.seriesAt key).kind = m.kind

/-- A series that is there is the one at its values. -/
theorem seriesAt_of_mem (h : m.Kept) {e : List String × Series} (he : e ∈ m.series) :
    m.seriesAt e.1 = e.2 := by
  rw [seriesAt, lookup_of_mem h.distinct he, Option.getD_some]

/-- The series at values of which there is one is there. -/
theorem mem_of_mem_keys (h : m.Kept) (hkey : key ∈ m.keys) : (key, m.seriesAt key) ∈ m.series := by
  obtain ⟨e, he, rfl⟩ := List.mem_map.mp hkey
  rw [seriesAt_of_mem h he]
  exact he

/-- After an update there are series of the values that it mentioned besides those that there were. -/
theorem keys_updateSeries (m : Metric) (key : List String) (u : MetricUpdate) :
    (m.updateSeries key u).1.keys = if key ∈ m.keys then m.keys else m.keys ++ [key] := by
  -- An update touches the series, which adds its key if it is new, and replaces what is in it.
  have htouch : (m.touch key).keys = if key ∈ m.keys then m.keys else m.keys ++ [key] := by
    have hmem : (m.series.lookup key).isSome ↔ key ∈ m.keys := by
      rw [List.lookup_isSome_iff, keys, List.mem_map]
      simp only [beq_iff_eq, @eq_comm _ key]
    unfold touch
    simp only [hmem]
    split_ifs
    · rfl
    · rw [keys, List.map_append]
      rfl
  have hreplace : ∀ s, ((m.touch key).replace key s).keys = (m.touch key).keys := by
    intro s
    unfold replace keys
    rw [List.map_map]
    refine List.map_congr_left fun e _ => ?_
    rw [Function.comp_apply]
    split_ifs with he
    · exact he.symm
    · rfl
  rw [← htouch]
  rcases m.updateSeries_ends key u with ⟨e, hends, -⟩ | ⟨s, -, -, hends⟩
  · rw [hends]
  · rw [hends]
    exact hreplace s

theorem Kept.updateSeries (h : m.Kept) (hlength : key.length = m.labelNames.length)
    (u : MetricUpdate) : (m.updateSeries key u).1.Kept := by
  obtain ⟨series, hshape⟩ := m.exists_series_updateSeries key u
  have hnames : (m.updateSeries key u).1.labelNames = m.labelNames := by rw [hshape]
  have hkind : (m.updateSeries key u).1.kind = m.kind := by rw [hshape]
  refine ⟨hnames ▸ h.labels, ?_, ?_, fun k => ?_⟩
  · rw [keys_updateSeries]
    split_ifs with hmem
    · exact h.distinct
    · exact List.nodup_append_comm.mpr (List.nodup_cons.mpr ⟨hmem, h.distinct⟩)
  · rw [keys_updateSeries, hnames]
    split_ifs
    · exact h.lengths
    · rw [List.forall_mem_append, List.forall_mem_singleton]
      exact ⟨h.lengths, hlength⟩
  · rw [hkind]
    rcases m.updateSeries_cases key u with ⟨e, -, hsame⟩ | ⟨s, -, happly, -, hseries⟩
    · rw [hsame]
      exact h.kinds k
    · rw [hseries]
      split_ifs
      · rw [MetricUpdate.kind_of_apply happly]
        exact h.kinds key
      · exact h.kinds k

theorem Kept.update (h : m.Kept) (labels : List (String × Value)) (u : MetricUpdate) :
    (m.update labels u).1.Kept := by
  rcases update_cases h.labels labels u with ⟨e, hsame⟩ | ⟨key, hnames, hupdate⟩
  · rw [hsame]
    exact h
  · rw [hupdate]
    exact h.updateSeries hnames.length u

/-- An update removes no series. -/
theorem Kept.mem_keys_update (h : m.Kept) (hkey : key ∈ m.keys) (labels : List (String × Value))
    (u : MetricUpdate) : key ∈ (m.update labels u).1.keys := by
  rcases update_cases h.labels labels u with ⟨e, hsame⟩ | ⟨key', -, hupdate⟩
  · rw [hsame]
    exact hkey
  · rw [hupdate, keys_updateSeries]
    split_ifs
    · exact hkey
    · exact List.mem_append_left _ hkey

/-- A metric at its beginning. -/
theorem kept_initial (name : String) (kind : MetricKind) {labelNames : List String}
    (distinct : labelNames.Nodup) : (initial name kind labelNames).Kept := by
  have hkeys : (initial name kind labelNames).keys = if labelNames.isEmpty then [[]] else [] := by
    unfold initial keys
    dsimp only
    split_ifs <;> rfl
  refine ⟨distinct, ?_, ?_, fun key => ?_⟩
  · rw [hkeys]
    split_ifs <;> simp
  · rw [hkeys]
    split_ifs with hnone
    · rw [List.forall_mem_singleton]
      exact (List.length_eq_zero_iff.mpr (List.isEmpty_iff.mp hnone)).symm
    · exact List.forall_mem_nil _
  · rw [seriesAt_initial]
    exact Series.kind_initial kind

/-- What a metric is, whatever it has counted. -/
def shape (m : Metric) : String × MetricKind × List String :=
  (m.name, m.kind, m.labelNames)

theorem shape_update (m : Metric) (labels : List (String × Value)) (u : MetricUpdate) :
    (m.update labels u).1.shape = m.shape := by
  obtain ⟨series, h⟩ := m.exists_series_update labels u
  rw [h]
  rfl

end Metric

/-! ## All metrics -/

namespace Metrics

variable {m : Metrics} {service name : String} {labels : List (String × Value)} {u : MetricUpdate}
  {metric : Metric}

/-- What every update of the metrics of a service preserves. -/
structure Kept (m : Metrics) (service : String) : Prop where
  own : m.service = service
  shapes : m.metrics.map Metric.shape = (ofService service).metrics.map Metric.shape
  each : ∀ metric ∈ m.metrics, metric.Kept

theorem nodup_names_ofService (service : String) :
    ((ofService service).metrics.map (·.name)).Nodup := by
  have hcommon : (common service).map (·.name) = (common "").map (·.name) := rfl
  unfold ofService
  rw [List.map_append, hcommon]
  split_ifs
  · decide
  · decide

theorem kept_ofService (service : String) : (ofService service).Kept service := by
  have hcommon : ∀ metric ∈ common service, metric.Kept := by
    simp only [common, List.forall_mem_cons, List.not_mem_nil, false_implies, implies_true, and_true]
    refine ⟨⟨List.nodup_nil, List.nodup_singleton _, by simp [Metric.keys], fun key => ?_⟩,
      ?_, ?_, ?_, ?_, ?_⟩
    · unfold Metric.seriesAt
      rw [List.lookup_cons]
      cases key == [] <;> rfl
    all_goals exact Metric.kept_initial _ _ (by decide)
  have hrouting : ∀ metric ∈ routing, metric.Kept := by
    simp only [routing, List.forall_mem_cons, List.not_mem_nil, false_implies, implies_true, and_true]
    refine ⟨?_, ?_, ?_, ?_⟩ <;> exact Metric.kept_initial _ _ (by decide)
  refine ⟨rfl, rfl, ?_⟩
  unfold ofService
  rw [List.forall_mem_append]
  refine ⟨hcommon, ?_⟩
  split_ifs
  · exact hrouting
  · exact List.forall_mem_nil _

theorem mem_of_get? (h : m.get? name = some metric) : metric ∈ m.metrics ∧ metric.name = name :=
  ⟨List.mem_of_find?_eq_some h, by simpa using List.find?_some h⟩

/-- A metric is the one of its name. -/
theorem Kept.get?_of_mem (h : m.Kept service) (hmem : metric ∈ m.metrics) :
    m.get? metric.name = some metric := by
  have hnames : (m.metrics.map (·.name)).Nodup := by
    have hshapes := congrArg (List.map Prod.fst) h.shapes
    rw [List.map_map, List.map_map] at hshapes
    exact (congrArg List.Nodup hshapes).mpr (nodup_names_ofService service)
  obtain ⟨found, hfound⟩ : ∃ found, m.get? metric.name = some found :=
    Option.isSome_iff_exists.mp (List.find?_isSome.mpr ⟨metric, hmem, beq_self_eq_true _⟩)
  obtain ⟨hin, hname⟩ := mem_of_get? hfound
  rw [hfound, List.inj_on_of_nodup_map hnames hin hmem hname]

/-- An update of a metric that there is not does nothing. -/
theorem update_of_absent (h : m.get? name = none) (labels : List (String × Value))
    (u : MetricUpdate) : m.update name labels u = (m, none) := by
  have hupdate : updateIn name labels u m.metrics = (m.metrics, none) := by
    have hnone : ∀ metric ∈ m.metrics, metric.name ≠ name := by
      simpa [get?] using h
    generalize m.metrics = metrics at hnone
    induction metrics with
    | nil => rfl
    | cons first rest ih =>
      rw [List.forall_mem_cons] at hnone
      rw [updateIn, if_neg hnone.1, ih hnone.2]
  unfold update
  rw [hupdate]

theorem Kept.update (h : m.Kept service) (name : String) (labels : List (String × Value))
    (u : MetricUpdate) : (m.update name labels u).1.Kept service := by
  obtain ⟨hshapes, heach⟩ : (updateIn name labels u m.metrics).1.map Metric.shape =
      m.metrics.map Metric.shape ∧ ∀ metric ∈ (updateIn name labels u m.metrics).1, metric.Kept := by
    have heach := h.each
    generalize m.metrics = metrics at heach
    induction metrics with
    | nil => exact ⟨rfl, List.forall_mem_nil _⟩
    | cons first rest ih =>
      rw [List.forall_mem_cons] at heach
      rw [updateIn]
      split_ifs
      · refine ⟨?_, List.forall_mem_cons.mpr ⟨heach.1.update labels u, heach.2⟩⟩
        rw [List.map_cons, first.shape_update, List.map_cons]
      · obtain ⟨ihshapes, iheach⟩ := ih heach.2
        refine ⟨?_, List.forall_mem_cons.mpr ⟨heach.1, iheach⟩⟩
        rw [List.map_cons, ihshapes, List.map_cons]
  exact ⟨h.own, hshapes.trans h.shapes, heach⟩

/-- The series of a metric at some values of its labels. -/
def seriesAt? (m : Metrics) (name : String) (key : List String) : Option Series :=
  (m.get? name).map (·.seriesAt key)

theorem seriesAt?_of_get? (h : m.get? name = some metric) (key : List String) :
    m.seriesAt? name key = some (metric.seriesAt key) := by
  rw [seriesAt?, h, Option.map_some]

/-- What an update does to the series of all metrics. -/
inductive Updated (m : Metrics) (name : String) (labels : List (String × Value)) (u : MetricUpdate) :
    Metrics × Option MetricError → Prop where
  /-- There is no metric of the name. -/
  | absent (h : m.get? name = none) : Updated m name labels u (m, none)
  | refused {m' : Metrics} {e : MetricError}
      (hsame : ∀ other k, m'.seriesAt? other k = m.seriesAt? other k) :
      Updated m name labels u (m', some e)
  | taken {m' : Metrics} {metric : Metric} {key : List String} {s : Series}
      (hget : m.get? name = some metric) (hnames : metric.Names labels key)
      (hfits : u.fits metric.kind = true) (happly : u.apply (metric.seriesAt key) = .ok s)
      (hseries : ∀ other k, m'.seriesAt? other k =
        if other = name ∧ k = key then some s else m.seriesAt? other k) :
      Updated m name labels u (m', none)

theorem updated_update (h : m.Kept service) (name : String) (labels : List (String × Value))
    (u : MetricUpdate) : m.Updated name labels u (m.update name labels u) := by
  cases hget : m.get? name with
  | none =>
    rw [update_of_absent hget]
    exact .absent hget
  | some metric =>
    -- What the update does is what it does to this one metric.
    have hat : ∀ other k, (m.update name labels u).1.seriesAt? other k =
        if other = name then some ((metric.update labels u).1.seriesAt k)
        else m.seriesAt? other k := by
      intro other k
      unfold seriesAt?
      split_ifs with hname
      · rw [hname, get?_update hget, Option.map_some]
      · rw [get?_update_of_ne hname]
    have hbefore := seriesAt?_of_get? hget
    have hsnd : (m.update name labels u).2 = (metric.update labels u).2 := snd_update hget
    generalize m.update name labels u = after at hat hsnd ⊢
    obtain ⟨m', e⟩ := after
    obtain rfl : e = _ := hsnd
    have hrefused : (∀ k, (metric.update labels u).1.seriesAt k = metric.seriesAt k) →
        ∀ other k, m'.seriesAt? other k = m.seriesAt? other k := by
      intro hsame other k
      rw [hat]
      split_ifs with hname
      · rw [hname, hbefore, hsame]
      · rfl
    rcases Metric.update_cases (h.each metric (mem_of_get? hget).1).labels labels u with
      ⟨e, hsame⟩ | ⟨key, hnames, hupdate⟩
    · rw [hsame] at hrefused ⊢
      exact .refused (hrefused fun _ => rfl)
    · rw [hupdate] at hrefused hat ⊢
      rcases metric.updateSeries_cases key u with ⟨e, he, hsame⟩ | ⟨s, hfits, happly, he, hseries⟩
      · rw [he]
        exact .refused (hrefused hsame)
      · rw [he]
        refine .taken hget hnames hfits happly fun other k => ?_
        rw [hat]
        by_cases hname : other = name
        · rw [if_pos hname, hseries, hname, hbefore]
          split_ifs <;> simp_all
        · rw [if_neg hname, if_neg fun hboth => hname hboth.1]

/-- There is a series of a metric for some values of its labels. -/
def Has (m : Metrics) (name : String) (key : List String) : Prop :=
  ∃ metric, m.get? name = some metric ∧ key ∈ metric.keys

/-- An update removes no series. -/
theorem Has.update {other : String} {key : List String} (h : m.Has other key) (hkept : m.Kept service)
    (name : String) (labels : List (String × Value)) (u : MetricUpdate) :
    (m.update name labels u).1.Has other key := by
  obtain ⟨metric, hget, hkey⟩ := h
  by_cases hname : other = name
  · subst hname
    have hmetric := hkept.each metric (mem_of_get? hget).1
    exact ⟨_, get?_update hget, hmetric.mem_keys_update hkey labels u⟩
  · exact ⟨metric, by rw [get?_update_of_ne hname, hget], hkey⟩

end Metrics

end FormRouting
