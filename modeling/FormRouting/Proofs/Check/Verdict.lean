import FormRouting.Proofs.Check.Load
import FormRouting.Proofs.Check.Malformed

/-!
# The verdict of a check

The check of a document ends with status zero exactly when its definitions are sound: each of them is
flawless by itself, and their slugs have texts, of which no two are the same (`Check.Sound`). Whether
it comes to an end at all is another matter; it does when the definitions can be written and their
records fail only in ways that the check reports (`Check.Reportable`), and then what is not sound ends
with status one. `verdict_is_exact` says both. A slug with too many digits to be written ends the
check of a definition that is flawless (`flawless_definition_is_not_passed`).
-/

namespace FormRouting

/-! ## Documents -/

/-- Definitions are listed in a document, alone or under the name `forms`. -/
inductive Definitions.ListedIn (definitions : List Value) : Value → Prop where
  | alone : ListedIn definitions (.list definitions)
  | named {entries : List (Value × Value)}
      (h : Value.lookup "forms" entries = some (.list definitions)) :
      ListedIn definitions (.map entries)

/-- What a document lists are its definitions. -/
theorem Definitions.ListedIn.ofDocument? {definitions : List Value} {d : Value}
    (h : ListedIn definitions d) : ofDocument? d = some definitions := by
  cases h with
  | alone =>
    -- The empty list does not count as true, and the mapping in its place lists nothing either.
    cases definitions <;> rfl
  | @named entries h =>
    cases entries with
    | nil => cases h
    | cons e rest =>
      have htruthy : (Value.map (e :: rest)).orElse (.map []) = .map (e :: rest) := rfl
      unfold Definitions.ofDocument?
      rw [htruthy]
      dsimp only
      rw [Value.fieldOr_of_lookup h]

namespace Check

/-! ## Slugs -/

/-- A definition has a slug, with the given text. -/
def HasSlug (definition : Value) (slug : String) : Prop :=
  ∃ entries v, definition = .map entries ∧ Value.lookup "slug" entries = some v ∧
    v.readText = .ok slug

/-- Flawless definitions are named by their slugs. -/
theorem namedFrom_iff {index : ℕ} {definitions : List Value} {names : List String}
    (h : ∀ d ∈ definitions, ∃ entries qs rs, d = .map entries ∧ Flawless entries qs rs) :
    NamedFrom index definitions names ↔ List.Forall₂ HasSlug definitions names := by
  induction definitions generalizing index names with
  | nil => rw [NamedFrom, List.forall₂_nil_left_iff]
  | cons d rest ih =>
    rw [List.forall_mem_cons] at h
    obtain ⟨⟨entries, qs, rs, rfl, hflawless⟩, hrest⟩ := h
    obtain ⟨v, hslug, hname⟩ := hflawless.slug
    have hfirst (name : String) :
        nameOf index (.map entries) = .ok name ↔ HasSlug (.map entries) name := by
      rw [hname]
      constructor
      · exact fun hread => ⟨entries, v, rfl, hslug, hread⟩
      · rintro ⟨entries', v', hentries, hslug', hread⟩
        obtain rfl := Value.map.inj hentries
        rwa [Option.some.inj (hslug.symm.trans hslug')]
    rw [NamedFrom, List.forall₂_cons_left_iff]
    simp only [hfirst, ih hrest]

/-! ## The verdict -/

/-- The definitions of a document are sound: each is flawless, and their slugs have texts, which are
distinct. -/
structure Sound (definitions : List Value) : Prop where
  flawless : ∀ d ∈ definitions, ∃ entries questions rules,
    d = .map entries ∧ Flawless entries questions rules
  distinctSlugs : ∃ slugs, List.Forall₂ HasSlug definitions slugs ∧ slugs.Nodup

/-- A definition and the records that it lists are mappings, and those that do not read as questions
or rules fail with what the check reports: a fault of the definition, or the refusal of a rule. -/
structure Reportable (definition : Value) : Prop where
  lists : ∃ entries questionRecords ruleRecords, definition = .map entries ∧
    Form.listed entries "questions" = .ok questionRecords ∧
    Form.listed entries "rules" = .ok ruleRecords ∧
    (∀ record ∈ questionRecords, (∃ fields, record = .map fields) ∧
      ∀ e, Question.ofRecord record = .error e → e.isDefinitionFault = true) ∧
    ∀ record ∈ ruleRecords, (∃ fields, record = .map fields) ∧
      ∀ e, Rule.ofRecord record ≠ .error (.unreadable e)

section

variable {entries : List (Value × Value)} {questionRecords records : List Value}

/-- A question whose record can be written ends the check only at an infinite place in the order,
which is no fault that the check reports. -/
theorem not_questionStops (hwritable : (Value.map entries).isWritable = true)
    (hfault : ∀ e, Question.ofRecord (.map entries) = .error e → e.isDefinitionFault = true) :
    ¬QuestionStops entries := by
  intro hstops
  cases hstops with
  | overflows h =>
    obtain ⟨e, he, hunforeseen⟩ := Question.unforeseen_ofRecord_map_iff.mpr h
    rw [hfault e he] at hunforeseen
    cases hunforeseen
  | id h =>
    rw [Value.isWritable_field hwritable "id"] at h
    cases h

/-- Rules that were read from records which can be written have ids that can be. -/
theorem isWritable_of_mem_rulesOf (hrecords : ∀ record ∈ records, ∃ fields, record = .map fields)
    (hwritable : ∀ record ∈ records, record.isWritable = true) :
    ∀ r ∈ Form.rulesOf records, IntegerText.isWritable r.id = true := by
  intro r hr
  obtain ⟨record, hmem, hread⟩ := List.mem_filterMap.mp hr
  obtain ⟨fields, rfl⟩ := hrecords record hmem
  cases hrecord : Rule.ofRecord (.map fields) with
  | error e =>
    rw [hrecord] at hread
    cases hread
  | ok kept =>
    rw [hrecord] at hread
    obtain rfl := Option.some.inj hread
    exact (Rule.isWritable_of_ofRecord hrecord (hwritable _ hmem)).1

end

theorem Reportable.not_wayward {definition : Value} (h : Reportable definition)
    (hwritable : definition.isWritable = true) : ¬Wayward definition := by
  obtain ⟨entries, questionRecords, ruleRecords, rfl, hquestions, hrules, hread, hkept⟩ := h.lists
  -- Records that are listed in what can be written can be written, and so can their rules' ids.
  have hlisted {key : String} {records : List Value} (hrecords : Form.listed entries key = .ok records) :
      ∀ record ∈ records, record.isWritable = true := by
    refine Value.isWritable_of_members hrecords ?_
    unfold Value.orElse
    split_ifs
    · exact Value.isWritable_field hwritable key
    · rfl
  have hids := isWritable_of_mem_rulesOf (fun record hmem => (hkept record hmem).1) (hlisted hrules)
  intro hwayward
  cases hwayward with
  | noRecord h => exact h entries rfl
  | slug hslug h =>
    have hfield := Value.isWritable_field hwritable "slug"
    rw [Value.field, Value.fieldOr_of_lookup hslug, h] at hfield
    cases hfield
  | unlisted hkey h =>
    rcases List.mem_pair.mp hkey with rfl | rfl
    · exact h _ hquestions
    · exact h _ hrules
  | question hlisted' hmem h =>
    obtain rfl := Except.ok.inj (hquestions.symm.trans hlisted')
    obtain ⟨⟨fields, rfl⟩, hfault⟩ := hread _ hmem
    rw [Value.noRecordOr_map_iff] at h
    exact not_questionStops (hlisted hquestions _ hmem) hfault h
  | rule hlisted' hmem h =>
    obtain rfl := Except.ok.inj (hrules.symm.trans hlisted')
    obtain ⟨⟨fields, rfl⟩, hrefused⟩ := hkept _ hmem
    rw [Value.noRecordOr_map_iff, ← Rule.ofRecord_eq_unreadable_iff] at h
    obtain ⟨e, he⟩ := h
    exact hrefused e he
  | repeated hlisted' h =>
    obtain rfl := Except.ok.inj (hrules.symm.trans hlisted')
    have hnone : unwritableIds ruleRecords = [] := by
      rw [unwritableIds, List.filter_eq_nil_iff, List.forall_mem_map]
      intro r hr
      simp [hids r hr]
    exact h (hnone ▸ .nil)
  | dangling hlisted' hlisted'' hmem h =>
    obtain rfl := Except.ok.inj (hrules.symm.trans hlisted'')
    obtain ⟨r, hr, rfl⟩ := List.mem_map.mp hmem
    have hr := List.mem_mergeSort.mp (List.mem_filter.mp hr).1
    rw [hids r hr] at h
    cases h

/-- The verdict of a check is exact. It ends with status zero exactly when the definitions that the
document lists are sound: each has an id, a slug and a title, its records read as questions and rules
with distinct ids, what offers a choice has options, every rule names a question, and the slugs have
distinct texts. When the definitions can be written and their records fail only in ways that the check
reports, anything else ends with status one. -/
theorem verdict_is_exact (path : String) (d : Value) (definitions : List Value)
    (hlists : Definitions.ListedIn definitions d) :
    ((∃ report, document path d = .ok report ∧ report.exitStatus = 0) ↔ Sound definitions) ∧
      ((∀ definition ∈ definitions, Reportable definition ∧ definition.isWritable = true) →
        ¬Sound definitions → ∃ report, document path d = .ok report ∧ report.exitStatus = 1) := by
  have hlisted := hlists.ofDocument?
  have hzero : (∃ report, document path d = .ok report ∧ report.exitStatus = 0) ↔
      Sound definitions := by
    rw [clean_iff]
    simp only [hlisted, Option.some.injEq, exists_eq_left', definition_eq_nil_iff]
    constructor
    · rintro ⟨hflawless, names, hnames, hdistinct⟩
      exact ⟨hflawless, names, (namedFrom_iff hflawless).mp hnames, hdistinct⟩
    · rintro ⟨hflawless, slugs, hslugs, hdistinct⟩
      exact ⟨hflawless, slugs, (namedFrom_iff hflawless).mpr hslugs, hdistinct⟩
  refine ⟨hzero, fun hreportable hnot => ?_⟩
  -- The check comes to an end, with status zero or one, and it is not zero.
  have hends : ∃ report, document path d = .ok report ∧
      (report.exitStatus = 0 ∨ report.exitStatus = 1) := by
    rw [exists_report_iff]
    intro definitions' h
    obtain rfl := Option.some.inj (hlisted.symm.trans h)
    exact fun definition hmem =>
      (hreportable definition hmem).1.not_wayward (hreportable definition hmem).2
  obtain ⟨report, hreport, hstatus⟩ := hends
  refine ⟨report, hreport, hstatus.resolve_left fun hclean => ?_⟩
  exact hnot (hzero.mp ⟨report, hreport, hclean⟩)

/-- The definition of another form that asks nothing, whose slug is the same text. -/
def nothingAskedEither : Value :=
  Value.record [("id", .int 3), ("slug", .text "2"), ("title", .text "Nothing")]

/-- Definitions with distinct slugs end the check with status zero. Two whose slugs are a number and
its text end it with status one. -/
theorem verdict_is_exact_slugs :
    let apart : Value := .list [intake, nothingAsked]
    let together : Value := Value.record [("forms", .list [nothingAsked, nothingAskedEither])]
    (∃ report, document "forms.yaml" apart = .ok report ∧ report.exitStatus = 0) ∧
      Sound [intake, nothingAsked] ∧
      (∀ definition ∈ [nothingAsked, nothingAskedEither],
        Reportable definition ∧ definition.isWritable = true) ∧
      ¬Sound [nothingAsked, nothingAskedEither] ∧
      ∃ report, document "forms.yaml" together = .ok report ∧ report.exitStatus = 1 := by
  intro apart together
  have hzero : ∃ report, document "forms.yaml" apart = .ok report ∧ report.exitStatus = 0 :=
    ⟨[("intake", []), ("2", [])], by cbv, rfl⟩
  have hsound := (verdict_is_exact "forms.yaml" apart _ .alone).1.mp hzero
  have hreportable : ∀ definition ∈ [nothingAsked, nothingAskedEither],
      Reportable definition ∧ definition.isWritable = true := by
    intro definition h
    rcases List.mem_pair.mp h with rfl | rfl
    · exact ⟨⟨_, [], [], rfl, rfl, rfl, by simp, by simp⟩, by decide⟩
    · exact ⟨⟨_, [], [], rfl, rfl, rfl, by simp, by simp⟩, by decide⟩
  have hnot : ¬Sound [nothingAsked, nothingAskedEither] := by
    rintro ⟨-, slugs, hslugs, hdistinct⟩
    obtain ⟨_, _, ⟨_, v, hentries, hslug, hread⟩, hrest, rfl⟩ :=
      List.forall₂_cons_left_iff.mp hslugs
    obtain ⟨_, _, ⟨_, v', hentries', hslug', hread'⟩, -, rfl⟩ :=
      List.forall₂_cons_left_iff.mp hrest
    obtain rfl := Value.map.inj hentries
    obtain rfl := Value.map.inj hentries'
    obtain rfl : .int 2 = v := Option.some.inj hslug
    obtain rfl : .text "2" = v' := Option.some.inj hslug'
    rw [← (Value.readText_eq_ok_iff.mp hread).2, ← (Value.readText_eq_ok_iff.mp hread').2]
      at hdistinct
    exact (List.nodup_cons.mp hdistinct).1 (List.mem_cons_self ..)
  exact ⟨hzero, hsound, hreportable, hnot,
    (verdict_is_exact "forms.yaml" together _ (.named rfl)).2 hreportable hnot⟩

/-- The only definition of a document is flawless, and its records fail in no way, as it has none;
but its slug has too many digits to be written, and the check ends without a status. -/
theorem flawless_definition_is_not_passed :
    let long : Value := plain (.int (10 ^ IntegerText.digitLimit))
    (∃ entries, long = .map entries ∧ Flawless entries [] []) ∧ Reportable long ∧
      document "forms.yaml" (.list [long]) = .error .unwritable := by
  intro long
  have hlong : (Value.int (10 ^ IntegerText.digitLimit)).isWritable = false := by
    rw [Value.isWritable_int, IntegerText.not_isWritable_ten_pow]
  exact ⟨flawless_plain _, ⟨_, [], [], rfl, rfl, rfl, by simp, by simp⟩, document_plain hlong⟩

end Check

end FormRouting
