import FormRouting.Proofs.Check.Report
import Mathlib

/-!
# Loading what the check passed

The check of a document and the loading of its forms read the same records, each on its own. A
document that passes the check is loaded without a report, one form for each definition and with
every question and rule of it, if only the ids of its definitions stand for integers
(`load_of_clean_check`). The check looks for the id and does not read it, so a definition with
another id passes and then keeps every form of the document from being loaded
(`load_fails_after_clean_check`).
-/

namespace FormRouting.Check

/-- The id of a definition stands for an integer. -/
def HasIntegerId (definition : Value) : Prop :=
  ∃ entries id n, definition = .map entries ∧ Value.lookup "id" entries = some id ∧
    id.toInteger = .ok n

/-- A form is built from a definition without a report, and keeps every question record and every
rule record of it. -/
def Keeps (definition : Value) (form : Form) : Prop :=
  Form.ofDefinition definition = ([], .ok form) ∧
    ∃ entries, definition = .map entries ∧ Form.ReadsAs entries form.questions form.rules

/-! ## One definition -/

theorem readInteger_eq_ok_iff {v : Value} {n : Int} : v.readInteger = .ok n ↔ v.toInteger = .ok n :=
  mapError_eq_ok_iff

section

variable {entries : List (Value × Value)} {questions : List Question} {rules : List Rule}

/-- A flawless definition has a slug, whose text names it in a report. -/
theorem Flawless.slug (h : Flawless entries questions rules) :
    ∃ slug, Value.lookup "slug" entries = some slug ∧
      ∀ index, nameOf index (.map entries) = slug.readText := by
  obtain ⟨slug, hslug⟩ := Option.isSome_iff_exists.mp (h.needed "slug" (by decide))
  refine ⟨slug, hslug, fun index => ?_⟩
  change (Value.fieldOr entries "slug" _).readText = _
  rw [Value.fieldOr_of_lookup hslug]

/-- A flawless definition with an id that stands for an integer is built, with all its questions and
rules, under the slug that names it. -/
theorem Flawless.build (h : Flawless entries questions rules)
    (hid : HasIntegerId (.map entries)) {index : ℕ} {name : String}
    (hname : nameOf index (.map entries) = .ok name) :
    ∃ form, Keeps (.map entries) form ∧ Rule.dangling form.rules form.questions = [] ∧
      form.slug = .text name := by
  obtain ⟨slug, hslug, hnamed⟩ := h.slug
  obtain ⟨entries', id, n, hentries, hid, hn⟩ := hid
  obtain rfl := Value.map.inj hentries
  rw [hnamed index] at hname
  obtain ⟨hwritable, rfl⟩ := Value.readText_eq_ok_iff.mp hname
  have hform : Form.assemble entries questions rules =
      .ok (.assembled entries n slug questions rules) :=
    Form.assemble_eq_ok_iff.mpr
      ⟨id, n, slug, hid, readInteger_eq_ok_iff.mpr hn, hslug, hwritable, rfl⟩
  refine ⟨.assembled entries n slug questions rules, ⟨?_, entries, rfl, h.toReadsAs⟩,
    dangling_eq_nil_iff.mpr h.resolving, rfl⟩
  rw [Form.ofDefinition_of_readsAs h.toReadsAs, hform]

/-- A flawless definition is built without a report, or not at all. It is not if its id stands for no
integer. -/
theorem Flawless.build_or_fail (h : Flawless entries questions rules) :
    (∃ form, Form.ofDefinition (.map entries) = ([], .ok form) ∧ HasIntegerId (.map entries)) ∨
      ∃ e, Form.ofDefinition (.map entries) = ([], .error e) := by
  rw [Form.ofDefinition_of_readsAs h.toReadsAs]
  cases hform : Form.assemble entries questions rules with
  | error e => exact .inr ⟨e, rfl⟩
  | ok form =>
    obtain ⟨id, n, slug, hlookup, hn, -⟩ := Form.assemble_eq_ok_iff.mp hform
    exact .inl ⟨form, rfl, entries, id, n, rfl, hlookup, readInteger_eq_ok_iff.mp hn⟩

end

/-! ## All definitions -/

/-- Definitions without problems are all built when their ids stand for integers, one form for each,
under the slugs that name them. -/
theorem forms_of_clean {index : ℕ} {definitions : List Value} {names : List String}
    (hclean : ∀ d ∈ definitions, definition d = .ok []) (hnames : NamedFrom index definitions names)
    (hids : ∀ d ∈ definitions, HasIntegerId d) :
    ∃ forms, Definitions.forms definitions = ([], .ok forms) ∧
      List.Forall₂ Keeps definitions forms ∧ forms.map (·.slug) = names.map .text ∧
      ∀ form ∈ forms, Rule.dangling form.rules form.questions = [] := by
  induction definitions generalizing index names with
  | nil =>
    obtain rfl := hnames
    exact ⟨[], rfl, .nil, rfl, by simp⟩
  | cons d rest ih =>
    obtain ⟨name, later, hname, hlater, rfl⟩ := hnames
    rw [List.forall_mem_cons] at hclean hids
    obtain ⟨entries, questions, rules, rfl, hflawless⟩ := definition_eq_nil_iff.mp hclean.1
    -- The definition is built without a report, and the others by induction.
    obtain ⟨form, hkeeps, hdangling, hslug⟩ := hflawless.build hids.1 hname
    obtain ⟨forms, hforms, hall, hslugs, hnone⟩ := ih hclean.2 hlater hids.2
    refine ⟨form :: forms, ?_, .cons hkeeps hall, ?_, ?_⟩
    · rw [Definitions.forms, hkeeps.1]
      dsimp only
      rw [hforms]
      rfl
    · rw [List.map_cons, List.map_cons, hslug, hslugs]
    · rw [List.forall_mem_cons]
      exact ⟨hdangling, hnone⟩

/-- One definition with another id keeps all of them from being built. -/
theorem forms_fail {definitions : List Value}
    (hclean : ∀ d ∈ definitions, definition d = .ok [])
    (hid : ∃ d ∈ definitions, ¬HasIntegerId d) :
    ∃ e, Definitions.forms definitions = ([], .error e) := by
  induction definitions with
  | nil => simp at hid
  | cons d rest ih =>
    rw [List.forall_mem_cons] at hclean
    obtain ⟨entries, questions, rules, rfl, hflawless⟩ := definition_eq_nil_iff.mp hclean.1
    rw [Definitions.forms]
    rcases hflawless.build_or_fail with ⟨form, hform, hfirst⟩ | ⟨e, he⟩
    · -- The first definition is built, so the one with another id is among the others.
      obtain ⟨d, hd, hnot⟩ := hid
      have hrest : d ∈ rest := by
        rcases List.mem_cons.mp hd with rfl | hd
        · exact absurd hfirst hnot
        · exact hd
      obtain ⟨e, he⟩ := ih hclean.2 ⟨d, hrest, hnot⟩
      rw [hform]
      dsimp only
      rw [he]
      exact ⟨e, rfl⟩
    · rw [he]
      exact ⟨e, rfl⟩

/-! ## Documents -/

/-- A document that passes the check lists definitions. If their ids all stand for integers, each is
loaded as one form, in order, without a report and with all its questions and rules; the slugs are
distinct, and no rule dangles. If an id does not, nothing is loaded. -/
theorem load_of_clean_check (path : String) (d : Value) (report : Report)
    (hcheck : document path d = .ok report) (hclean : report.exitStatus = 0) :
    ∃ definitions, Definitions.ofDocument? d = some definitions ∧
      ((∀ definition ∈ definitions, HasIntegerId definition) →
        ∃ forms, Definitions.load d = ([], .ok forms) ∧ List.Forall₂ Keeps definitions forms ∧
          (forms.map (·.slug)).Nodup ∧
          ∀ form ∈ forms, Rule.dangling form.rules form.questions = []) ∧
      ((∃ definition ∈ definitions, ¬HasIntegerId definition) →
        ∃ e, Definitions.load d = ([], .error e)) := by
  obtain ⟨definitions, hlisted, hproblems, names, hnames, hdistinct⟩ :=
    clean_iff.mp ⟨report, hcheck, hclean⟩
  refine ⟨definitions, hlisted, fun hids => ?_, fun hid => ?_⟩
  · obtain ⟨forms, hforms, hkeeps, hslugs, hdangling⟩ := forms_of_clean hproblems hnames hids
    refine ⟨forms, ?_, hkeeps, ?_, hdangling⟩
    · unfold Definitions.load
      rw [hlisted]
      dsimp only
      rw [hforms]
      rfl
    · rw [hslugs]
      exact hdistinct.map (fun _ _ h => Value.text.inj h)
  · obtain ⟨e, he⟩ := forms_fail hproblems hid
    refine ⟨.ofRead e, ?_⟩
    unfold Definitions.load
    rw [hlisted]
    dsimp only
    rw [he]
    rfl

/-- The definition of a form with a question and a rule that names it. -/
def intake : Value :=
  Value.record [("id", .text " 1_0 "), ("slug", .text "intake"), ("title", .text "Intake"),
    ("questions", .list [Value.record [("id", .text "size"), ("type", .text "radio"),
      ("options", .list [.int 42, .text "44"])]]),
    ("rules", .list [Value.record [("id", .int 7), ("question_id", .text "size"),
      ("operator", .text "equals"), ("value", .int 42), ("action", .text "show_message"),
      ("target_message", .text "In stock")]])]

/-- The definition of a form that asks nothing, with a number for its slug. -/
def nothingAsked : Value :=
  Value.record [("id", .int 2), ("slug", .int 2), ("title", .null)]

/-- Two definitions that pass the check are loaded, with the question and the rule of the first. -/
theorem load_of_clean_check_intake :
    let d := Value.record [("forms", .list [intake, nothingAsked])]
    document "forms.yaml" d = .ok [("intake", []), ("2", [])] ∧
      ∃ form other, Definitions.load d = ([], .ok [form, other]) ∧ Keeps intake form ∧
        form.slug ≠ other.slug := by
  intro d
  have hcheck : document "forms.yaml" d = .ok [("intake", []), ("2", [])] := by cbv
  obtain ⟨definitions, hlisted, hload, -⟩ := load_of_clean_check "forms.yaml" d _ hcheck rfl
  obtain rfl : definitions = [intake, nothingAsked] := (Option.some.inj hlisted).symm
  have hids : ∀ definition ∈ [intake, nothingAsked], HasIntegerId definition := by
    intro definition h
    rcases List.mem_pair.mp h with rfl | rfl
    · exact ⟨_, .text " 1_0 ", 10, rfl, rfl, by cbv⟩
    · exact ⟨_, .int 2, 2, rfl, rfl, rfl⟩
  obtain ⟨forms, hforms, hkeeps, hslugs, -⟩ := hload hids
  obtain ⟨form, _, hform, hrest, rfl⟩ := List.forall₂_cons_left_iff.mp hkeeps
  obtain ⟨other, _, -, hnil, rfl⟩ := List.forall₂_cons_left_iff.mp hrest
  obtain rfl := List.forall₂_nil_left_iff.mp hnil
  refine ⟨hcheck, form, other, hforms, hform, ?_⟩
  simpa using hslugs

/-- A definition whose id is no integer passes the check, and then its form cannot be loaded. -/
theorem load_fails_after_clean_check :
    let d : Value := .list [Value.record
      [("id", .text "abc"), ("slug", .text "a"), ("title", .text "A")]]
    document "forms.yaml" d = .ok [("a", [])] ∧ Report.exitStatus [("a", [])] = 0 ∧
      Definitions.load d =
        ([], .error (.definition (.integer (.malformed (.text "abc"))))) := by
  intro d
  exact ⟨by cbv, rfl, by cbv⟩

end FormRouting.Check
