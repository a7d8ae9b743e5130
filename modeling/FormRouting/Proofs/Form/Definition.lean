import FormRouting.Form
import FormRouting.Proofs.Reading

/-!
# Building forms from definitions

When `Form.ofDefinition` builds a form, and what it is made of. The records of a definition read as
questions (`Question.ReadFrom`) and rules when none of them is left out (`Form.ReadsAs`); such a
definition is built without a report (`ofDefinition_of_readsAs`), and what is left is to assemble
the form, which needs an id that stands for an integer and a slug (`assemble_eq_ok_iff`).
`madeOf_of_ofDefinition` takes any form that was built apart again.
-/

namespace FormRouting

/-! ## Questions -/

/-- A record is read as a question, field by field. -/
structure Question.ReadFrom (entries : List (Value × Value)) (q : Question) : Prop where
  id : ∃ id, Value.lookup "id" entries = some id ∧ id.readText = .ok q.id
  label : q.label = Value.fieldOr entries "label" (.text "")
  type : Value.lookup "type" entries = some (.text q.type.name)
  options : ∃ members, ((Value.field entries "options").orElse (.list [])).members = .ok members ∧
    members.mapM Value.readText = .ok q.options
  required : q.required = (Value.fieldOr entries "required"
    (Value.fieldOr entries "is_required" (.bool true))).truthy
  orderIndex : ((Value.fieldOr entries "order_index" (.int 0)).orElse (.int 0)).readInteger =
    .ok q.orderIndex

theorem QuestionType.ofValue_eq_ok_iff {v : Value} {type : QuestionType} :
    ofValue v = .ok type ↔ v = .text type.name := by
  constructor
  · intro h
    cases v with
    | text s =>
      unfold ofValue at h
      dsimp only at h
      split at h
      · rename_i t hname
        obtain rfl := Except.ok.inj h
        have hfound := List.find?_some hname
        rw [beq_iff_eq.mp hfound]
      · cases h
    | _ => cases h
  · rintro rfl
    simp [ofValue]

theorem Question.ofRecord_eq_ok_iff {entries : List (Value × Value)} {q : Question} :
    ofRecord (.map entries) = .ok q ↔ ReadFrom entries q := by
  unfold ofRecord
  constructor
  · intro h
    obtain ⟨idValue, hid, h⟩ := bind_eq_ok_iff.mp h
    obtain ⟨id, hread, h⟩ := bind_eq_ok_iff.mp h
    obtain ⟨kind, hkind, h⟩ := bind_eq_ok_iff.mp h
    obtain ⟨type, htype, h⟩ := bind_eq_ok_iff.mp h
    obtain ⟨members, hmembers, h⟩ := bind_eq_ok_iff.mp h
    obtain ⟨options, hoptions, h⟩ := bind_eq_ok_iff.mp h
    obtain ⟨index, hindex, h⟩ := bind_eq_ok_iff.mp h
    obtain rfl := Except.ok.inj h
    rw [QuestionType.ofValue_eq_ok_iff.mp htype] at hkind
    exact ⟨⟨idValue, Value.need_eq_ok_iff.mp hid, hread⟩, rfl, Value.need_eq_ok_iff.mp hkind,
      ⟨members, hmembers, hoptions⟩, rfl, hindex⟩
  · rintro ⟨⟨idValue, hid, hread⟩, hlabel, htype, ⟨members, hmembers, hoptions⟩, hrequired, hindex⟩
    refine bind_eq_ok_iff.mpr ⟨idValue, Value.need_eq_ok_iff.mpr hid, bind_eq_ok_iff.mpr
      ⟨_, hread, bind_eq_ok_iff.mpr ⟨_, Value.need_eq_ok_iff.mpr htype, bind_eq_ok_iff.mpr
        ⟨_, QuestionType.ofValue_eq_ok_iff.mpr rfl, bind_eq_ok_iff.mpr ⟨members, hmembers,
          bind_eq_ok_iff.mpr ⟨_, hoptions, bind_eq_ok_iff.mpr ⟨_, hindex, ?_⟩⟩⟩⟩⟩⟩⟩
    rw [← hlabel, ← hrequired]
    rfl

/-- Only a record is read as a question. -/
theorem Question.readFrom_of_ofRecord {record : Value} {q : Question} (h : ofRecord record = .ok q) :
    ∃ entries, record = .map entries ∧ ReadFrom entries q := by
  cases record with
  | map entries => exact ⟨entries, rfl, ofRecord_eq_ok_iff.mp h⟩
  | _ => cases h

namespace Form

/-! ## Definitions that are kept whole -/

/-- A list in a field is what the field lists. -/
theorem listed_of_lookup {entries : List (Value × Value)} {key : String} {items : List Value}
    (h : Value.lookup key entries = some (.list items)) : listed entries key = .ok items := by
  unfold listed Value.field
  rw [Value.fieldOr_of_lookup h, Value.members_orElse_list]

/-- The records of a definition read as the given questions and rules, each in its place. -/
structure ReadsAs (entries : List (Value × Value)) (questions : List Question)
    (rules : List Rule) : Prop where
  questionRecords : ∃ records, listed entries "questions" = .ok records ∧
    List.Forall₂ (fun record q => Question.ofRecord record = .ok q) records questions
  ruleRecords : ∃ records, listed entries "rules" = .ok records ∧
    List.Forall₂ (fun record r => Rule.ofRecord record = .ok r) records rules

/-! ## Assembling -/

/-- The form that a definition is assembled to, with the integer that its id stands for. -/
def assembled (entries : List (Value × Value)) (n : Int) (slug : Value) (questions : List Question)
    (rules : List Rule) : Form where
  id := .int n
  slug := .text slug.toText
  title := Value.fieldOr entries "title" (.text "")
  description := Value.field entries "description"
  isActive := .bool (Value.fieldOr entries "is_active" (.bool true)).truthy
  ownerName := Value.field entries "owner_name"
  questions := questions
  rules := rules

/-- A form is assembled exactly when the definition has an id that stands for an integer and a slug
that can be written. -/
theorem assemble_eq_ok_iff {entries : List (Value × Value)} {questions : List Question}
    {rules : List Rule} {form : Form} :
    assemble entries questions rules = .ok form ↔
      ∃ id n slug, Value.lookup "id" entries = some id ∧ id.readInteger = .ok n ∧
        Value.lookup "slug" entries = some slug ∧ slug.isWritable = true ∧
        form = assembled entries n slug questions rules := by
  unfold assemble
  constructor
  · intro h
    obtain ⟨id, hid, h⟩ := bind_eq_ok_iff.mp h
    obtain ⟨n, hn, h⟩ := bind_eq_ok_iff.mp h
    obtain ⟨slug, hslug, h⟩ := bind_eq_ok_iff.mp h
    obtain ⟨text, htext, h⟩ := bind_eq_ok_iff.mp h
    obtain ⟨hwritable, rfl⟩ := Value.readText_eq_ok_iff.mp htext
    exact ⟨id, n, slug, Value.need_eq_ok_iff.mp hid, hn, Value.need_eq_ok_iff.mp hslug, hwritable,
      (Except.ok.inj h).symm⟩
  · rintro ⟨id, n, slug, hid, hn, hslug, hwritable, rfl⟩
    exact bind_eq_ok_iff.mpr ⟨id, Value.need_eq_ok_iff.mpr hid, bind_eq_ok_iff.mpr ⟨n, hn,
      bind_eq_ok_iff.mpr ⟨slug, Value.need_eq_ok_iff.mpr hslug, bind_eq_ok_iff.mpr
        ⟨_, Value.readText_eq_ok_iff.mpr ⟨hwritable, rfl⟩, rfl⟩⟩⟩⟩

/-! ## Rules -/

section

variable {report : Value → RuleDefect → Except ReadError LogEntry}

/-- Records that all read as rules are kept without a report. -/
theorem readRules_of_forall₂ {records : List Value} {rules : List Rule}
    (h : List.Forall₂ (fun record r => Rule.ofRecord record = .ok r) records rules) :
    readRules report records = ([], .ok rules) := by
  induction h with
  | nil => rfl
  | cons hrecord _ ih =>
    rw [readRules, hrecord]
    dsimp only
    rw [ih]
    rfl

/-- The rules that are kept are those that records read as, in their order. -/
theorem rules_of_readRules {records : List Value} {rules : List Rule} {reports : List LogEntry}
    (h : readRules report records = (reports, .ok rules)) :
    rules = records.filterMap fun record => (Rule.ofRecord record).toOption := by
  induction records generalizing rules reports with
  | nil =>
    obtain ⟨-, hrules⟩ := Prod.mk.inj h
    exact (Except.ok.inj hrules).symm
  | cons record rest ih =>
    rw [readRules] at h
    rw [List.filterMap_cons]
    generalize hrest : readRules report rest = later at h
    obtain ⟨entries, result⟩ := later
    -- A record is kept, or refused and reported; only then are the others read.
    cases hrecord : Rule.ofRecord record with
    | ok rule =>
      rw [hrecord] at h
      obtain ⟨-, hrules⟩ := Prod.mk.inj h
      obtain ⟨kept, rfl, rfl⟩ := map_eq_ok_iff.mp hrules
      rw [ih hrest]
      rfl
    | error e =>
      rw [hrecord] at h
      cases e with
      | unreadable e => cases (Prod.mk.inj h).2
      | refused ruleId defect =>
        dsimp only at h
        cases hreport : report ruleId defect with
        | error e =>
          rw [hreport] at h
          cases (Prod.mk.inj h).2
        | ok entry =>
          rw [hreport] at h
          obtain ⟨-, rfl⟩ := Prod.mk.inj h
          exact ih hrest

end

/-! ## Definitions -/

/-- A definition that lists questions and rules reads all questions first, and then the rules. -/
theorem ofDefinition_of_listed {entries : List (Value × Value)}
    {questionRecords ruleRecords : List Value}
    (hquestions : listed entries "questions" = .ok questionRecords)
    (hrules : listed entries "rules" = .ok ruleRecords) :
    ofDefinition (.map entries) =
      match questionRecords.mapM Question.ofRecord with
      | .error e => ([], .error e)
      | .ok questions =>
        let (reports, rules) := readRules (skipRule (Value.field entries "slug")) ruleRecords
        (reports, rules.bind (assemble entries questions)) := by
  unfold ofDefinition
  simp only [Value.fields, hquestions, hrules, bind, Except.bind, pure, Except.pure]
  cases questionRecords.mapM Question.ofRecord <;> rfl

/-- A definition whose records all read as questions and rules is built without a report, unless
assembling the form fails. -/
theorem ofDefinition_of_readsAs {entries : List (Value × Value)} {questions : List Question}
    {rules : List Rule} (h : ReadsAs entries questions rules) :
    ofDefinition (.map entries) = ([], assemble entries questions rules) := by
  obtain ⟨⟨questionRecords, hquestions, hread⟩, ⟨ruleRecords, hrules, hkept⟩⟩ := h
  rw [ofDefinition_of_listed hquestions hrules, mapM_eq_ok_iff.mpr hread]
  dsimp only
  rw [readRules_of_forall₂ hkept]
  rfl

/-- A form is made of the fields of a definition: it has the questions that the records of the
definition read as, and the rules that records of it read as. -/
structure MadeOf (form : Form) (entries : List (Value × Value)) : Prop where
  questions : ∃ records, listed entries "questions" = .ok records ∧
    List.Forall₂ (fun record q => Question.ofRecord record = .ok q) records form.questions
  rules : ∃ records, listed entries "rules" = .ok records ∧
    form.rules = records.filterMap fun record => (Rule.ofRecord record).toOption
  assembled : assemble entries form.questions form.rules = .ok form

/-- A form that was built is made of the fields of its definition. -/
theorem madeOf_of_ofDefinition {definition : Value} {reports : List LogEntry} {form : Form}
    (h : ofDefinition definition = (reports, .ok form)) :
    ∃ entries, definition = .map entries ∧ form.MadeOf entries := by
  unfold ofDefinition at h
  dsimp only at h
  split at h
  · cases (Prod.mk.inj h).2
  · rename_i entries questions records hstart
    obtain ⟨entries', hentries, hstart⟩ := bind_eq_ok_iff.mp hstart
    obtain ⟨questionRecords, hquestions, hstart⟩ := bind_eq_ok_iff.mp hstart
    obtain ⟨questions', hread, hstart⟩ := bind_eq_ok_iff.mp hstart
    obtain ⟨records', hrecords, hstart⟩ := bind_eq_ok_iff.mp hstart
    obtain ⟨rfl, rfl, rfl⟩ : entries' = entries ∧ questions' = questions ∧ records' = records := by
      simpa [pure, Except.pure] using hstart
    obtain ⟨-, hform⟩ := Prod.mk.inj h
    obtain ⟨rules, hrules, hform⟩ := bind_eq_ok_iff.mp hform
    obtain ⟨id, n, slug, hid, hn, hslug, -, rfl⟩ := assemble_eq_ok_iff.mp hform
    exact ⟨entries', Value.fields_eq_ok_iff.mp hentries,
      { questions := ⟨questionRecords, hquestions, mapM_eq_ok_iff.mp hread⟩
        rules := ⟨records', hrecords, rules_of_readRules (Prod.ext rfl hrules)⟩
        assembled := hform }⟩

/-- Every rule of a form that was built was read from a record. -/
theorem ofRecord_of_mem_rules {definition : Value} {reports : List LogEntry} {form : Form}
    (h : ofDefinition definition = (reports, .ok form)) {r : Rule} (hr : r ∈ form.rules) :
    ∃ record, Rule.ofRecord record = .ok r := by
  obtain ⟨entries, -, hmade⟩ := madeOf_of_ofDefinition h
  obtain ⟨records, -, hrules⟩ := hmade.rules
  rw [hrules, List.mem_filterMap] at hr
  obtain ⟨record, -, hread⟩ := hr
  cases hrecord : Rule.ofRecord record with
  | error e =>
    rw [hrecord] at hread
    cases hread
  | ok kept =>
    rw [hrecord] at hread
    obtain rfl := Option.some.inj hread
    exact ⟨record, hrecord⟩

end Form

end FormRouting
