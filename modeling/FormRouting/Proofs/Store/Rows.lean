import FormRouting.Proofs.Form.LeftOut
import FormRouting.Store.Postgres

/-!
# Rows and definitions

A form is built from the rows of a database or from a definition of a file. When the definition has
the columns of the form's row and, as its questions and rules, the rows of these, with options that
are JSON text decoded, both ways come to the same (`formOfRows_agrees_with_ofDefinition`): the same
form or the same error, and reports of the same refusals in the same order.
-/

namespace FormRouting.Postgres

/-! ## Rows -/

/-- The row of a form: an integer id, a text for the slug, a Boolean that says whether the form is
published, and any values in the other columns. -/
structure FormRow (form : List (Value × Value)) (id : ℤ) (slug : String) (isActive : Bool) :
    Prop where
  id : Value.lookup "id" form = some (.int id)
  slug : Value.lookup "slug" form = some (.text slug)
  isActive : Value.lookup "is_active" form = some (.bool isActive)
  others : ∀ key ∈ ["title", "description", "owner_name"], (Value.lookup key form).isSome

/-- The row of a question holds a record: its options are no text, or they are JSON text in place of
the value that the record has. -/
inductive Holds (row : List (Value × Value)) : List (Value × Value) → Prop where
  | plain (h : ∀ s, Value.field row "options" ≠ .text s) : Holds row row
  | json {s : String} {options : Value} (htext : Value.field row "options" = .text s)
      (hjson : Json.read s = .ok options) :
      Holds row (Value.putEntry row (.text "options") options)

/-- A definition has the columns of a form's row, and lists the given records. -/
structure Mirrors (definition form : List (Value × Value))
    (questions rules : List (List (Value × Value))) : Prop where
  columns : ∀ key ∈ ["id", "slug", "title", "description", "is_active", "owner_name"],
    Value.lookup key definition = Value.lookup key form
  questions : Value.lookup "questions" definition = some (.list (questions.map .map))
  rules : Value.lookup "rules" definition = some (.list (rules.map .map))

/-- The report of a rule that the form of a row leaves out. -/
def rowReport (slug ruleId : Value) (defect : RuleDefect) : LogEntry :=
  ⟨.warning, "Skipping invalid rule row", [
    ("slug", slug),
    ("rule_id", ruleId),
    ("error", .text (RuleError.refusal ruleId defect))]⟩

/-! ## Questions -/

theorem Holds.questionRecord_eq {row record : List (Value × Value)} (h : Holds row record) :
    questionRecord (.map row) = .ok (.map record) := by
  unfold questionRecord
  cases h with
  | plain h =>
    simp only [recordOfRow, bind, Except.bind]
    rfl
  | json htext hjson =>
    simp only [recordOfRow, bind, Except.bind, htext, hjson, Except.mapError]
    rfl

/-- A question's row is read as the record that it holds. -/
theorem Holds.questionOfRow_eq {row record : List (Value × Value)} (h : Holds row record) :
    questionOfRow (.map row) = (Question.ofRecord (.map record)).mapError .read := by
  unfold questionOfRow
  rw [h.questionRecord_eq]
  rfl

theorem questions_of_rows {rows records : List (List (Value × Value))}
    (h : List.Forall₂ Holds rows records) :
    (rows.map Value.map).mapM questionOfRow =
      ((records.map Value.map).mapM Question.ofRecord).mapError .read := by
  refine mapM_eq_mapError ?_
  rw [List.forall₂_map_left_iff, List.forall₂_map_right_iff]
  exact h.imp fun _ _ hrow => hrow.questionOfRow_eq

/-! ## Forms -/

section

variable {form definition : List (Value × Value)} {id : ℤ} {slug : String} {isActive : Bool}
  {rows records rules : List (List (Value × Value))}

/-- The form of a row is assembled as the one of a definition that mirrors the row. -/
theorem assemble_eq (hform : FormRow form id slug isActive)
    (hmirrors : Mirrors definition form records rules) (questions : List Question)
    (kept : List Rule) :
    ∃ built, assemble form questions kept = .ok built ∧
      Form.assemble definition questions kept = .ok built := by
  obtain ⟨title, htitle⟩ := Option.isSome_iff_exists.mp (hform.others "title" (by simp))
  obtain ⟨description, hdescription⟩ :=
    Option.isSome_iff_exists.mp (hform.others "description" (by simp))
  obtain ⟨owner, howner⟩ := Option.isSome_iff_exists.mp (hform.others "owner_name" (by simp))
  -- The definition has the columns of the row under the same names.
  have hcolumn {key : String} {v : Value} (h : Value.lookup key form = some v)
      (hkey : key ∈ ["id", "slug", "title", "description", "is_active", "owner_name"]) :
      Value.lookup key definition = some v := by
    rw [hmirrors.columns key hkey, h]
  refine ⟨⟨.int id, .text slug, title, description, .bool isActive, owner, questions, kept⟩,
    ?_, ?_⟩
  · simp [assemble, Value.need, hform.id, hform.slug, hform.isActive, htitle, hdescription, howner,
      bind, Except.bind, pure, Except.pure]
  · refine Form.assemble_eq_ok_iff.mpr ⟨.int id, id, .text slug, hcolumn hform.id (by simp), rfl,
      hcolumn hform.slug (by simp), Value.isWritable_text _, ?_⟩
    simp only [Form.assembled, Value.field, Value.toText_text,
      Value.fieldOr_of_lookup (hcolumn htitle (by simp)),
      Value.fieldOr_of_lookup (hcolumn hdescription (by simp)),
      Value.fieldOr_of_lookup (hcolumn howner (by simp)),
      Value.fieldOr_of_lookup (hcolumn hform.isActive (by simp)), Value.truthy]

/-- The rows of a form and a definition that mirrors them come to the same: there are refusals that
both report, in the same order and with the same ids and messages, and one result of both, the form
or the error. -/
theorem formOfRows_agrees_with_ofDefinition (hform : FormRow form id slug isActive)
    (hrows : List.Forall₂ Holds rows records) (hmirrors : Mirrors definition form records rules) :
    ∃ (refusals : List (Value × RuleDefect)) (result : Except ReadError Form),
      formOfRows form (rows.map .map) (rules.map .map) =
          (refusals.map fun refusal => rowReport (.text slug) refusal.1 refusal.2,
            result.mapError .read) ∧
        Form.ofDefinition (.map definition) =
          (refusals.map fun refusal => Form.skippedRule (.text slug) refusal.1 refusal.2,
            result) := by
  have hslug : Value.lookup "slug" definition = some (.text slug) := by
    rw [hmirrors.columns "slug" (by simp), hform.slug]
  -- With a slug in the row, reporting a refusal cannot fail.
  have hreport (records : List Value) : Form.readRules (skippedRow form) records =
      Form.readRules (fun ruleId defect => .ok (rowReport (.text slug) ruleId defect)) records := by
    refine Form.readRules_congr (fun ruleId defect hid => ?_) records
    have hwritable : (rowReport (.text slug) ruleId defect).isWritable = true := by
      simp [LogEntry.isWritable, rowReport, hid]
    simp only [skippedRow, Value.need, hform.slug]
    exact if_pos hwritable
  have hrules : (rules.map Value.map).mapM recordOfRow = .ok rules := by
    rw [mapM_eq_ok_iff, List.forall₂_map_left_iff, List.forall₂_same]
    exact fun _ _ => rfl
  rw [Form.ofDefinition_of_listed (Form.listed_of_lookup hmirrors.questions)
    (Form.listed_of_lookup hmirrors.rules), formOfRows, questions_of_rows hrows, hrules,
    Value.field, Value.fieldOr_of_lookup hslug]
  -- The questions are read before the rules, so an error among them leaves nothing to report.
  cases (records.map Value.map).mapM Question.ofRecord with
  | error e => exact ⟨[], .error e, rfl, rfl⟩
  | ok questions =>
    obtain ⟨refusals, kept, hread⟩ := Form.readRules_eq (rules.map Value.map)
    simp only [Except.mapError, hreport, Form.readRules_skipRule (Value.isWritable_text slug), hread]
    cases kept with
    | error e => exact ⟨refusals, .error e, rfl, rfl⟩
    | ok kept =>
      obtain ⟨built, hbuilt, hbuilt'⟩ := assemble_eq hform hmirrors questions kept
      refine ⟨refusals, .ok built, ?_, ?_⟩
      · simp only [Except.bind, hbuilt]
      · simp only [Except.bind, hbuilt']

end

/-- The row of a form, with a column that is not read. -/
def stockRow : List (Value × Value) :=
  [(.text "id", .int 7), (.text "slug", .text "stock"), (.text "title", .text "Stock"),
    (.text "description", .null), (.text "is_active", .bool false), (.text "owner_name", .null),
    (.text "created_at", .date ⟨2024, 2, 29⟩)]

/-- The row of a question with the given options. -/
def sizeRow (options : Value) : List (Value × Value) :=
  [(.text "id", .text "size"), (.text "type", .text "select"), (.text "options", options)]

/-- The row of a rule with the given id and operator. -/
def sizeRule (id : ℤ) (operator : String) : List (Value × Value) :=
  [(.text "id", .int id), (.text "question_id", .text "size"), (.text "operator", .text operator),
    (.text "value", .text "small"), (.text "action", .text "show_message"),
    (.text "target_message", .text "In stock")]

/-- The definition of the form of `stockRow`. -/
def stockDefinition : List (Value × Value) :=
  [(.text "id", .int 7), (.text "slug", .text "stock"), (.text "title", .text "Stock"),
    (.text "description", .null), (.text "is_active", .bool false), (.text "owner_name", .null),
    (.text "questions", .list [.map (sizeRow (.list [.text "small", .text "large"]))]),
    (.text "rules", .list [.map (sizeRule 1 "equals"), .map (sizeRule 2 "exceeds")])]

/-- A form with options that are kept as JSON text, and with a rule that is refused. -/
theorem formOfRows_agrees_with_ofDefinition_stock :
    let rows := [sizeRow (.text "[\"small\", \"large\"]")]
    let records := [sizeRow (.list [.text "small", .text "large"])]
    let rules := [sizeRule 1 "equals", sizeRule 2 "exceeds"]
    FormRow stockRow 7 "stock" false ∧ List.Forall₂ Holds rows records ∧
      Mirrors stockDefinition stockRow records rules ∧
      ∃ reports form, formOfRows stockRow (rows.map .map) (rules.map .map) = (reports, .ok form) ∧
        reports.length = 1 ∧ form.questions.map (·.options) = [["small", "large"]] ∧
        form.rules.map (·.id) = [1] := by
  intro rows records rules
  have hform : FormRow stockRow 7 "stock" false := ⟨rfl, rfl, rfl, by decide⟩
  have hjson : Json.read "[\"small\", \"large\"]" =
      .ok (.list [.text "small", .text "large"]) := by cbv
  have hput : Value.putEntry (sizeRow (.text "[\"small\", \"large\"]")) (.text "options")
      (.list [.text "small", .text "large"]) =
        sizeRow (.list [.text "small", .text "large"]) := by cbv
  have hrows : List.Forall₂ Holds rows records :=
    .cons (hput ▸ .json rfl hjson) .nil
  have hmirrors : Mirrors stockDefinition stockRow records rules := by
    refine ⟨fun key hkey => ?_, rfl, rfl⟩
    simp only [List.mem_cons, List.not_mem_nil, or_false] at hkey
    rcases hkey with rfl | rfl | rfl | rfl | rfl | rfl <;> rfl
  obtain ⟨refusals, result, hbuilt, hdefined⟩ :=
    formOfRows_agrees_with_ofDefinition hform hrows hmirrors
  have hcount : (Form.ofDefinition (.map stockDefinition)).1.length = 1 := rfl
  have hparts : (Form.ofDefinition (.map stockDefinition)).2.toOption.map (fun built =>
      (built.questions.map (·.options), built.rules.map (·.id))) =
        some ([["small", "large"]], [1]) := rfl
  rw [hdefined] at hcount hparts
  cases result with
  | error e => cases hparts
  | ok built =>
    obtain ⟨hquestions, hkept⟩ := Prod.mk.inj (Option.some.inj hparts)
    refine ⟨hform, hrows, hmirrors, _, built, hbuilt, ?_, hquestions, hkept⟩
    rw [List.length_map] at hcount ⊢
    exact hcount

end FormRouting.Postgres
