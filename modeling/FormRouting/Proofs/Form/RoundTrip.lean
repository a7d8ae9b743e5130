import FormRouting.Proofs.Form.RuleRecord

/-!
# Writing forms back

A form can be written as a definition again, in the flat shape that definitions have: a question and a
rule as records of their fields (`Question.toRecord`, `Rule.toRecord`), and the form as a record of
its own (`Form.toDefinition`).

Reading undoes writing. Every question is read back as it is (`Question.ofRecord_toRecord`), and so is
every rule that names a question and has a target (`Rule.ofRecord_toRecord`), as every rule does that
was read from a record. So loading is a normalisation: whatever values a definition has, writing the
form that it is built to and building that again gives the same form, and nothing is left out
(`reading_undoes_writing`).
-/

namespace FormRouting

/-! ## Writing -/

/-- The entries of a question's record. -/
def Question.entries (q : Question) : List (Value × Value) := [
  (.text "id", .text q.id),
  (.text "label", q.label),
  (.text "type", .text q.type.name),
  (.text "options", .list (q.options.map .text)),
  (.text "required", .bool q.required),
  (.text "order_index", .int q.orderIndex)]

/-- A question as a record. -/
def Question.toRecord (q : Question) : Value :=
  .map q.entries

/-- The entries of a rule's record. Of the target fields it has the one of the rule's action. -/
def Rule.entries (r : Rule) : List (Value × Value) := [
  (.text "id", .int r.id),
  (.text "question_id", .text r.questionId),
  (.text "operator", .text r.operator.name),
  (.text "value", .text r.value),
  (.text "action", .text r.action.kind.name),
  (.text "priority", .int r.priority),
  (.text "is_active", .bool r.isActive),
  (.text r.action.kind.targetField, .text r.action.target)]

/-- A rule as a record. -/
def Rule.toRecord (r : Rule) : Value :=
  .map r.entries

/-- The entries of a form's definition. -/
def Form.entries (form : Form) : List (Value × Value) := [
  (.text "id", form.id),
  (.text "slug", form.slug),
  (.text "title", form.title),
  (.text "description", form.description),
  (.text "is_active", form.isActive),
  (.text "owner_name", form.ownerName),
  (.text "questions", .list (form.questions.map (·.toRecord))),
  (.text "rules", .list (form.rules.map (·.toRecord)))]

/-- A form as a definition. -/
def Form.toDefinition (form : Form) : Value :=
  .map form.entries

/-! ## Questions -/

/-- A question is read back as it is. -/
theorem Question.ofRecord_toRecord (q : Question) : ofRecord q.toRecord = .ok q := by
  have hindex : ((Value.int q.orderIndex).orElse (.int 0)).readInteger = .ok q.orderIndex := by
    rw [Value.orElse_int_zero]
    rfl
  refine ofRecord_eq_ok_iff.mpr
    { id := ⟨.text q.id, rfl, rfl⟩
      label := rfl
      type := rfl
      options := ⟨q.options.map .text, Value.members_orElse_list _, ?_⟩
      required := rfl
      orderIndex := hindex }
  rw [Value.mapM_readText_eq_ok_iff, List.map_map]
  exact ⟨List.forall_mem_map.mpr fun s _ => Value.isWritable_text s, List.map_id _⟩

/-! ## Rules -/

namespace Rule

/-- A rule names a question and has a target, so a record of it leaves neither blank. -/
structure Complete (r : Rule) : Prop where
  question : r.questionId ≠ ""
  target : r.action.target ≠ ""

/-- Every rule that was read from a record names a question and has a target. -/
theorem complete_of_ofRecord {record : Value} {r : Rule} (h : ofRecord record = .ok r) :
    r.Complete := by
  obtain ⟨ruleId, action, haction⟩ := action_of_ofRecord h
  obtain ⟨-, entries, rfl, -⟩ := Action.ofRecord_eq_ok_iff.mp haction
  obtain ⟨id, operator, priority, built, hproceeds, rfl⟩ := built_of_ofRecord h
  exact ⟨Value.toText_ne_empty hproceeds.question, Action.target_ne_empty haction⟩

/-- Of the target fields, a rule's record has the one of its action. -/
theorem field_targetField (r : Rule) (kind : ActionKind) :
    Value.field r.entries kind.targetField =
      if r.action.kind = kind then .text r.action.target else .null := by
  obtain ⟨id, questionId, operator, value, ⟨own, target⟩, priority, isActive⟩ := r
  cases own <;> cases kind <;> rfl

/-- Of the target fields, the one of the action is filled in a rule's record, and no other. -/
theorem filledTargets_entries {r : Rule} (h : r.Complete) :
    Action.filledTargets r.entries = [r.action.kind] := by
  have htarget : (Value.text r.action.target).isUnset = false := by
    simpa [Value.isUnset] using h.target
  have hunset (kind : ActionKind) :
      (Value.field r.entries kind.targetField).isUnset = decide (r.action.kind ≠ kind) := by
    rw [field_targetField]
    split_ifs with hkind
    · rw [htarget, decide_eq_false (not_not.mpr hkind)]
    · rw [decide_eq_true hkind]
      rfl
  unfold Action.filledTargets
  simp only [hunset]
  cases r.action.kind <;> rfl

/-- The action of a rule is read back from the rule's record. -/
theorem action_toRecord {r : Rule} (h : r.Complete) :
    Action.ofRecord (.int r.id) (actionOf r.entries) r.toRecord = .ok r.action := by
  have htarget : Value.field r.entries r.action.kind.targetField = .text r.action.target := by
    rw [field_targetField, if_pos rfl]
  refine Action.ofRecord_eq_ok_iff.mpr ⟨rfl, r.entries, rfl, filledTargets_entries h, ?_⟩
  rw [htarget, Value.readText_text]

/-- A rule that names a question and has a target is read back as it is. -/
theorem ofRecord_toRecord {r : Rule} (h : r.Complete) : ofRecord r.toRecord = .ok r := by
  have hquestion : (Value.text r.questionId).isUnset = false := by
    simpa [Value.isUnset] using h.question
  have hpriority : (priorityOf r.entries).toInteger = .ok r.priority := by
    show ((Value.int r.priority).orElse (.int 0)).toInteger = .ok r.priority
    rw [Value.orElse_int_zero]
    rfl
  have hproceeds : Proceeds r.entries r.id r.operator r.priority :=
    ⟨⟨rfl, hquestion, rfl⟩, hpriority, Value.isWritable_text _, Value.isWritable_text _⟩
  have haction := action_toRecord h
  rw [toRecord] at haction ⊢
  rw [hproceeds.ofRecord_eq, haction]
  rfl

end Rule

/-! ## Forms -/

namespace Form

/-- A form is as loading leaves it: its id is an integer, its slug a text, whether it is published a
truth value, and its rules name their questions and have their targets. -/
structure Normal (form : Form) : Prop where
  id : ∃ n, form.id = .int n
  slug : ∃ s, form.slug = .text s
  isActive : ∃ b, form.isActive = .bool b
  rules : ∀ r ∈ form.rules, r.Complete

/-- Every form that was built from a definition is as loading leaves it. -/
theorem normal_of_ofDefinition {definition : Value} {reports : List LogEntry} {form : Form}
    (h : ofDefinition definition = (reports, .ok form)) : form.Normal := by
  -- The form is assembled with a converted id, slug and flag; its rules are left as they were read.
  obtain ⟨entries, -, hmade⟩ := madeOf_of_ofDefinition h
  obtain ⟨id, n, slug, -, -, -, -, hform⟩ := assemble_eq_ok_iff.mp hmade.assembled
  refine ⟨⟨n, congrArg Form.id hform⟩, ⟨_, congrArg Form.slug hform⟩,
    ⟨_, congrArg Form.isActive hform⟩, fun r hr => ?_⟩
  obtain ⟨record, hread⟩ := ofRecord_of_mem_rules h hr
  exact Rule.complete_of_ofRecord hread

/-- The records of a form's definition are read as its questions and rules. -/
theorem readsAs_entries {form : Form} (h : form.Normal) :
    ReadsAs form.entries form.questions form.rules := by
  refine ⟨⟨_, listed_of_lookup rfl, ?_⟩, ⟨_, listed_of_lookup rfl, ?_⟩⟩
  · rw [List.forall₂_map_left_iff, List.forall₂_same]
    exact fun q _ => q.ofRecord_toRecord
  · rw [List.forall₂_map_left_iff, List.forall₂_same]
    exact fun r hr => Rule.ofRecord_toRecord (h.rules r hr)

/-- A form that is as loading leaves it is built again from its definition, with nothing left out. -/
theorem ofDefinition_toDefinition {form : Form} (h : form.Normal) :
    ofDefinition form.toDefinition = ([], .ok form) := by
  obtain ⟨n, hid⟩ := h.id
  obtain ⟨s, hslug⟩ := h.slug
  obtain ⟨b, hactive⟩ := h.isActive
  have hassemble : assemble form.entries form.questions form.rules = .ok form := by
    refine assemble_eq_ok_iff.mpr ⟨form.id, n, form.slug, rfl, by rw [hid]; rfl, rfl,
      by rw [hslug, Value.isWritable_text], ?_⟩
    obtain ⟨id, slug, title, description, isActive, ownerName, questions, rules⟩ := form
    obtain rfl : id = .int n := hid
    obtain rfl : slug = .text s := hslug
    obtain rfl : isActive = .bool b := hactive
    -- Converting what is converted already changes nothing.
    rfl
  rw [toDefinition, ofDefinition_of_readsAs (readsAs_entries h), hassemble]

/-- Reading undoes writing. Every question and every rule that was read from a record is read back as
it is from the record that it is written as. A form that was built from a definition, whatever values
this has and whatever was left out, is built again, with nothing left out, from the definition that
it is written as. -/
theorem reading_undoes_writing :
    (∀ record q, Question.ofRecord record = .ok q → Question.ofRecord q.toRecord = .ok q) ∧
      (∀ record r, Rule.ofRecord record = .ok r → Rule.ofRecord r.toRecord = .ok r) ∧
      ∀ definition reports form, ofDefinition definition = (reports, .ok form) →
        ofDefinition form.toDefinition = ([], .ok form) :=
  ⟨fun _ q _ => q.ofRecord_toRecord,
    fun _ _ h => Rule.ofRecord_toRecord (Rule.complete_of_ofRecord h),
    fun _ _ _ h => ofDefinition_toDefinition (normal_of_ofDefinition h)⟩

/-- The record of a question with numbers for texts, and with a field that is null. -/
def patchworkQuestion : Value :=
  Value.record [
    ("id", .int 3), ("type", .text "select"), ("options", .tuple [.int 1, .bool true]),
    ("is_required", .bool false), ("order_index", .null)]

/-- The record of a rule with a text for its id, no value to compare with, and zero as its target. -/
def patchworkRule : Value :=
  Value.record [
    ("id", .text "01"), ("question_id", .int 3), ("operator", .text "equals"),
    ("action", .text "show_message"), ("target_message", .int 0), ("priority", .null)]

/-- A definition in which texts and numbers stand in each other's places and fields are missing, with
a rule that is refused. -/
def patchwork : Value :=
  Value.record [
    ("id", .text " 7 "), ("slug", .int 5), ("title", .list []), ("is_active", .int 0),
    ("questions", .list [patchworkQuestion]),
    ("rules", .list [patchworkRule, Value.record [
      ("id", .int 2), ("question_id", .int 3), ("operator", .text "exceeds")]])]

/-- The form of such a definition is built again from what it is written as, and so are its question
and its rule; only the first reading reports a refusal. -/
theorem reading_undoes_writing_patchwork :
    ∃ report q r form, ofDefinition patchwork = ([report], .ok form) ∧
      form.questions = [q] ∧ Question.ofRecord q.toRecord = .ok q ∧
      form.rules = [r] ∧ r.action.target = "0" ∧ Rule.ofRecord r.toRecord = .ok r ∧
      ofDefinition form.toDefinition = ([], .ok form) := by
  obtain ⟨hquestions, hrules, hforms⟩ := reading_undoes_writing
  exact ⟨_, _, _, _, rfl, rfl, hquestions patchworkQuestion _ rfl, rfl, rfl,
    hrules patchworkRule _ rfl, hforms patchwork _ _ rfl⟩

end Form

end FormRouting
