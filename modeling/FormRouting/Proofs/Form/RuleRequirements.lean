import FormRouting.Proofs.Form.RoundTrip
import Mathlib

/-!
# What makes a record a rule

A record of elementary values, as a database or a request can hold them, is read as a rule exactly
when it meets six requirements (`Rule.Meets`). They are checked in a fixed order, and a record that
does not meet all of them is refused for the first one that it does not meet, with the id as it was
given when that is the id, and with the integer that the id stands for in every other case
(`Rule.Refuses`). `consistent_records_are_read` says so; that no other end is possible comes from
`Rule.ofRecord_ending`, as elementary values cannot lead to the ends that are no refusals.
-/

namespace FormRouting

/-! ## Elementary values -/

namespace Value

/-- Nothing, a truth value, a number or a text. Numbers are finite, and integers have no more digits
than are ever converted. -/
inductive Elementary : Value → Prop where
  | null : Elementary .null
  | bool (b : Bool) : Elementary (.bool b)
  | int {n : ℤ} (h : (Nat.toDigits 10 n.natAbs).length ≤ IntegerText.digitLimit) :
      Elementary (.int n)
  | real (negative : Bool) (rank : Fin Binary64.finiteCount) :
      Elementary (.real (.finite negative rank))
  | text (s : String) : Elementary (.text s)

theorem Elementary.not_isInfinite {v : Value} (h : v.Elementary) : ¬v.IsInfinite := by
  rintro ⟨negative, rfl⟩
  cases h

theorem Elementary.not_keyless {v : Value} (h : v.Elementary) : ¬v.Keyless := by
  intro hkeyless
  cases hkeyless <;> cases h

/-- Elementary values have no more digits than are ever written. -/
theorem Elementary.isWritable {v : Value} (h : v.Elementary) : v.isWritable = true := by
  cases h with
  | int h => rw [isWritable_int, IntegerText.isWritable, decide_eq_true h]
  | text s => exact isWritable_text s
  | _ => rw [Value.isWritable]

/-- A field of a record of elementary values is elementary, and so is what stands for it when it is
missing. -/
theorem elementary_fieldOr {entries : List (Value × Value)} (h : ∀ e ∈ entries, e.2.Elementary)
    (key : String) {other : Value} (hother : other.Elementary) :
    (fieldOr entries key other).Elementary := by
  unfold fieldOr
  cases hlookup : lookup key entries with
  | none => exact hother
  | some v =>
    obtain ⟨e, he, rfl⟩ := exists_mem_of_lookup hlookup
    exact h e he

/-- A field of a record is filled: it is there, and neither null nor the empty text. -/
def Filled (entries : List (Value × Value)) (key : String) : Prop :=
  ∃ v, lookup key entries = some v ∧ v ≠ .null ∧ v ≠ .text ""

theorem filled_iff {entries : List (Value × Value)} {key : String} :
    Filled entries key ↔ (field entries key).isUnset = false := by
  unfold Filled field fieldOr
  cases lookup key entries with
  | none => simp [isUnset]
  | some v => cases v <;> simp [isUnset]

instance (entries : List (Value × Value)) (key : String) : Decidable (Filled entries key) :=
  decidable_of_iff _ filled_iff.symm

/-- A text in the place of a field is that of an entry. -/
theorem field_eq_text_iff {entries : List (Value × Value)} {key s : String} :
    field entries key = .text s ↔ lookup key entries = some (.text s) := by
  unfold field fieldOr
  cases lookup key entries <;> simp

end Value

open Value (Filled)

theorem ActionKind.name_inj {k l : ActionKind} : k.name = l.name ↔ k = l := by
  rw [← ActionKind.ofName?_eq_some_iff, ActionKind.ofName?_name, Option.some.injEq]

/-! ## Requirements -/

namespace Rule

/-- What is required of a record that describes a rule. -/
inductive Requirement where
  | id
  | question
  | operator
  | priority
  | action
  | target
deriving DecidableEq, Repr

/-- All requirements, in the order in which they are checked. -/
def Requirement.all : List Requirement := [.id, .question, .operator, .priority, .action, .target]

/-- A record meets a requirement. Its id stands for an integer; it names a question, an operator and
an action; its priority stands for an integer unless it does not count as true; and of the target
fields it fills the one of its action and no other. -/
def Meets (entries : List (Value × Value)) : Requirement → Prop
  | .id => ∃ n, (Value.field entries "id").toInteger = .ok n
  | .question => Filled entries "question_id"
  | .operator => ∃ operator : Operator,
      Value.lookup "operator" entries = some (.text operator.name)
  | .priority => ∀ v, Value.lookup "priority" entries = some v → v.truthy = true →
      ∃ n, v.toInteger = .ok n
  | .action => ∃ kind : ActionKind, Value.lookup "action" entries = some (.text kind.name)
  | .target => ∃ kind : ActionKind, Value.lookup "action" entries = some (.text kind.name) ∧
      ∀ other : ActionKind, Filled entries other.targetField ↔ other = kind

/-- The refusal of a record that does not meet a requirement: the id that it carries, and the
defect. -/
inductive Refuses (entries : List (Value × Value)) : Requirement → Value → RuleDefect → Prop where
  | id : Refuses entries .id (Value.field entries "id") .idNotInteger
  | question {n : ℤ} (hid : (Value.field entries "id").toInteger = .ok n) :
      Refuses entries .question (.int n) .missingQuestion
  | operator {n : ℤ} (hid : (Value.field entries "id").toInteger = .ok n) :
      Refuses entries .operator (.int n) (.unknownOperator (Value.field entries "operator"))
  | priority {n : ℤ} (hid : (Value.field entries "id").toInteger = .ok n) :
      Refuses entries .priority (.int n) (.priorityNotInteger (Value.field entries "priority"))
  | action {n : ℤ} (hid : (Value.field entries "id").toInteger = .ok n) :
      Refuses entries .action (.int n)
        (.unknownAction (Value.fieldOr entries "action" (.text "")))
  | target {n : ℤ} (hid : (Value.field entries "id").toInteger = .ok n) {kind : ActionKind}
      (hkind : Value.lookup "action" entries = some (.text kind.name)) :
      Refuses entries .target (.int n) (.wrongTargets kind
        (ActionKind.all.filter fun other => Filled entries other.targetField))

/-- A record is judged by its requirements: it meets all of them, and is read as a rule that names a
question and has a target, or it is refused for the first one that it does not meet. -/
inductive Judged (entries : List (Value × Value)) : Except RuleError Rule → Prop where
  | read {r : Rule} (hmeets : ∀ c, Meets entries c) (hquestion : r.questionId ≠ "")
      (htarget : r.action.target ≠ "") : Judged entries (.ok r)
  | refused (before : List Requirement) {after : List Requirement} {c : Requirement}
      {ruleId : Value} {defect : RuleDefect} (hall : Requirement.all = before ++ c :: after)
      (hbefore : ∀ b ∈ before, Meets entries b) (hnot : ¬Meets entries c)
      (hrefuses : Refuses entries c ruleId defect) :
      Judged entries (.error (.refused ruleId defect))

/-! ## Checks -/

section

variable {entries : List (Value × Value)}

theorem filledTargets_eq (entries : List (Value × Value)) :
    Action.filledTargets entries =
      ActionKind.all.filter fun other => Filled entries other.targetField := by
  refine List.filter_congr fun other _ => ?_
  rw [Bool.eq_iff_iff, Bool.not_eq_true', decide_eq_true_iff, Value.filled_iff]

/-- Of the target fields a record fills one and no other exactly when that is all it fills. -/
theorem filledTargets_eq_singleton_iff {kind : ActionKind} :
    Action.filledTargets entries = [kind] ↔
      ∀ other : ActionKind, Filled entries other.targetField ↔ other = kind := by
  rw [filledTargets_eq]
  constructor
  · intro h other
    have hall : other ∈ ActionKind.all := by cases other <;> decide
    rw [← List.mem_singleton, ← h, List.mem_filter, decide_eq_true_iff, and_iff_right hall]
  · intro h
    simp only [h]
    cases kind <;> rfl

/-- The value in the place of an action names one exactly when it is there and does. -/
theorem actionOf_eq_iff {kind : ActionKind} :
    actionOf entries = .text kind.name ↔
      Value.lookup "action" entries = some (.text kind.name) := by
  unfold actionOf Value.fieldOr
  cases Value.lookup "action" entries with
  | none => cases kind <;> simp [ActionKind.name]
  | some v => simp

/-- What is read as the priority stands for an integer exactly when the requirement is met. -/
theorem meets_priority_iff :
    Meets entries .priority ↔ ∃ n, (priorityOf entries).toInteger = .ok n := by
  unfold Meets priorityOf Value.field Value.fieldOr Value.orElse
  cases Value.lookup "priority" entries with
  | none => simp [Value.truthy]
  | some v => cases htruthy : v.truthy <;> simp [htruthy]

/-- A record that passes the checks in front meets the first three requirements. -/
theorem Opens.meets {id : ℤ} {operator : Operator} (h : Opens entries id operator) :
    ∀ c ∈ [Requirement.id, .question, .operator], Meets entries c := by
  simp only [List.forall_mem_cons, List.not_mem_nil, false_implies, implies_true, and_true]
  exact ⟨⟨id, h.id⟩, Value.filled_iff.mpr h.question, operator, Value.field_eq_text_iff.mp h.operator⟩

/-- A record that is read up to its action meets the first four. -/
theorem Proceeds.meets_four {id priority : ℤ} {operator : Operator}
    (h : Proceeds entries id operator priority) :
    ∀ c ∈ [Requirement.id, .question, .operator, .priority], Meets entries c := by
  have hlast : ∀ c ∈ [Requirement.priority], Meets entries c := by
    simpa using meets_priority_iff.mpr ⟨priority, h.priority⟩
  exact List.forall_mem_append.mpr ⟨h.meets, hlast⟩

/-- What a check of a record of elementary values fails with can be told. -/
theorem Fails.isWritable {ruleId : Value} {defect : RuleDefect} (hfails : Fails entries ruleId defect)
    (h : ∀ e ∈ entries, e.2.Elementary) : ruleId.isWritable = true ∧ defect.isWritable = true := by
  have hfield (key : String) : (Value.field entries key).isWritable = true :=
    (Value.elementary_fieldOr h key .null).isWritable
  have hid {id : ℤ} (hid : (Value.field entries "id").toInteger = .ok id) :
      (Value.int id).isWritable = true :=
    (Value.isWritable_int id).trans (Value.isWritable_of_toInteger hid (hfield "id"))
  cases hfails with
  | id => exact ⟨hfield "id", rfl⟩
  | question hread => exact ⟨hid hread, rfl⟩
  | operator hread => exact ⟨hid hread, hfield "operator"⟩
  | priority hopens => exact ⟨hid hopens.id, hfield "priority"⟩
  | action hproceeds =>
    exact ⟨hid hproceeds.id, (Value.elementary_fieldOr h "action" (.text "")).isWritable⟩
  | target hproceeds => exact ⟨hid hproceeds.id, rfl⟩

/-- Elementary values lead to a rule or to a refusal. -/
theorem not_astray (h : ∀ e ∈ entries, e.2.Elementary) : ¬Astray entries := by
  have hfield (key : String) := Value.elementary_fieldOr h key .null
  intro hastray
  cases hastray with
  | id hid => exact (hfield "id").not_isInfinite hid
  | priority _ hpriority => exact (hfield "priority").not_isInfinite hpriority
  | text _ _ htexts =>
    exact htexts ⟨(hfield "question_id").isWritable,
      (Value.elementary_fieldOr h "value" (.text "")).isWritable⟩
  | action _ haction =>
    exact (Value.elementary_fieldOr h "action" (.text "")).not_keyless haction
  | target _ _ _ htarget =>
    have htext := (hfield _).isWritable.symm.trans htarget
    cases htext
  | untold hfails hlong => exact hlong (hfails.isWritable h)

/-- A record that fails a check does not meet the requirement, and meets those before it. -/
theorem Fails.judged {ruleId : Value} {defect : RuleDefect} (h : Fails entries ruleId defect) :
    Judged entries (.error (.refused ruleId defect)) := by
  cases h with
  | id hnone _ =>
    refine .refused [] rfl (by simp) ?_ .id
    rintro ⟨n, hn⟩
    exact hnone n hn
  | question hid hunset =>
    refine .refused [.id] rfl (by simpa using ⟨_, hid⟩) ?_ (.question hid)
    rw [Meets, Value.filled_iff, hunset]
    exact Bool.noConfusion
  | operator hid hquestion hnone =>
    refine .refused [.id, .question] rfl ?_ ?_ (.operator hid)
    · simpa using ⟨⟨_, hid⟩, Value.filled_iff.mpr hquestion⟩
    · rintro ⟨operator, hoperator⟩
      exact hnone operator (Value.field_eq_text_iff.mpr hoperator)
  | priority hopens hnone _ =>
    refine .refused [.id, .question, .operator] rfl hopens.meets ?_
      (.priority hopens.id)
    rw [meets_priority_iff]
    rintro ⟨n, hn⟩
    exact hnone n hn
  | action hproceeds _ hnone =>
    refine .refused [.id, .question, .operator, .priority] rfl hproceeds.meets_four ?_
      (.action hproceeds.id)
    rintro ⟨kind, hkind⟩
    exact hnone kind (actionOf_eq_iff.mpr hkind)
  | target hproceeds hkind hfilled =>
    have haction := actionOf_eq_iff.mp hkind
    have hbefore : ∀ c ∈ [Requirement.action], Meets entries c := by simpa using ⟨_, haction⟩
    have hrefuses := Refuses.target hproceeds.id haction
    rw [← filledTargets_eq] at hrefuses
    refine .refused ([.id, .question, .operator, .priority] ++ [.action]) rfl
      (List.forall_mem_append.mpr ⟨hproceeds.meets_four, hbefore⟩) ?_ hrefuses
    -- The record names one action, so it is the target field of this one that counts.
    rintro ⟨kind, hnamed, honly⟩
    obtain rfl := ActionKind.name_inj.mp (Value.text.inj (Option.some.inj (hnamed.symm.trans haction)))
    exact hfilled (filledTargets_eq_singleton_iff.mpr honly)

/-- However reading a record ends, unless it is astray the record is judged by its requirements. -/
theorem Ending.judged {result : Except RuleError Rule} (hend : Ending entries result)
    (hresult : ofRecord (.map entries) = result) (h : ¬Astray entries) : Judged entries result := by
  have hsettled (e : ReadError) : result ≠ .error (.unreadable e) := by
    rintro rfl
    exact h (ofRecord_eq_unreadable_iff.mp ⟨e, hresult⟩)
  cases hend with
  | refused hfails _ => exact hfails.judged
  | rule hproceeds hkind hfilled _ =>
    have hcomplete := complete_of_ofRecord hresult
    have hfour := hproceeds.meets_four
    have haction := actionOf_eq_iff.mp hkind
    refine .read (fun c => ?_) hcomplete.question hcomplete.target
    cases c with
    | action => exact ⟨_, haction⟩
    | target => exact ⟨_, haction, filledTargets_eq_singleton_iff.mp hfilled⟩
    | _ => exact hfour _ (by simp)
  | _ => exact absurd rfl (hsettled _)

end

/-- Records are read as rules exactly when they are consistent. A record of elementary values is read
when it meets all six requirements, and then the rule names a question and has a target. Otherwise
it is refused for the first requirement that it does not meet, with its id as it was given when that
is the id, and with the integer that the id stands for in every other case. -/
theorem consistent_records_are_read (entries : List (Value × Value))
    (h : ∀ e ∈ entries, e.2.Elementary) :
    ((∃ r, ofRecord (.map entries) = .ok r) ↔ ∀ c, Meets entries c) ∧
      Judged entries (ofRecord (.map entries)) := by
  have hjudged := (ofRecord_ending entries).judged rfl (not_astray h)
  refine ⟨?_, hjudged⟩
  generalize ofRecord (.map entries) = result at hjudged
  cases hjudged with
  | read hmeets _ _ => exact iff_of_true ⟨_, rfl⟩ hmeets
  | refused _ _ _ hnot _ => exact iff_of_false (by simp) fun hmeets => hnot (hmeets _)

/-- A record with blanks around its id, false for its question, the empty text for its priority and
zero for its target is read; and one that names no operator and fills two targets is refused for the
operator, with the integer. -/
theorem consistent_records_are_read_zero :
    let sound : List (Value × Value) := [
      (.text "id", .text " 7 "), (.text "question_id", .bool false),
      (.text "operator", .text "contains"), (.text "priority", .text ""),
      (.text "action", .text "show_message"), (.text "target_url", .text ""),
      (.text "target_message", .int 0)]
    let faulty : List (Value × Value) := [
      (.text "id", .text " 7 "), (.text "question_id", .bool false),
      (.text "operator", .null), (.text "action", .text "show_message"),
      (.text "target_url", .text "https://a"), (.text "target_message", .int 0)]
    (∀ e ∈ sound, e.2.Elementary) ∧ (∀ c, Meets sound c) ∧
      Judged sound (.ok ⟨7, "False", .contains, "", ⟨.showMessage, "0"⟩, 0, true⟩) ∧
      (∀ e ∈ faulty, e.2.Elementary) ∧
      Judged faulty (.error (.refused (.int 7) (.unknownOperator .null))) := by
  intro sound faulty
  have hzero : (Value.int 0).Elementary := .int (by decide)
  have hsound : ∀ e ∈ sound, e.2.Elementary := by
    simp [sound, hzero, Value.Elementary.text, Value.Elementary.bool]
  have hfaulty : ∀ e ∈ faulty, e.2.Elementary := by
    simp [faulty, hzero, Value.Elementary.text, Value.Elementary.bool, Value.Elementary.null]
  have hread : ofRecord (.map sound) =
      .ok ⟨7, "False", .contains, "", ⟨.showMessage, "0"⟩, 0, true⟩ := by cbv
  have hrefused : ofRecord (.map faulty) = .error (.refused (.int 7) (.unknownOperator .null)) := by
    cbv
  obtain ⟨hmeets, hjudged⟩ := consistent_records_are_read sound hsound
  obtain ⟨-, hjudged'⟩ := consistent_records_are_read faulty hfaulty
  rw [hread] at hjudged hmeets
  rw [hrefused] at hjudged'
  exact ⟨hsound, hmeets.mp ⟨_, rfl⟩, hjudged, hfaulty, hjudged'⟩

end Rule

end FormRouting
