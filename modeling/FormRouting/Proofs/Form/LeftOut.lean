import FormRouting.Proofs.Form.RuleRecord

/-!
# Rules that are left out

A form is built from the rules of its definition that can be read. A refused one is reported and
left out, and the form is built without it, whatever the values of the record are
(`refused_rules_are_left_out`). The only records that keep a form from being built are those that
are read astray (`Rule.Astray`): the first of them ends the building with its error.

What is refused can be told, and so it can be reported if the slug of the form can be written
(`readRules_skipRule`). The lemmas about lists of records are about reports that do not fail.
-/

namespace FormRouting

/-! ## Records -/

namespace Rule

/-- The refusal that reading a record ends with, if it does: the id and the defect. -/
def refusal? (record : Value) : Option (Value × RuleDefect) :=
  match ofRecord record with
  | .error (.refused ruleId defect) => some (ruleId, defect)
  | _ => none

/-- A record is read as a rule, or refused. -/
def Settled (record : Value) : Prop :=
  (∃ rule, ofRecord record = .ok rule) ∨
    ∃ ruleId defect, ofRecord record = .error (.refused ruleId defect)

theorem not_settled_iff {record : Value} :
    ¬Settled record ↔ ∃ e, ofRecord record = .error (.unreadable e) := by
  unfold Settled
  cases ofRecord record with
  | ok rule => simp
  | error e => cases e <;> simp

/-- The records that are settled are those that are not read astray. -/
theorem settled_map_iff {entries : List (Value × Value)} :
    Settled (.map entries) ↔ ¬Astray entries := by
  rw [← ofRecord_eq_unreadable_iff, ← not_settled_iff, not_not]

end Rule

namespace Form

/-! ## Lists of records -/

/-- The rules that records are read as, in their order. -/
def rulesOf (records : List Value) : List Rule :=
  records.filterMap fun record => (Rule.ofRecord record).toOption

/-- The reports of the refused ones among records, in their order. -/
def reportsOf (report : Value → RuleDefect → LogEntry) (records : List Value) : List LogEntry :=
  (records.filterMap Rule.refusal?).map fun refusal => report refusal.1 refusal.2

section

variable {report : Value → RuleDefect → LogEntry}

theorem partsOf_cons_of_ok {record : Value} {rule : Rule} (h : Rule.ofRecord record = .ok rule)
    (rest : List Value) :
    rulesOf (record :: rest) = rule :: rulesOf rest ∧
      reportsOf report (record :: rest) = reportsOf report rest := by
  simp [rulesOf, reportsOf, Rule.refusal?, h, Except.toOption]

theorem partsOf_cons_of_refused {record ruleId : Value} {defect : RuleDefect}
    (h : Rule.ofRecord record = .error (.refused ruleId defect)) (rest : List Value) :
    rulesOf (record :: rest) = rulesOf rest ∧
      reportsOf report (record :: rest) = report ruleId defect :: reportsOf report rest := by
  simp [rulesOf, reportsOf, Rule.refusal?, h, Except.toOption]

/-- Settled records are read, or reported and left out, before those that follow. -/
theorem readRules_append {records : List Value} (h : ∀ record ∈ records, Rule.Settled record)
    (rest : List Value) :
    readRules (fun ruleId defect => .ok (report ruleId defect)) (records ++ rest) =
      Prod.map (reportsOf report records ++ ·) (Except.map (rulesOf records ++ ·))
        (readRules (fun ruleId defect => .ok (report ruleId defect)) rest) := by
  induction records with
  | nil =>
    rw [List.nil_append]
    rcases readRules (fun ruleId defect => .ok (report ruleId defect)) rest with
      ⟨reports, _ | rules⟩ <;> rfl
  | cons record records ih =>
    rw [List.forall_mem_cons] at h
    -- The head is read before the tail, so what it adds comes in front of what the tail gives.
    rw [List.cons_append, readRules, ih h.2]
    rcases readRules (fun ruleId defect => .ok (report ruleId defect)) rest with ⟨reports, rules⟩
    rcases h.1 with ⟨rule, hread⟩ | ⟨ruleId, defect, hread⟩
    · obtain ⟨hrules, hreports⟩ := partsOf_cons_of_ok hread records
      rw [hread, hrules, hreports]
      cases rules <;> rfl
    · obtain ⟨hrules, hreports⟩ := partsOf_cons_of_refused hread records
      rw [hread, hrules, hreports]
      rfl

/-- Settled records are all read, or reported and left out. -/
theorem readRules_of_settled {records : List Value}
    (h : ∀ record ∈ records, Rule.Settled record) :
    readRules (fun ruleId defect => .ok (report ruleId defect)) records =
      (reportsOf report records, .ok (rulesOf records)) :=
  calc readRules (fun ruleId defect => .ok (report ruleId defect)) records
      = readRules (fun ruleId defect => .ok (report ruleId defect)) (records ++ []) := by
        rw [List.append_nil]
    _ = Prod.map (reportsOf report records ++ ·) (Except.map (rulesOf records ++ ·)) ([], .ok []) :=
        readRules_append h []
    _ = (reportsOf report records, .ok (rulesOf records)) := by simp [Except.map]

/-- The first record that is not settled ends the reading. -/
theorem readRules_of_unreadable {records : List Value}
    (h : ∀ record ∈ records, Rule.Settled record) {record : Value} {e : ReadError}
    (he : Rule.ofRecord record = .error (.unreadable e)) (rest : List Value) :
    readRules (fun ruleId defect => .ok (report ruleId defect)) (records ++ record :: rest) =
      (reportsOf report records, .error e) := by
  rw [readRules_append h, readRules, he]
  simp [Except.map]

end

/-- Records are all settled, or there is a first one that is not. -/
theorem forall_settled_or_split (records : List Value) :
    (∀ record ∈ records, Rule.Settled record) ∨
      ∃ before record after e, records = before ++ record :: after ∧
        (∀ r ∈ before, Rule.Settled r) ∧ Rule.ofRecord record = .error (.unreadable e) := by
  induction records with
  | nil => exact .inl (by simp)
  | cons record rest ih =>
    by_cases hfirst : Rule.Settled record
    · rcases ih with hall | ⟨before, bad, after, e, rfl, hbefore, he⟩
      · exact .inl (List.forall_mem_cons.mpr ⟨hfirst, hall⟩)
      · exact .inr ⟨record :: before, bad, after, e, rfl,
          List.forall_mem_cons.mpr ⟨hfirst, hbefore⟩, he⟩
    · obtain ⟨e, he⟩ := Rule.not_settled_iff.mp hfirst
      exact .inr ⟨[], record, rest, e, rfl, by simp, he⟩

/-- What is refused and what is kept does not depend on how refusals are reported. -/
theorem readRules_eq (records : List Value) :
    ∃ (refusals : List (Value × RuleDefect)) (rules : Except ReadError (List Rule)),
      ∀ report : Value → RuleDefect → LogEntry,
        readRules (fun ruleId defect => .ok (report ruleId defect)) records =
          (refusals.map fun refusal => report refusal.1 refusal.2, rules) := by
  rcases forall_settled_or_split records with hall | ⟨before, record, after, e, rfl, hbefore, he⟩
  · exact ⟨_, _, fun report => readRules_of_settled hall⟩
  · exact ⟨_, _, fun report => readRules_of_unreadable hbefore he after⟩

/-- How refusals are reported matters only for ids that can be written, as no other is refused. -/
theorem readRules_congr {report report' : Value → RuleDefect → Except ReadError LogEntry}
    (h : ∀ ruleId defect, ruleId.isWritable = true → report ruleId defect = report' ruleId defect)
    (records : List Value) : readRules report records = readRules report' records := by
  induction records with
  | nil => rfl
  | cons record rest ih =>
    rw [readRules, readRules, ih]
    cases hrecord : Rule.ofRecord record with
    | ok rule => rfl
    | error e =>
      cases e with
      | unreadable e => rfl
      | refused ruleId defect =>
        dsimp only
        rw [h ruleId defect (Rule.isWritable_of_refused hrecord).1]

/-- A refusal can be reported under a slug that can be written. -/
theorem isWritable_skippedRule {slug ruleId : Value} {defect : RuleDefect}
    (h : ruleId.isWritable = true) :
    (skippedRule slug ruleId defect).isWritable = slug.isWritable := by
  simp [LogEntry.isWritable, skippedRule, h]

/-- Under a slug that can be written every refused record is reported. -/
theorem readRules_skipRule {slug : Value} (hslug : slug.isWritable = true) (records : List Value) :
    readRules (skipRule slug) records =
      readRules (fun ruleId defect => .ok (skippedRule slug ruleId defect)) records :=
  readRules_congr (fun _ _ hid => if_pos ((isWritable_skippedRule hid).trans hslug)) records

/-! ## Definitions -/

/-- A definition has an id that stands for an integer, a slug that can be written, questions that can
be read, and records for its rules. -/
structure Framed (entries : List (Value × Value)) (n : ℤ) (slug : Value)
    (questions : List Question) (records : List (List (Value × Value))) : Prop where
  id : ∃ id, Value.lookup "id" entries = some id ∧ id.toInteger = .ok n
  slug : Value.lookup "slug" entries = some slug ∧ slug.isWritable = true
  questions : ∃ questionRecords, listed entries "questions" = .ok questionRecords ∧
    List.Forall₂ (fun record q => Question.ofRecord record = .ok q) questionRecords questions
  rules : listed entries "rules" = .ok (records.map .map)

section

variable {entries : List (Value × Value)} {n : ℤ} {slug : Value} {questions : List Question}
  {records : List (List (Value × Value))}

/-- What comes of such a definition is up to its rules. -/
theorem Framed.ofDefinition_eq (h : Framed entries n slug questions records) :
    ofDefinition (.map entries) =
      let (reports, rules) := readRules
        (fun ruleId defect => .ok (skippedRule slug ruleId defect)) (records.map .map)
      (reports, rules.map (assembled entries n slug questions)) := by
  obtain ⟨id, hid, hn⟩ := h.id
  obtain ⟨questionRecords, hlisted, hread⟩ := h.questions
  have hassemble (rules : List Rule) :
      assemble entries questions rules = .ok (assembled entries n slug questions rules) :=
    assemble_eq_ok_iff.mpr ⟨id, n, slug, hid, mapError_eq_ok_iff.mpr hn, h.slug.1, h.slug.2, rfl⟩
  rw [ofDefinition_of_listed hlisted h.rules, mapM_eq_ok_iff.mpr hread, Value.field,
    Value.fieldOr_of_lookup h.slug.1, readRules_skipRule h.slug.2]
  dsimp only
  rcases readRules (fun ruleId defect => .ok (skippedRule slug ruleId defect)) (records.map .map)
    with ⟨reports, _ | rules⟩
  · rfl
  · exact Prod.ext rfl (hassemble rules)

/-- A refused rule never keeps a form from being built. Every record is read as a rule or refused,
but for those that are read astray. With none of these, the form is built from the rules that are
read, in their order, and each refused one is reported once. Otherwise the first of these ends the
building with its error. -/
theorem refused_rules_are_left_out (h : Framed entries n slug questions records) :
    (∀ record : List (Value × Value), Rule.Settled (.map record) ↔ ¬Rule.Astray record) ∧
      ((∀ record ∈ records, ¬Rule.Astray record) →
        ofDefinition (.map entries) = (reportsOf (skippedRule slug) (records.map .map),
          .ok (assembled entries n slug questions (rulesOf (records.map .map))))) ∧
      ∀ before record after, records = before ++ record :: after →
        (∀ r ∈ before, ¬Rule.Astray r) → Rule.Astray record →
        ∃ e, Rule.ofRecord (.map record) = .error (.unreadable e) ∧
          ofDefinition (.map entries) =
            (reportsOf (skippedRule slug) (before.map .map), .error e) := by
  have hsettled {rs : List (List (Value × Value))} (hrs : ∀ r ∈ rs, ¬Rule.Astray r) :
      ∀ record ∈ rs.map Value.map, Rule.Settled record :=
    List.forall_mem_map.mpr fun r hr => Rule.settled_map_iff.mpr (hrs r hr)
  refine ⟨fun record => Rule.settled_map_iff, fun hnone => ?_, ?_⟩
  · rw [h.ofDefinition_eq, readRules_of_settled (hsettled hnone)]
    rfl
  · -- Behind the first record that is read astray nothing is looked at.
    rintro before record after rfl hbefore hastray
    obtain ⟨e, he⟩ := Rule.ofRecord_eq_unreadable_iff.mpr hastray
    refine ⟨e, he, ?_⟩
    rw [h.ofDefinition_eq, List.map_append, List.map_cons,
      readRules_of_unreadable (hsettled hbefore) he]
    rfl

end

/-- The record of a rule that shows a message to those who ask for bulk. -/
def bulkRule (id : ℤ) (operator : String) (priority : Value) : List (Value × Value) :=
  [(.text "id", .int id), (.text "question_id", .text "bulk"), (.text "operator", .text operator),
    (.text "value", .bool true), (.text "action", .text "show_message"),
    (.text "target_message", .text "In stock"), (.text "priority", priority)]

/-- A definition with the given records of rules. -/
def bulkForm (records : List (List (Value × Value))) : List (Value × Value) :=
  [(.text "id", .text " 10 "), (.text "slug", .text "stock"),
    (.text "rules", .list (records.map .map))]

theorem framed_bulkForm (records : List (List (Value × Value))) :
    Framed (bulkForm records) 10 (.text "stock") [] records :=
  ⟨⟨.text " 10 ", rfl, by cbv⟩, ⟨rfl, Value.isWritable_text _⟩, ⟨[], rfl, .nil⟩,
    listed_of_lookup rfl⟩

/-- A rule with an operator that there is not is left out from between two others. -/
theorem refused_rules_are_left_out_middle :
    let records := [bulkRule 1 "equals" .null, bulkRule 2 "sounds_like" (.int 4),
      bulkRule 3 "contains" (.text "-2")]
    Framed (bulkForm records) 10 (.text "stock") [] records ∧
      ∃ form, ofDefinition (.map (bulkForm records)) =
        ([skippedRule (.text "stock") (.int 2) (.unknownOperator (.text "sounds_like"))],
          .ok form) ∧ form.rules.map (·.id) = [1, 3] := by
  intro records
  have hframed := framed_bulkForm records
  have hone : Rule.Settled (.map (bulkRule 1 "equals" .null)) := .inl ⟨_, rfl⟩
  have htwo : Rule.Settled (.map (bulkRule 2 "sounds_like" (.int 4))) := .inr ⟨_, _, rfl⟩
  have hthree : Rule.Settled (.map (bulkRule 3 "contains" (.text "-2"))) := .inl ⟨_, by cbv⟩
  obtain ⟨hsettled, hbuilt, -⟩ := refused_rules_are_left_out hframed
  have hnone : ∀ record ∈ records, ¬Rule.Astray record := by
    simp only [records, List.forall_mem_cons, List.not_mem_nil, false_implies, implies_true,
      and_true]
    exact ⟨(hsettled _).mp hone, (hsettled _).mp htwo, (hsettled _).mp hthree⟩
  exact ⟨hframed, _, hbuilt hnone, by cbv⟩

/-- An infinite priority, a list in the place of an action, and an integer with too many digits in
the place of a value are neither read nor refused, and each keeps the form that it belongs to from
being built. -/
theorem wayward_rules_fail_form :
    let infinite := bulkRule 1 "equals" (.real (.infinite false))
    let listed := (.text "action", .list [.text "show_message"]) :: bulkRule 1 "equals" .null
    let long := (.text "value", .int (10 ^ IntegerText.digitLimit)) :: bulkRule 1 "equals" .null
    (¬Rule.Settled (.map infinite) ∧
        ofDefinition (.map (bulkForm [infinite])) = ([], .error (.integer .infinite))) ∧
      (¬Rule.Settled (.map listed) ∧
        ofDefinition (.map (bulkForm [listed])) = ([], .error (.unhashable "list"))) ∧
      ¬Rule.Settled (.map long) ∧
        ofDefinition (.map (bulkForm [long])) = ([], .error .unwritable) := by
  intro infinite listed long
  have hopens : Rule.Opens long 1 .equals := ⟨rfl, rfl, rfl⟩
  have hvalue : Rule.valueOf long = .int (10 ^ IntegerText.digitLimit) := rfl
  have hlong : Rule.ofRecord (.map long) = .error (.unreadable .unwritable) := by
    have hpriority : (Rule.priorityOf long).toInteger = .ok 0 := rfl
    refine hopens.ofRecord_of_not_isWritable hpriority fun htexts => ?_
    rw [hvalue, Value.isWritable_int, IntegerText.not_isWritable_ten_pow] at htexts
    exact Bool.false_ne_true htexts.2
  refine ⟨⟨Rule.not_settled_iff.mpr ⟨_, rfl⟩, by cbv⟩,
    ⟨Rule.not_settled_iff.mpr ⟨_, rfl⟩, by cbv⟩, Rule.not_settled_iff.mpr ⟨_, hlong⟩, ?_⟩
  rw [(framed_bulkForm [long]).ofDefinition_eq, List.map_singleton, ← List.nil_append [_],
    readRules_of_unreadable (List.forall_mem_nil _) hlong]
  rfl

end Form

end FormRouting
