import FormRouting.Proofs.Form.LeftOut

/-!
# Definitions that fail unforeseen

What is wrong with a definition is reported as a fault of it, but for two things that reading a value
does not foresee: a value that is no record where a field is asked for that a record may have, and an
infinite number in the place of an integer. A reading that ends with one of these is `Unforeseen`.

`Form.Wayward` lists the definitions that are read so, each by the value that leads there: everything
that is read before it is right. `Form.unforeseen_ofDefinition_iff` says that there are no others.
The lemmas before it follow the readers, one for each of them.
-/

namespace FormRouting

/-! ## Readings -/

/-- A reading ends with an error that is not foreseen. -/
def Unforeseen {α : Type} (reading : Except ReadError α) : Prop :=
  ∃ e, reading = .error e ∧ e.isDefinitionFault = false

section

variable {α β : Type}

theorem not_unforeseen_ok (a : α) : ¬Unforeseen (.ok a : Except ReadError α) := by
  rintro ⟨e, he, -⟩
  cases he

/-- A reading that goes on with the result of another one fails unforeseen if that one does, or if it
does so itself. -/
theorem unforeseen_bind_iff {x : Except ReadError α} {f : α → Except ReadError β} :
    Unforeseen (x >>= f) ↔ Unforeseen x ∨ ∃ a, x = .ok a ∧ Unforeseen (f a) := by
  cases x <;> simp [Unforeseen, bind, Except.bind]

/-- A reading whose result is changed fails unforeseen exactly if it did before. -/
theorem unforeseen_map_iff {x : Except ReadError α} {f : α → β} :
    Unforeseen (x.map f) ↔ Unforeseen x := by
  cases x <;> simp [Unforeseen, Except.map]

/-- Reading the members of a list fails unforeseen at the first member that cannot be read. -/
theorem unforeseen_mapM_iff {f : α → Except ReadError β} {xs : List α} :
    Unforeseen (xs.mapM f) ↔
      ∃ before x after, xs = before ++ x :: after ∧ (∀ y ∈ before, ∃ b, f y = .ok b) ∧
        Unforeseen (f x) := by
  -- The induction is on the members, and the first of them is before the error or has it.
  induction xs with
  | nil =>
    rw [List.mapM_nil]
    exact iff_of_false (not_unforeseen_ok _) (by simp)
  | cons first rest ih =>
    rw [List.mapM_cons, unforeseen_bind_iff]
    constructor
    · rintro (hfirst | ⟨b, hb, hrest⟩)
      · exact ⟨[], first, rest, rfl, by simp, hfirst⟩
      · rcases unforeseen_bind_iff.mp hrest with hrest | ⟨bs, -, hlast⟩
        · obtain ⟨before, x, after, rfl, hbefore, hx⟩ := ih.mp hrest
          refine ⟨first :: before, x, after, rfl, ?_, hx⟩
          rw [List.forall_mem_cons]
          exact ⟨⟨b, hb⟩, hbefore⟩
        · exact absurd hlast (not_unforeseen_ok _)
    · rintro ⟨before, x, after, hsplit, hbefore, hx⟩
      rcases List.cons_eq_append_iff.mp hsplit with ⟨rfl, hhead⟩ | ⟨between, rfl, rfl⟩
      · obtain ⟨rfl, -⟩ := List.cons.inj hhead
        exact .inl hx
      · rw [List.forall_mem_cons] at hbefore
        obtain ⟨⟨b, hb⟩, hbetween⟩ := hbefore
        have hrest := ih.mpr ⟨between, x, after, rfl, hbetween, hx⟩
        exact .inr ⟨b, hb, unforeseen_bind_iff.mpr (.inl hrest)⟩

end

namespace Value

/-- A value that has no entries is no record. -/
def IsNoRecord (v : Value) : Prop :=
  ∀ entries, v ≠ .map entries

/-- A value is no record, or one of which something holds. -/
inductive NoRecordOr (holds : List (Value × Value) → Prop) : Value → Prop where
  | noRecord {v : Value} (h : v.IsNoRecord) : NoRecordOr holds v
  | record {entries : List (Value × Value)} (h : holds entries) : NoRecordOr holds (.map entries)

@[simp]
theorem noRecordOr_map_iff {holds : List (Value × Value) → Prop} {entries : List (Value × Value)} :
    NoRecordOr holds (.map entries) ↔ holds entries := by
  constructor
  · intro h
    cases h with
    | noRecord h => exact absurd rfl (h entries)
    | record h => exact h
  · exact .record

theorem unforeseen_fields_iff {v : Value} : Unforeseen v.fields ↔ v.IsNoRecord := by
  cases v <;> simp [Unforeseen, fields, IsNoRecord, ReadError.isDefinitionFault]

theorem not_unforeseen_need (entries : List (Value × Value)) (key : String) :
    ¬Unforeseen (need entries key) := by
  rw [need]
  cases lookup key entries <;> simp [Unforeseen, ReadError.isDefinitionFault]

theorem not_unforeseen_members (v : Value) : ¬Unforeseen v.members := by
  rw [members]
  cases v.items? <;> simp [Unforeseen, ReadError.isDefinitionFault]

theorem not_unforeseen_readText (v : Value) : ¬Unforeseen v.readText := by
  unfold readText
  split_ifs <;> simp [Unforeseen, ReadError.isDefinitionFault]

theorem not_unforeseen_mapM_readText (vs : List Value) : ¬Unforeseen (vs.mapM readText) := by
  rw [unforeseen_mapM_iff]
  rintro ⟨-, v, -, -, -, h⟩
  exact not_unforeseen_readText v h

theorem unforeseen_readInteger_iff {v : Value} : Unforeseen v.readInteger ↔ v.IsInfinite := by
  rw [← toInteger_eq_infinite_iff, readInteger]
  cases v.toInteger with
  | ok n => simp [Unforeseen, Except.mapError]
  | error e => cases e <;> simp [Unforeseen, Except.mapError, ReadError.isDefinitionFault]

/-- An infinite field is there. -/
theorem isInfinite_field_iff {entries : List (Value × Value)} {key : String} :
    (field entries key).IsInfinite ↔ ∃ v, lookup key entries = some v ∧ v.IsInfinite := by
  rw [field, fieldOr]
  cases lookup key entries <;> simp [IsInfinite]

/-- A field in whose place an integer is put when it is missing is as infinite as the field. -/
theorem isInfinite_fieldOr_int {entries : List (Value × Value)} {key : String} {n : ℤ} :
    (fieldOr entries key (.int n)).IsInfinite ↔ (field entries key).IsInfinite := by
  rw [isInfinite_field_iff, fieldOr]
  cases lookup key entries <;> simp [IsInfinite]

end Value

/-! ## Questions -/

/-- A record of a question is read up to its place in the order, which is infinite. -/
structure Question.Overflows (entries : List (Value × Value)) : Prop where
  id : ∃ id, Value.lookup "id" entries = some id ∧ id.isWritable = true
  type : ∃ type : QuestionType, Value.lookup "type" entries = some (.text type.name)
  options : ∃ members, ((Value.field entries "options").orElse (.list [])).members = .ok members ∧
    ∀ v ∈ members, v.isWritable = true
  orderIndex : (Value.field entries "order_index").IsInfinite

theorem QuestionType.not_unforeseen_ofValue (v : Value) : ¬Unforeseen (ofValue v) := by
  rw [ofValue.eq_def]
  split
  · split <;> simp [Unforeseen, ReadError.isDefinitionFault]
  · unfold ReadError.showing
    split_ifs <;> simp [Unforeseen, ReadError.isDefinitionFault]

namespace Question

/-- A record fails unforeseen only at the place in the order, which is read last. -/
theorem unforeseen_ofRecord_map_iff {entries : List (Value × Value)} :
    Unforeseen (ofRecord (.map entries)) ↔ Overflows entries := by
  have hindex : Unforeseen
      ((Value.fieldOr entries "order_index" (.int 0)).orElse (.int 0)).readInteger ↔
        (Value.field entries "order_index").IsInfinite := by
    rw [Value.unforeseen_readInteger_iff, Value.isInfinite_orElse_int, Value.isInfinite_fieldOr_int]
  rw [ofRecord.eq_def]
  simp only [unforeseen_bind_iff, Value.not_unforeseen_need, QuestionType.not_unforeseen_ofValue,
    Value.not_unforeseen_members, Value.not_unforeseen_readText,
    Value.not_unforeseen_mapM_readText, hindex, false_or, Value.need_eq_ok_iff,
    QuestionType.ofValue_eq_ok_iff, Value.readText_eq_ok_iff, Value.mapM_readText_eq_ok_iff]
  constructor
  · rintro ⟨id, hid, _, ⟨hwritable, -⟩, v, htype, type, rfl, members, hmembers, _, ⟨hall, -⟩,
      hinfinite | ⟨index, -, hbuilt⟩⟩
    · exact ⟨⟨id, hid, hwritable⟩, ⟨type, htype⟩, ⟨members, hmembers, hall⟩, hinfinite⟩
    · exact absurd hbuilt (not_unforeseen_ok _)
  · rintro ⟨⟨id, hid, hwritable⟩, ⟨type, htype⟩, ⟨members, hmembers, hall⟩, hinfinite⟩
    exact ⟨id, hid, _, ⟨hwritable, rfl⟩, _, htype, type, rfl, members, hmembers, _, ⟨hall, rfl⟩,
      .inl hinfinite⟩

/-- A value that is no record is a foreseen fault in the place of a question. -/
theorem not_unforeseen_ofRecord {v : Value} (h : v.IsNoRecord) : ¬Unforeseen (ofRecord v) := by
  cases v with
  | map entries => exact absurd rfl (h entries)
  | _ => simp [ofRecord, Unforeseen, ReadError.isDefinitionFault]

/-- Reading a question fails unforeseen exactly at an infinite place in the order. -/
theorem unforeseen_ofRecord_iff {record : Value} :
    Unforeseen (ofRecord record) ↔ ∃ entries, record = .map entries ∧ Overflows entries := by
  constructor
  · intro h
    by_cases hrecord : ∃ entries, record = .map entries
    · obtain ⟨entries, rfl⟩ := hrecord
      exact ⟨entries, rfl, unforeseen_ofRecord_map_iff.mp h⟩
    · exact absurd h (not_unforeseen_ofRecord (not_exists.mp hrecord))
  · rintro ⟨entries, rfl, h⟩
    exact unforeseen_ofRecord_map_iff.mpr h

end Question

/-! ## Rules -/

namespace Rule

/-- A record of a rule holds an infinite number where an integer is asked for: the id, or the
priority behind the checks in front. -/
inductive Overflows (entries : List (Value × Value)) : Prop where
  | id (h : (Value.field entries "id").IsInfinite)
  | priority {id : ℤ} {operator : Operator} (hopens : Opens entries id operator)
      (h : (Value.field entries "priority").IsInfinite)

/-- A value that is no record is neither read nor refused. -/
theorem ofRecord_of_isNoRecord {v : Value} (h : v.IsNoRecord) :
    ofRecord v = .error (.unreadable (.noFields v.kindName)) := by
  cases v with
  | map entries => exact absurd rfl (h entries)
  | _ => rfl

/-- A record that overflows is read up to the infinite number. -/
theorem Overflows.ofRecord_eq {entries : List (Value × Value)} (h : Overflows entries) :
    ofRecord (.map entries) = .error (.unreadable (.integer .infinite)) := by
  cases h with
  | id h => exact ofRecord_of_isInfinite h
  | priority hopens h => exact hopens.ofRecord_of_isInfinite h

/-- Reading a rule ends with an error that is not foreseen exactly at a value that is no record, and
at a record that overflows. -/
theorem unreadable_unforeseen_iff {record : Value} :
    (∃ e, ofRecord record = .error (.unreadable e) ∧ e.isDefinitionFault = false) ↔
      Value.NoRecordOr Overflows record := by
  constructor
  · rintro ⟨e, he, hunforeseen⟩
    by_cases hrecord : ∃ entries, record = .map entries
    · obtain ⟨entries, rfl⟩ := hrecord
      have hending := ofRecord_ending entries
      rw [he] at hending
      cases hending with
      | idInfinite h => exact .record (.id h)
      | priorityInfinite hopens h => exact .record (.priority hopens h)
      | untold | textUnwritable | actionKeyless | targetUnwritable => cases hunforeseen
    · exact .noRecord (not_exists.mp hrecord)
  · intro h
    cases h with
    | noRecord h => exact ⟨_, ofRecord_of_isNoRecord h, rfl⟩
    | record h => exact ⟨_, h.ofRecord_eq, rfl⟩

end Rule

/-! ## Definitions -/

namespace Form

/-- All questions of a definition are read. -/
def QuestionsRead (entries : List (Value × Value)) : Prop :=
  ∃ records, listed entries "questions" = .ok records ∧
    ∀ record ∈ records, ∃ q, Question.ofRecord record = .ok q

/-- A record is read as a rule, or refused, which can be reported if the slug of its form can be
written. -/
def RuleTold (entries : List (Value × Value)) (record : Value) : Prop :=
  Rule.Settled record ∧
    ((Value.field entries "slug").isWritable = true ∨ ∃ rule, Rule.ofRecord record = .ok rule)

/-- A definition leads to an error that is not foreseen: it is no record; or it comes to a question
that overflows, behind questions that are read; or, with all questions read, to a rule that is no
record or overflows, behind rules that are read or reported; or, with all of these read or reported,
its id is infinite. -/
inductive Wayward : Value → Prop where
  | noRecord {d : Value} (h : d.IsNoRecord) : Wayward d
  | question {entries record : List (Value × Value)} {before after : List Value}
      (hlisted : listed entries "questions" = .ok (before ++ .map record :: after))
      (hbefore : ∀ r ∈ before, ∃ q, Question.ofRecord r = .ok q) (h : Question.Overflows record) :
      Wayward (.map entries)
  | rule {entries : List (Value × Value)} {record : Value} {before after : List Value}
      (hquestions : QuestionsRead entries)
      (hlisted : listed entries "rules" = .ok (before ++ record :: after))
      (hbefore : ∀ r ∈ before, RuleTold entries r) (h : Value.NoRecordOr Rule.Overflows record) :
      Wayward (.map entries)
  | id {entries : List (Value × Value)} {records : List Value}
      (hquestions : QuestionsRead entries) (hlisted : listed entries "rules" = .ok records)
      (hrules : ∀ r ∈ records, RuleTold entries r) (h : (Value.field entries "id").IsInfinite) :
      Wayward (.map entries)

/-- What becomes of one record: the rule, or nothing if it is refused and reported. -/
def keep (report : Value → RuleDefect → Except ReadError LogEntry) (record : Value) :
    Except ReadError (Option Rule) :=
  match Rule.ofRecord record with
  | .ok rule => .ok (some rule)
  | .error (.refused ruleId defect) => (report ruleId defect).map fun _ => none
  | .error (.unreadable e) => .error e

/-- What rules are read, without the reports: each record is kept or left out. -/
theorem snd_readRules (report : Value → RuleDefect → Except ReadError LogEntry)
    (records : List Value) :
    (readRules report records).2 = (records.mapM (keep report)).map List.reduceOption := by
  induction records with
  | nil => rfl
  | cons record rest ih =>
    rw [readRules, List.mapM_cons, keep]
    cases Rule.ofRecord record with
    | ok rule =>
      dsimp only
      rw [ih]
      cases rest.mapM (keep report) <;> rfl
    | error e =>
      cases e with
      | unreadable e => rfl
      | refused ruleId defect =>
        dsimp only
        cases report ruleId defect with
        | error e => rfl
        | ok entry =>
          dsimp only
          rw [ih]
          cases rest.mapM (keep report) <;> rfl

section

variable {entries : List (Value × Value)} {records : List Value}

theorem exists_keep_eq_ok_iff {record : Value} :
    (∃ kept, keep (skipRule (Value.field entries "slug")) record = .ok kept) ↔
      RuleTold entries record := by
  unfold keep RuleTold Rule.Settled
  cases hrecord : Rule.ofRecord record with
  | ok rule => simp
  | error e =>
    cases e with
    | unreadable e => simp
    | refused ruleId defect =>
      dsimp only
      rw [skipRule, LogEntry.write, isWritable_skippedRule (Rule.isWritable_of_refused hrecord).1]
      cases (Value.field entries "slug").isWritable <;> simp [Except.map]

/-- A record fails unforeseen if it is no record or overflows; that it cannot be reported is a fault
that is foreseen. -/
theorem unforeseen_keep_iff {record : Value} :
    Unforeseen (keep (skipRule (Value.field entries "slug")) record) ↔
      Value.NoRecordOr Rule.Overflows record := by
  rw [← Rule.unreadable_unforeseen_iff]
  unfold keep Unforeseen
  cases hrecord : Rule.ofRecord record with
  | ok rule => simp
  | error e =>
    cases e with
    | unreadable e => simp
    | refused ruleId defect =>
      dsimp only
      rw [skipRule, LogEntry.write]
      split_ifs <;> simp [Except.map, ReadError.isDefinitionFault]

/-- Rules fail unforeseen at the first one that is neither read nor reported, if that is no record or
overflows. -/
theorem unforeseen_readRules_iff :
    Unforeseen (readRules (skipRule (Value.field entries "slug")) records).2 ↔
      ∃ before record after, records = before ++ record :: after ∧
        (∀ r ∈ before, RuleTold entries r) ∧ Value.NoRecordOr Rule.Overflows record := by
  rw [snd_readRules, unforeseen_map_iff, unforeseen_mapM_iff]
  simp only [exists_keep_eq_ok_iff, unforeseen_keep_iff]

/-- Rules are read when each of them is read or reported. -/
theorem exists_readRules_eq_ok_iff :
    (∃ rules, (readRules (skipRule (Value.field entries "slug")) records).2 = .ok rules) ↔
      ∀ r ∈ records, RuleTold entries r := by
  simp only [snd_readRules, map_eq_ok_iff, ← exists_keep_eq_ok_iff, ← exists_mapM_eq_ok_iff]
  constructor
  · rintro ⟨-, kept, hkept, -⟩
    exact ⟨kept, hkept⟩
  · rintro ⟨kept, hkept⟩
    exact ⟨_, kept, hkept, rfl⟩

end

theorem not_unforeseen_listed (entries : List (Value × Value)) (key : String) :
    ¬Unforeseen (listed entries key) :=
  Value.not_unforeseen_members _

/-- Assembling a form fails unforeseen exactly at an infinite id. -/
theorem unforeseen_assemble_iff {entries : List (Value × Value)} {questions : List Question}
    {rules : List Rule} :
    Unforeseen (assemble entries questions rules) ↔ (Value.field entries "id").IsInfinite := by
  rw [assemble.eq_def, Value.isInfinite_field_iff]
  simp only [unforeseen_bind_iff, Value.not_unforeseen_need, Value.unforeseen_readInteger_iff,
    Value.not_unforeseen_readText, false_or, Value.need_eq_ok_iff]
  constructor
  · rintro ⟨id, hid, hinfinite | ⟨n, -, slug, -, text, -, hbuilt⟩⟩
    · exact ⟨id, hid, hinfinite⟩
    · exact absurd hbuilt (not_unforeseen_ok _)
  · rintro ⟨id, hid, hinfinite⟩
    exact ⟨id, hid, .inl hinfinite⟩

/-- What building a form results in, without the reports: the questions are read, then the rules, and
then the form is assembled. -/
theorem snd_ofDefinition (d : Value) :
    (ofDefinition d).2 = (do
      let entries ← d.fields
      let questions ← (← listed entries "questions").mapM Question.ofRecord
      let records ← listed entries "rules"
      let rules ← (readRules (skipRule (Value.field entries "slug")) records).2
      assemble entries questions rules) := by
  rw [ofDefinition]
  cases d.fields with
  | error e => rfl
  | ok entries =>
    cases hquestions : listed entries "questions" with
    | error e => simp only [bind, Except.bind, hquestions]
    | ok questionRecords =>
      cases hread : questionRecords.mapM Question.ofRecord with
      | error e => simp only [bind, Except.bind, hquestions, hread]
      | ok questions =>
        cases hrules : listed entries "rules" <;>
          simp only [bind, Except.bind, pure, Except.pure, hquestions, hread, hrules]

/-- Building a form fails unforeseen exactly if the definition leads there. -/
theorem unforeseen_ofDefinition_iff {d : Value} : Unforeseen (ofDefinition d).2 ↔ Wayward d := by
  -- The lemmas on readings say where the first error is; each such place is a constructor.
  rw [snd_ofDefinition]
  simp only [unforeseen_bind_iff, Value.unforeseen_fields_iff, not_unforeseen_listed,
    unforeseen_mapM_iff, unforeseen_readRules_iff, unforeseen_assemble_iff, false_or,
    Value.fields_eq_ok_iff, Question.unforeseen_ofRecord_iff]
  constructor
  · rintro (h | ⟨entries, rfl, records, hlisted,
      ⟨before, _, after, rfl, hbefore, record, rfl, h⟩ | ⟨questions, hread, h⟩⟩)
    · exact .noRecord h
    · exact .question hlisted hbefore h
    · have hquestions : QuestionsRead entries :=
        ⟨records, hlisted, exists_mapM_eq_ok_iff.mp ⟨questions, hread⟩⟩
      rcases h with ⟨_, hrules, ⟨before, record, after, rfl, hbefore, h⟩ | ⟨rules, hkept, h⟩⟩
      · exact .rule hquestions hrules hbefore h
      · exact .id hquestions hrules (exists_readRules_eq_ok_iff.mp ⟨rules, hkept⟩) h
  · intro h
    cases h with
    | noRecord h => exact .inl h
    | question hlisted hbefore h =>
      exact .inr ⟨_, rfl, _, hlisted, .inl ⟨_, _, _, rfl, hbefore, _, rfl, h⟩⟩
    | rule hquestions hrules hbefore h =>
      obtain ⟨records, hlisted, hread⟩ := hquestions
      obtain ⟨questions, hread⟩ := exists_mapM_eq_ok_iff.mpr hread
      exact .inr ⟨_, rfl, records, hlisted, .inr ⟨questions, hread, _, hrules,
        .inl ⟨_, _, _, rfl, hbefore, h⟩⟩⟩
    | id hquestions hrules hsettled h =>
      obtain ⟨records, hlisted, hread⟩ := hquestions
      obtain ⟨questions, hread⟩ := exists_mapM_eq_ok_iff.mpr hread
      obtain ⟨rules, hkept⟩ := exists_readRules_eq_ok_iff.mpr hsettled
      exact .inr ⟨_, rfl, records, hlisted, .inr ⟨questions, hread, _, hrules,
        .inr ⟨rules, hkept, h⟩⟩⟩

end Form

end FormRouting
