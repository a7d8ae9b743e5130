import FormRouting.Proofs.Check.Definition
import FormRouting.Proofs.Form.Wayward

/-!
# Malformed documents

Loading the forms of a document and checking it are both meant to tell what is wrong with it: loading
with an error of the service, and the check with a report. Both do, but for documents that list a
definition which is read into an error that is not foreseen, or of which the check would have to
tell with an integer that has too many digits (`malformed_documents_are_told`). Loading stops at the
first definition that is at fault, so what counts there is the first fault (`Definitions.Wayward`).
The check goes on behind faults, so there every place counts (`Check.Wayward`).
`not_every_malformed_document_is_told` has a document of each kind.
-/

namespace FormRouting

/-! ## Loading -/

namespace Definitions

/-- A list of definitions is loaded as far as a definition that leads to an error which is not
foreseen. -/
def Wayward (document : Value) : Prop :=
  ∃ before d after, ofDocument? document = some (before ++ d :: after) ∧
    (∀ earlier ∈ before, ∃ form, (Form.ofDefinition earlier).2 = .ok form) ∧ Form.Wayward d

/-- Loading a document ends as it is meant to: with one form for each definition, in order, or with
an error of the service that says that the store is unavailable. -/
inductive Tells (path : String) (document : Value) : Except DefinitionsError (List Form) → Prop where
  | forms {definitions : List Value} {forms : List Form}
      (hlisted : ofDocument? document = some definitions)
      (hbuilt : List.Forall₂ (fun d form => (Form.ofDefinition d).2 = .ok form) definitions forms) :
      Tells path document (.ok forms)
  | failure {e : DefinitionsError} {error : ServiceError} (h : e.serviceError? path = some error)
      (hunavailable : error.IsUnavailable) : Tells path document (.error e)

/-- What loading definitions results in, without the reports. -/
theorem snd_forms (definitions : List Value) :
    (forms definitions).2 = definitions.mapM fun d => (Form.ofDefinition d).2 := by
  induction definitions with
  | nil => rfl
  | cons d rest ih =>
    rw [forms, List.mapM_cons, ← ih]
    rcases Form.ofDefinition d with ⟨reports, e | form⟩
    · rfl
    · rcases forms rest with ⟨later, e | kept⟩ <;> rfl

theorem wayward_iff {document : Value} {definitions : List Value}
    (h : ofDocument? document = some definitions) :
    Wayward document ↔ Unforeseen (forms definitions).2 := by
  rw [snd_forms, unforeseen_mapM_iff, Wayward]
  simp only [h, Option.some.injEq, Form.unforeseen_ofDefinition_iff]

/-- Loading ends as it is meant to, but for the documents that are loaded as far as an error which is
not foreseen. -/
theorem tells_load_iff {path : String} {document : Value} :
    Tells path document (load document).2 ↔ ¬Wayward document := by
  rw [load]
  cases hlisted : ofDocument? document with
  | none =>
    refine iff_of_true (.failure rfl (ServiceError.isUnavailable_store _ _ _)) ?_
    rintro ⟨before, d, after, h, -⟩
    rw [hlisted] at h
    cases h
  | some definitions =>
    rw [wayward_iff hlisted]
    dsimp only
    cases hforms : (forms definitions).2 with
    | ok kept =>
      rw [snd_forms] at hforms
      exact iff_of_true (.forms hlisted (mapM_eq_ok_iff.mp hforms)) (not_unforeseen_ok kept)
    | error e =>
      change Tells path document (.error (.ofRead e)) ↔ ¬Unforeseen (.error e)
      rw [DefinitionsError.ofRead]
      cases hfault : e.isDefinitionFault with
      | true =>
        refine iff_of_true (.failure rfl (ServiceError.isUnavailable_store _ _ _)) ?_
        simp [Unforeseen, hfault]
      | false =>
        refine iff_of_false (fun htells => ?_) (not_not.mpr ⟨e, rfl, hfault⟩)
        -- There is no error of the service for what is not foreseen.
        cases htells with
        | failure h hunavailable => cases h

/-- The error of such a document is none of the service. -/
theorem unforeseen_of_wayward (path : String) {document : Value} (h : Wayward document) :
    ∃ e, (load document).2 = .error e ∧ e.serviceError? path = none := by
  obtain ⟨before, d, after, hlisted, -⟩ := id h
  obtain ⟨e, he, hunforeseen⟩ := (wayward_iff hlisted).mp h
  refine ⟨.unforeseen e, ?_, rfl⟩
  rw [load, hlisted]
  change (forms (before ++ d :: after)).2.mapError DefinitionsError.ofRead = _
  rw [he, Except.mapError, DefinitionsError.ofRead, hunforeseen]
  rfl

end Definitions

/-! ## Checking -/

namespace Check

/-- A record of a question ends the check: its place in the order is infinite, or its id cannot be
written, so that it is neither read nor told of. -/
inductive QuestionStops (entries : List (Value × Value)) : Prop where
  | overflows (h : Question.Overflows entries)
  | id (h : (Value.field entries "id").isWritable = false)

/-- The ids of the rules that records are read as, as far as they cannot be written. -/
def unwritableIds (records : List Value) : List Int :=
  ((Form.rulesOf records).map (·.id)).filter fun id => !IntegerText.isWritable id

/-- The questions that records are read as, in their order. -/
def questionsOf (records : List Value) : List Question :=
  records.filterMap fun record => (Question.ofRecord record).toOption

/-- A definition keeps the check from coming to an end. It is no record, or its slug cannot be
written; it does not list its questions or its rules, or has among these a value that is no record, a
question that ends the check, or a rule that is neither read nor refused; or there is a problem with
a rule that was read, whose id cannot be written: it is repeated, or it is that of a rule which names
no question. -/
inductive Wayward : Value → Prop where
  | noRecord {d : Value} (h : d.IsNoRecord) : Wayward d
  | slug {entries : List (Value × Value)} {slug : Value}
      (hslug : Value.lookup "slug" entries = some slug) (h : slug.isWritable = false) :
      Wayward (.map entries)
  | unlisted {entries : List (Value × Value)} {key : String} (hkey : key ∈ ["questions", "rules"])
      (h : ∀ records, Form.listed entries key ≠ .ok records) : Wayward (.map entries)
  | question {entries : List (Value × Value)} {records : List Value} {record : Value}
      (hlisted : Form.listed entries "questions" = .ok records) (hmem : record ∈ records)
      (h : record.NoRecordOr QuestionStops) : Wayward (.map entries)
  | rule {entries : List (Value × Value)} {records : List Value} {record : Value}
      (hlisted : Form.listed entries "rules" = .ok records) (hmem : record ∈ records)
      (h : record.NoRecordOr Rule.Astray) : Wayward (.map entries)
  | repeated {entries : List (Value × Value)} {records : List Value}
      (hlisted : Form.listed entries "rules" = .ok records) (h : ¬(unwritableIds records).Nodup) :
      Wayward (.map entries)
  | dangling {entries : List (Value × Value)} {questionRecords records : List Value}
      {reference : DanglingRule}
      (hquestions : Form.listed entries "questions" = .ok questionRecords)
      (hrules : Form.listed entries "rules" = .ok records)
      (hmem : reference ∈ Rule.dangling (Form.rulesOf records) (questionsOf questionRecords))
      (h : IntegerText.isWritable reference.ruleId = false) : Wayward (.map entries)

/-- What can be told is told. -/
theorem exists_tell_eq_ok_iff {problems : List Problem} :
    (∃ told, tell problems = .ok told) ↔ ∀ p ∈ problems, p.isWritable = true := by
  simp only [tell_eq_ok_iff, exists_and_left, exists_eq', and_true]

/-! ### Questions -/

/-- The id of a question that was read can be written. -/
theorem not_questionStops_of_ofRecord {entries : List (Value × Value)} {q : Question}
    (h : Question.ofRecord (.map entries) = .ok q) : ¬QuestionStops entries := by
  intro hstops
  cases hstops with
  | overflows hoverflows =>
    have hunforeseen := Question.unforeseen_ofRecord_map_iff.mpr hoverflows
    rw [h] at hunforeseen
    exact not_unforeseen_ok q hunforeseen
  | id hid =>
    obtain ⟨id, hlookup, hread⟩ := (Question.ofRecord_eq_ok_iff.mp h).id
    rw [Value.field, Value.fieldOr_of_lookup hlookup, (Value.readText_eq_ok_iff.mp hread).1] at hid
    cases hid

/-- Going through records of questions comes to an end exactly if all of them are records, and none
of these ends it. -/
theorem exists_questions_eq_ok_iff {seen : List String} {records : List Value} :
    (∃ result, questions seen records = .ok result) ↔
      ∀ record ∈ records, ¬record.NoRecordOr QuestionStops := by
  induction records generalizing seen with
  | nil => exact iff_of_true ⟨_, rfl⟩ (by simp)
  | cons record rest ih =>
    rw [List.forall_mem_cons, questions]
    by_cases hrecord : ∃ entries, record = .map entries
    · obtain ⟨entries, rfl⟩ := hrecord
      rw [Value.noRecordOr_map_iff]
      cases hread : Question.ofRecord (.map entries) with
      | ok q =>
        rw [← @ih (q.id :: seen), and_iff_right (not_questionStops_of_ofRecord hread)]
        exact exists_bind_eq_ok_iff fun _ => ⟨_, rfl⟩
      | error e =>
        dsimp only
        cases hfault : e.isDefinitionFault with
        | true =>
          -- A fault is a problem, which is told with the id, and the check goes on to the rest.
          have hfinite : ¬Question.Overflows entries := by
            rw [← Question.unforeseen_ofRecord_map_iff, hread]
            simp [Unforeseen, hfault]
          have hstops : QuestionStops entries ↔ (Value.field entries "id").isWritable = false := by
            constructor
            · rintro (h | h)
              · exact absurd h hfinite
              · exact h
            · exact .id
          have htold : (∃ told, tell [.question (Value.field entries "id") e] = .ok told) ↔
              (Value.field entries "id").isWritable = true := by
            simp [exists_tell_eq_ok_iff, Problem.isWritable]
          rw [if_pos rfl, ← @ih seen, hstops, Bool.not_eq_false, ← htold]
          exact exists_bind_bind_eq_ok_iff fun _ _ => ⟨_, rfl⟩
        | false =>
          have hunforeseen : Unforeseen (Question.ofRecord (.map entries)) := ⟨e, hread, hfault⟩
          have hoverflows := Question.unforeseen_ofRecord_map_iff.mp hunforeseen
          exact iff_of_false (by simp) fun h => h.1 (.overflows hoverflows)
    · -- The fault is reported with a field of the record, and there is none.
      have hno : record.IsNoRecord := not_exists.mp hrecord
      refine iff_of_false ?_ fun h => h.1 (.noRecord hno)
      cases record with
      | map entries => exact absurd rfl (hno entries)
      | _ => simp [Question.ofRecord, Value.fields, ReadError.isDefinitionFault, bind, Except.bind]

/-- The questions that the check goes on with are those that records are read as. -/
theorem questionsOf_of_questions {seen : List String} {records : List Value}
    {problems : List Problem} {qs : List Question}
    (h : questions seen records = .ok (problems, qs)) : qs = questionsOf records := by
  induction records generalizing seen problems qs with
  | nil =>
    obtain ⟨-, rfl⟩ := Prod.mk.inj (Except.ok.inj h)
    rfl
  | cons record rest ih =>
    rw [questions] at h
    rw [questionsOf, List.filterMap_cons]
    cases hread : Question.ofRecord record with
    | ok q =>
      rw [hread] at h
      obtain ⟨⟨later, kept⟩, hrest, h⟩ := bind_eq_ok_iff.mp h
      obtain ⟨-, rfl⟩ := Prod.mk.inj (Except.ok.inj h)
      rw [ih hrest]
      rfl
    | error e =>
      rw [hread] at h
      dsimp only at h
      split_ifs at h
      obtain ⟨fields, -, h⟩ := bind_eq_ok_iff.mp h
      obtain ⟨told, -, h⟩ := bind_eq_ok_iff.mp h
      obtain ⟨⟨later, kept⟩, hrest, h⟩ := bind_eq_ok_iff.mp h
      obtain ⟨-, rfl⟩ := Prod.mk.inj (Except.ok.inj h)
      exact ih hrest

/-! ### Rules -/

/-- The values that are neither read nor refused in the place of a rule. -/
theorem noRecordOr_astray_iff {record : Value} :
    record.NoRecordOr Rule.Astray ↔ ¬Rule.Settled record := by
  by_cases hrecord : ∃ entries, record = .map entries
  · obtain ⟨entries, rfl⟩ := hrecord
    rw [Value.noRecordOr_map_iff, Rule.settled_map_iff, not_not]
  · have hno : record.IsNoRecord := not_exists.mp hrecord
    exact iff_of_true (.noRecord hno)
      (Rule.not_settled_iff.mpr ⟨_, Rule.ofRecord_of_isNoRecord hno⟩)

/-- That a rule repeats the id of another one can be told if the id can be written. -/
theorem exists_tell_duplicateRule_iff {seen : List Int} {id : Int} :
    (∃ told, tell (if seen.contains id then [.duplicateRule id] else []) = .ok told) ↔
      (IntegerText.isWritable id = false → id ∉ seen) := by
  rw [exists_tell_eq_ok_iff]
  by_cases hseen : id ∈ seen
  · simp [hseen, Problem.isWritable]
  · simp [hseen]

/-- Ids that cannot be written are fresh if the first id, unless it can be written, is new and the
others are fresh to it as well. -/
theorem fresh_unwritable_cons_iff {seen ids : List Int} {id : Int} :
    Fresh seen ((id :: ids).filter fun id => !IntegerText.isWritable id) ↔
      (IntegerText.isWritable id = false → id ∉ seen) ∧
        Fresh (id :: seen) (ids.filter fun id => !IntegerText.isWritable id) := by
  cases hid : IntegerText.isWritable id with
  | false =>
    rw [List.filter_cons_of_pos (by simp [hid]), fresh_cons_iff]
    simp
  | true =>
    -- An id that can be written is none of the others that cannot.
    rw [List.filter_cons_of_neg (by simp [hid])]
    simp only [Bool.true_eq_false, false_implies, true_and, Fresh, List.mem_filter, List.mem_cons,
      not_or]
    refine and_congr_right fun _ => forall₂_congr fun other hother => ?_
    have hne : other ≠ id := by
      rintro rfl
      simp [hid] at hother
    exact (and_iff_right hne).symm

/-- Going through records of rules comes to an end exactly if each of them is read or refused, and
none of those that are read repeats an id that cannot be written. -/
theorem exists_rules_eq_ok_iff {seen : List Int} {records : List Value} :
    (∃ result, rules seen records = .ok result) ↔
      (∀ record ∈ records, ¬record.NoRecordOr Rule.Astray) ∧ Fresh seen (unwritableIds records) := by
  simp only [noRecordOr_astray_iff, not_not]
  induction records generalizing seen with
  | nil => exact iff_of_true ⟨_, rfl⟩ ⟨by simp, by simp [unwritableIds, Form.rulesOf, Fresh]⟩
  | cons record rest ih =>
    rw [List.forall_mem_cons, rules]
    cases hrecord : Rule.ofRecord record with
    | ok r =>
      have hsettled : Rule.Settled record := .inl ⟨r, hrecord⟩
      have hids : unwritableIds (record :: rest) =
          (r.id :: (Form.rulesOf rest).map (·.id)).filter fun id => !IntegerText.isWritable id := by
        simp [unwritableIds, Form.rulesOf, hrecord, Except.toOption]
      rw [hids, fresh_unwritable_cons_iff, ← exists_tell_duplicateRule_iff, and_iff_right hsettled,
        and_left_comm]
      change _ ↔ _ ∧ _ ∧ Fresh _ (unwritableIds rest)
      rw [← @ih (r.id :: seen)]
      exact exists_bind_bind_eq_ok_iff fun _ _ => ⟨_, rfl⟩
    | error e =>
      -- A rule that is refused has no id that could be repeated.
      have hids : unwritableIds (record :: rest) = unwritableIds rest := by
        simp [unwritableIds, Form.rulesOf, hrecord, Except.toOption]
      rw [hids]
      cases e with
      | refused ruleId defect =>
        have hsettled : Rule.Settled record := .inr ⟨ruleId, defect, hrecord⟩
        rw [and_iff_right hsettled, ← @ih seen]
        exact exists_bind_eq_ok_iff fun _ => ⟨_, rfl⟩
      | unreadable e =>
        have hnot : ¬Rule.Settled record := Rule.not_settled_iff.mpr ⟨e, hrecord⟩
        exact iff_of_false (by simp) fun h => hnot h.1.1

/-- The rules that the check goes on with are those that records are read as. -/
theorem rulesOf_of_rules {seen : List Int} {records : List Value} {problems : List Problem}
    {rs : List Rule} (h : rules seen records = .ok (problems, rs)) : rs = Form.rulesOf records := by
  induction records generalizing seen problems rs with
  | nil =>
    obtain ⟨-, rfl⟩ := Prod.mk.inj (Except.ok.inj h)
    rfl
  | cons record rest ih =>
    rw [rules] at h
    rw [Form.rulesOf, List.filterMap_cons]
    cases hread : Rule.ofRecord record with
    | ok r =>
      rw [hread] at h
      obtain ⟨told, -, h⟩ := bind_eq_ok_iff.mp h
      obtain ⟨⟨later, kept⟩, hrest, h⟩ := bind_eq_ok_iff.mp h
      obtain ⟨-, rfl⟩ := Prod.mk.inj (Except.ok.inj h)
      rw [ih hrest]
      rfl
    | error e =>
      rw [hread] at h
      cases e with
      | unreadable e => cases h
      | refused ruleId defect =>
        obtain ⟨⟨later, kept⟩, hrest, h⟩ := bind_eq_ok_iff.mp h
        obtain ⟨-, rfl⟩ := Prod.mk.inj (Except.ok.inj h)
        exact ih hrest

/-! ### Definitions -/

/-- A record has a name exactly if its slug, where it has one, can be written. -/
theorem exists_nameOf_eq_ok_iff {index : ℕ} {entries : List (Value × Value)} :
    (∃ name, nameOf index (.map entries) = .ok name) ↔
      ∀ slug, Value.lookup "slug" entries = some slug → slug.isWritable = true := by
  change (∃ name, (Value.fieldOr entries "slug" _).readText = .ok name) ↔ _
  simp only [Value.readText_eq_ok_iff, exists_and_left, exists_eq', and_true]
  rw [Value.fieldOr]
  cases Value.lookup "slug" entries <;> simp

/-- Nothing keeps a definition from its check that has a name and whose check comes to an end. -/
theorem Examines.not_wayward {index : ℕ} {d : Value} {problems : List Problem}
    (h : Examines d problems) (hname : ∃ name, nameOf index d = .ok name) : ¬Wayward d := by
  obtain ⟨rfl, hquestions, hqs, hrules, hrs, htold, -⟩ := h
  obtain ⟨hsettled, hfresh⟩ := exists_rules_eq_ok_iff.mp ⟨_, hrs⟩
  -- Whatever would keep the definition from its check contradicts the step that it would stop.
  intro hwayward
  cases hwayward with
  | noRecord h => exact h _ rfl
  | slug hslug h =>
    rw [exists_nameOf_eq_ok_iff.mp hname _ hslug] at h
    cases h
  | unlisted hkey h =>
    rcases List.mem_pair.mp hkey with rfl | rfl
    · exact h _ hquestions
    · exact h _ hrules
  | question hlisted hmem h =>
    obtain rfl := Except.ok.inj (hquestions.symm.trans hlisted)
    exact exists_questions_eq_ok_iff.mp ⟨_, hqs⟩ _ hmem h
  | rule hlisted hmem h =>
    obtain rfl := Except.ok.inj (hrules.symm.trans hlisted)
    exact hsettled _ hmem h
  | repeated hlisted h =>
    obtain rfl := Except.ok.inj (hrules.symm.trans hlisted)
    exact h (fresh_nil_left_iff.mp hfresh)
  | dangling hlisted hlisted' hmem h =>
    obtain rfl := Except.ok.inj (hquestions.symm.trans hlisted)
    obtain rfl := Except.ok.inj (hrules.symm.trans hlisted')
    rw [← questionsOf_of_questions hqs, ← rulesOf_of_rules hrs] at hmem
    have hwritable := (tell_eq_ok_iff.mp htold).1 _ (List.mem_map_of_mem hmem)
    rw [Problem.isWritable, h] at hwritable
    cases hwritable

/-- Each step of the check of a definition comes to an end, as otherwise it would be what keeps the
definition from its check. -/
theorem exists_examines {d : Value} (h : ¬Wayward d) : ∃ problems, Examines d problems := by
  have hrecord : ∃ entries, d = .map entries := by
    by_contra hnone
    exact h (.noRecord (not_exists.mp hnone))
  obtain ⟨entries, rfl⟩ := hrecord
  have hlisted {key : String} (hkey : key ∈ ["questions", "rules"]) :
      ∃ records, Form.listed entries key = .ok records := by
    by_contra hnone
    exact h (.unlisted hkey (not_exists.mp hnone))
  obtain ⟨questionRecords, hquestions⟩ := @hlisted "questions" (by simp)
  obtain ⟨ruleRecords, hrules⟩ := @hlisted "rules" (by simp)
  obtain ⟨⟨ofQuestions, qs⟩, hqs⟩ : ∃ result, questions [] questionRecords = .ok result :=
    exists_questions_eq_ok_iff.mpr fun _ hmem hwrong => h (.question hquestions hmem hwrong)
  obtain ⟨⟨ofRules, rs⟩, hrs⟩ : ∃ result, rules [] ruleRecords = .ok result :=
    exists_rules_eq_ok_iff.mpr ⟨fun _ hmem hwrong => h (.rule hrules hmem hwrong),
      fresh_nil_left_iff.mpr (by_contra fun hrepeated => h (.repeated hrules hrepeated))⟩
  obtain ⟨dangling, htold⟩ :
      ∃ told, tell ((Rule.dangling rs qs).map .danglingRule) = .ok told := by
    rw [exists_tell_eq_ok_iff, List.forall_mem_map, questionsOf_of_questions hqs,
      rulesOf_of_rules hrs]
    exact fun reference hmem => by_contra fun hlong =>
      h (.dangling hquestions hrules hmem (Bool.eq_false_iff.mpr hlong))
  exact ⟨_, rfl, hquestions, hqs, hrules, hrs, htold, rfl⟩

/-- A definition has a name and its check comes to an end, but for the definitions that keep it from
that. -/
theorem exists_definition_eq_ok_iff {index : ℕ} {d : Value} :
    ((∃ name, nameOf index d = .ok name) ∧ ∃ problems, definition d = .ok problems) ↔
      ¬Wayward d := by
  simp only [definition_eq_ok_iff]
  constructor
  · rintro ⟨hname, problems, h⟩
    exact h.not_wayward hname
  · intro h
    obtain ⟨problems, hexamines⟩ := exists_examines h
    refine ⟨?_, problems, hexamines⟩
    obtain ⟨rfl, -⟩ := hexamines
    exact exists_nameOf_eq_ok_iff.mpr fun slug hslug =>
      by_contra fun hlong => h (.slug hslug (Bool.eq_false_iff.mpr hlong))

/-- Checking definitions comes to an end exactly if the check of each of them does. -/
theorem exists_definitionsFrom_eq_ok_iff {index : ℕ} {report : Report} {definitions : List Value} :
    (∃ result, definitionsFrom index report definitions = .ok result) ↔
      ∀ d ∈ definitions, ¬Wayward d := by
  induction definitions generalizing index report with
  | nil => exact iff_of_true ⟨report, rfl⟩ (by simp)
  | cons d rest ih =>
    rw [List.forall_mem_cons, definitionsFrom, ← @exists_definition_eq_ok_iff index]
    constructor
    · rintro ⟨result, h⟩
      obtain ⟨name, hname, h⟩ := bind_eq_ok_iff.mp h
      obtain ⟨problems, hproblems, h⟩ := bind_eq_ok_iff.mp h
      exact ⟨⟨⟨name, hname⟩, problems, hproblems⟩, ih.mp ⟨result, h⟩⟩
    · rintro ⟨⟨⟨name, hname⟩, problems, hproblems⟩, hrest⟩
      obtain ⟨result, hresult⟩ := ih.mpr hrest
      exact ⟨result, bind_eq_ok_iff.mpr ⟨name, hname,
        bind_eq_ok_iff.mpr ⟨problems, hproblems, hresult⟩⟩⟩

/-- The definition of a form with a given slug, which asks nothing. -/
def plain (slug : Value) : Value :=
  Value.record [("id", .int 1), ("slug", slug), ("title", .text "A")]

/-- There is nothing wrong with a definition that asks nothing, whatever its slug is. -/
theorem flawless_plain (slug : Value) :
    ∃ entries, plain slug = .map entries ∧ Flawless entries [] [] := by
  refine ⟨_, rfl, ⟨⟨⟨[], rfl, .nil⟩, ⟨[], rfl, .nil⟩⟩, fun name hname => ?_, .nil, by simp, .nil,
    by simp⟩⟩
  simp only [neededFields, List.mem_cons, List.not_mem_nil, or_false] at hname
  rcases hname with rfl | rfl | rfl <;> rfl

theorem definition_plain (slug : Value) : definition (plain slug) = .ok [] := by
  obtain ⟨entries, hentries, hflawless⟩ := flawless_plain slug
  exact definition_eq_nil_iff.mpr ⟨entries, [], [], hentries, hflawless⟩

/-- A slug that cannot be written ends the check, though there is nothing wrong with the definition. -/
theorem document_plain {path : String} {slug : Value} (h : slug.isWritable = false) :
    document path (.list [plain slug]) = .error .unwritable := by
  have hread : slug.readText = .error .unwritable := if_neg (by simp [h])
  change (slug.readText >>= _) = _
  rw [hread]
  rfl

/-- A document comes to a report exactly if each definition that it lists can be checked. The exit
status is then zero or one. -/
theorem exists_report_iff {path : String} {document : Value} :
    (∃ report, Check.document path document = .ok report ∧
        (report.exitStatus = 0 ∨ report.exitStatus = 1)) ↔
      ∀ definitions, Definitions.ofDocument? document = some definitions →
        ∀ d ∈ definitions, ¬Wayward d := by
  have hexit (report : Report) : report.exitStatus = 0 ∨ report.exitStatus = 1 := by
    rw [Report.exitStatus]
    exact (ite_eq_or_eq _ _ _)
  simp only [hexit, and_true]
  rw [Check.document]
  cases Definitions.ofDocument? document with
  | none => exact iff_of_true ⟨_, rfl⟩ (by simp)
  | some definitions =>
    simp only [Option.some.injEq, forall_eq']
    exact exists_definitionsFrom_eq_ok_iff

end Check

/-! ## Documents -/

/-- Whatever a document holds, loading it ends with the forms of its definitions or says that the
store is unavailable, and checking it ends with a report and an exit status, but for the documents
that list a definition which leads to an error that is not foreseen or, in the check, has something to
be told that cannot be written. Loading then ends with an error that is none of the service. -/
theorem malformed_documents_are_told (path : String) (d : Value) :
    (Definitions.Tells path d (Definitions.load d).2 ↔ ¬Definitions.Wayward d) ∧
      (Definitions.Wayward d →
        ∃ e, (Definitions.load d).2 = .error e ∧ e.serviceError? path = none) ∧
      ((∃ report, Check.document path d = .ok report ∧
          (report.exitStatus = 0 ∨ report.exitStatus = 1)) ↔
        ∀ definitions, Definitions.ofDocument? d = some definitions →
          ∀ definition ∈ definitions, ¬Check.Wayward definition) :=
  ⟨Definitions.tells_load_iff, Definitions.unforeseen_of_wayward path, Check.exists_report_iff⟩

/-- A definition with an infinite id and without a title. -/
def endless : Value :=
  Value.record [("id", .real (.infinite false)), ("slug", .text "a")]

/-- A document that is a number is told, and one with an infinite id is loaded into an error that is
none of the service, but can be checked. -/
theorem malformed_documents_are_told_endless :
    Definitions.Tells "forms.yaml" (.int 5) (Definitions.load (.int 5)).2 ∧
      Definitions.Wayward (.list [endless]) ∧
      (∃ e, (Definitions.load (.list [endless])).2 = .error e ∧
        e.serviceError? "forms.yaml" = none) ∧
      ∃ report, Check.document "forms.yaml" (.list [endless]) = .ok report ∧
        (report.exitStatus = 0 ∨ report.exitStatus = 1) := by
  obtain ⟨htells, -, -⟩ := malformed_documents_are_told "forms.yaml" (.int 5)
  obtain ⟨-, hescapes, hreports⟩ := malformed_documents_are_told "forms.yaml" (.list [endless])
  have hwayward : Definitions.Wayward (.list [endless]) :=
    ⟨[], endless, [], rfl, by simp, .id ⟨[], rfl, by simp⟩ rfl (by simp) ⟨false, rfl⟩⟩
  refine ⟨htells.mpr ?_, hwayward, hescapes hwayward, hreports.mpr ?_⟩
  · rintro ⟨before, d, after, hlisted, -⟩
    cases hlisted
  · rintro definitions hlisted definition hmem hdefinition
    obtain rfl : definitions = [endless] := (Option.some.inj hlisted).symm
    obtain rfl : definition = endless := List.mem_singleton.mp hmem
    -- There are neither questions nor rules at which the check could stop.
    cases hdefinition with
    | noRecord h => exact h _ rfl
    | slug hslug h =>
      obtain rfl := Option.some.inj hslug
      cases h
    | unlisted hkey h =>
      rcases List.mem_pair.mp hkey with rfl | rfl
      · exact h [] rfl
      · exact h [] rfl
    | question hlisted hmem h =>
      obtain rfl := Except.ok.inj hlisted
      cases hmem
    | rule hlisted hmem h =>
      obtain rfl := Except.ok.inj hlisted
      cases hmem
    | repeated hlisted h =>
      obtain rfl := Except.ok.inj hlisted
      exact h .nil
    | dangling hquestions hrules hmem h =>
      obtain rfl := Except.ok.inj hrules
      obtain ⟨r, hr, -⟩ := List.mem_map.mp hmem
      cases List.mem_mergeSort.mp (List.mem_filter.mp hr).1

/-- A number in the place of a definition, and an infinite place in the order, are told neither by
loading nor by the check, an infinite id is not told by loading, and a slug with too many digits is
not told by the check. -/
theorem not_every_malformed_document_is_told :
    let number : Value := .list [.int 5]
    let infinitePlace : Value := .list [Value.record [("id", .int 1), ("slug", .text "a"),
      ("title", .text "A"), ("questions", .list [Value.record [("id", .text "q"),
        ("type", .text "text"), ("order_index", .real (.infinite false))]])]]
    let longSlug : Value := .list [Check.plain (.int (10 ^ IntegerText.digitLimit))]
    Definitions.load number = ([], .error (.unforeseen (.noFields "int"))) ∧
      Check.document "forms.yaml" number = .error (.noFields "int") ∧
      Definitions.load (.list [endless]) = ([], .error (.unforeseen (.integer .infinite))) ∧
      Definitions.load infinitePlace = ([], .error (.unforeseen (.integer .infinite))) ∧
      Check.document "forms.yaml" infinitePlace = .error (.integer .infinite) ∧
      Check.document "forms.yaml" longSlug = .error .unwritable ∧
      ∀ e, (DefinitionsError.unforeseen e).serviceError? "forms.yaml" = none := by
  intro number infinitePlace longSlug
  have hlong : (Value.int (10 ^ IntegerText.digitLimit)).isWritable = false := by
    rw [Value.isWritable_int, IntegerText.not_isWritable_ten_pow]
  exact ⟨by cbv, by cbv, by cbv, by cbv, by cbv, Check.document_plain hlong, fun e => rfl⟩

end FormRouting
