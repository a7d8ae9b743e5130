import FormRouting.Proofs.Metrics.Ledger
import FormRouting.Proofs.Routing.Precedence
import FormRouting.Proofs.Value.Writable
import FormRouting.Service.Submit

/-!
# Handling a submission

What a submission comes to. Judging its answers results in what `judgement` says, which is up to the
settings, the form and the answers, and it counts what `judgeMarks` says. A verdict is reported before
it counts, and a report that is to be written and holds an integer without a text ends the work.
`Ending` lists the four ways in which the handler ends, each with the calls of the store for a record
that it made: before anything is counted, without a verdict, with the record refused by the store, and
with the record kept (`submit_ending`). When the form has an id and rules with ids that have texts
(`Form.Writable`), all reports can be made, so only invalid answers leave a submission without a
verdict (`judgement_of_writable`).
-/

namespace FormRouting

/-- A failure that a call of the store ends in: its own error, or one that nothing expects. -/
inductive Failure.OfStore : Failure → Prop where
  | store (source message : String) (details : Value) :
      OfStore (.service (.store source message details))
  | unforeseen (message : String) : OfStore (.unforeseen message)

/-- The ids of a form and of its rules have texts, so they can be reported and shown. -/
structure Form.Writable (form : Form) : Prop where
  id : form.id.isWritable = true
  rules : ∀ rule ∈ form.rules, IntegerText.isWritable rule.id = true

namespace MemoryStore

/-- A form is under some slug of the store. -/
def Holds (store : MemoryStore) (form : Form) : Prop :=
  ∃ slug, store.get? slug = some form

/-- The ids of the forms of a store, and of their rules, have texts. -/
def Writable (store : MemoryStore) : Prop :=
  ∀ form, store.Holds form → form.Writable

end MemoryStore

namespace Service

/-- A service afterwards differs from the one before in what it has counted, and in nothing else. -/
def CountsOnly (s s' : Service) : Prop :=
  ∃ metrics, s' = { s with metrics }

/-- A service afterwards has the settings of the one before, and the same faults arranged. -/
structure SameSettings (s s' : Service) : Prop where
  config : s'.config = s.config
  faults : s'.faults = s.faults

theorem SameSettings.refl (s : Service) : s.SameSettings s :=
  ⟨rfl, rfl⟩

theorem SameSettings.trans {s s' s'' : Service} (h : s.SameSettings s') (h' : s'.SameSettings s'') :
    s.SameSettings s'' :=
  ⟨h'.config.trans h.config, h'.faults.trans h.faults⟩

theorem CountsOnly.refl (s : Service) : s.CountsOnly s :=
  ⟨s.metrics, rfl⟩

theorem CountsOnly.trans {s s' s'' : Service} (h : s.CountsOnly s') (h' : s'.CountsOnly s'') :
    s.CountsOnly s'' := by
  obtain ⟨metrics, rfl⟩ := h
  obtain ⟨metrics, rfl⟩ := h'
  exact ⟨metrics, rfl⟩

theorem countsOnly_count (s : Service) (update : Metrics → Metrics) :
    s.CountsOnly (s.count update) :=
  ⟨_, rfl⟩

theorem CountsOnly.sameSettings {s s' : Service} (h : s.CountsOnly s') : s.SameSettings s' := by
  obtain ⟨metrics, rfl⟩ := h
  exact ⟨rfl, rfl⟩

theorem CountsOnly.store_eq {s s' : Service} (h : s.CountsOnly s') : s'.store = s.store := by
  obtain ⟨metrics, rfl⟩ := h
  rfl

/-- Calls of the store work or fail whatever was counted. -/
theorem CountsOnly.calling_eq {s s' : Service} (h : s.CountsOnly s') {α : Type} (call : StoreCall)
    (result : α) : s'.calling call result = s.calling call result := by
  obtain ⟨metrics, rfl⟩ := h
  rfl

/-! ## Pieces of work -/

namespace Worked

variable {α β : Type} {w : Worked α} {next : Service → α → Worked β}

/-- Work that fails is not gone on with. -/
theorem andThen_of_error {failure : Failure} (h : w.result = .error failure) :
    w.andThen next = ⟨w.service, w.reports, w.calls, .error failure⟩ := by
  unfold andThen
  rw [h]

/-- Work that has a result is gone on with from there. -/
theorem andThen_of_ok {a : α} (h : w.result = .ok a) :
    w.andThen next = ⟨(next w.service a).service, w.reports ++ (next w.service a).reports,
      w.calls ++ (next w.service a).calls, (next w.service a).result⟩ := by
  unfold andThen
  rw [h]

/-- Work that is gone on with results in what comes of its result. -/
theorem result_andThen (w : Worked α) (next : Service → α → Worked β) :
    (w.andThen next).result = w.result.bind fun a => (next w.service a).result := by
  unfold andThen
  cases w.result <;> rfl

/-- Work that has a result at once is what it is gone on with. -/
theorem done_andThen (s : Service) (a : α) (next : Service → α → Worked β) :
    (done s (.ok a)).andThen next = next s a :=
  rfl

end Worked

/-! ## Calls of the store -/

/-- A failure to load a form or to show it: a fault of the store, no form under the slug that is
published, or a form that cannot be shown. -/
inductive FailsEarly (s : Service) : Failure → Prop where
  | fault {call : StoreCall} {failure : Failure} (h : (call, failure) ∈ s.faults) :
      FailsEarly s failure
  | notFound (slug : String) : FailsEarly s (.service (.notFound (.text "Routing form not found")
      (Value.record [("slug", .text slug)])))
  | notShown (message : String) : FailsEarly s (.unforeseen message)

/-- A call of the store works, or fails in the way that was arranged for it. -/
theorem calling_cases {α : Type} (s : Service) (call : StoreCall) (result : α) :
    s.calling call result = .ok result ∨
      ∃ failure, s.calling call result = .error failure ∧ (call, failure) ∈ s.faults := by
  unfold calling
  cases h : s.faults.lookup call with
  | none => exact .inl rfl
  | some failure =>
    refine .inr ⟨failure, rfl, ?_⟩
    obtain ⟨before, after, hfaults, -⟩ := List.lookup_eq_some_iff.mp h
    rw [hfaults]
    simp

/-- A form is loaded, or loading it fails; in either case nothing changes and no record is kept. -/
theorem loadForm_cases (s : Service) (slug : String) :
    (∃ form, s.store.get? slug = some form ∧ s.loadForm slug = .done s (.ok form)) ∨
      ∃ reports failure, s.loadForm slug = ⟨s, reports, [], .error failure⟩ ∧
        s.FailsEarly failure := by
  unfold loadForm
  rcases s.calling_cases .getForm (s.store.get? slug) with h | ⟨failure, h, hfault⟩
  · rw [h]
    dsimp only
    cases hfound : (s.store.get? slug).filter (·.isPublished) with
    | some form => exact .inl ⟨form, (Option.filter_eq_some_iff.mp hfound).1, rfl⟩
    | none => exact .inr ⟨_, _, rfl, .notFound slug⟩
  · rw [h]
    exact .inr ⟨_, failure, rfl, .fault hfault⟩

/-! ## Judging -/

/-- Whether a report can be made at a level: it is not written there, or it can be. -/
def canTell (config : Config) (level : LogLevel) (writable : Bool) : Bool :=
  !config.writes level || writable

/-- Whether the rules of a form that can never match can be reported. -/
def tellsDangling (config : Config) (form : Form) (dangling : List DanglingRule) : Bool :=
  dangling.isEmpty || canTell config .warning (danglingReport form dangling).isWritable

/-- Whether a verdict can be reported. -/
def tellsVerdict (config : Config) (form : Form) (verdict : Verdict) : Bool :=
  tellsDangling config form verdict.dangling &&
    canTell config .info (decisionReport form verdict.decision).isWritable

/-- The failure of a submission whose answers are invalid. -/
def invalidAnswers (errors : List AnswerError) : Failure :=
  .service (.validation (.text "Submission has invalid answers")
    (Value.record [("errors", .list (errors.map (·.toValue)))]))

/-- What judging answers results in. -/
def judgement (config : Config) (form : Form) (answers : List (Value × Value)) :
    Except Failure Verdict :=
  match Verdict.ofAnswers form answers with
  | .error errors =>
    .error (if canTell config .info form.id.isWritable then invalidAnswers errors else unwritable)
  | .ok verdict => if tellsVerdict config form verdict then .ok verdict else .error unwritable

/-- What is counted when a decision is made: the evaluation, the rules that can never match, and the
decision. -/
def decisionMarks (verdict : Verdict) : Ledger :=
  [(Metrics.evaluationDuration, [])] ++
    List.replicate verdict.dangling.length (Metrics.unresolvableRules, []) ++
    [(Metrics.decisions, [verdict.decision.outcome.name])]

/-- What is counted when answers are turned down: the evaluation, and each problem by its code. -/
def errorMarks (codes : List String) : Ledger :=
  [(Metrics.evaluationDuration, [])] ++ codes.map fun code => (Metrics.validationFailures, [code])

/-- What judging answers counts. The decision comes after the report of the rules that can never
match. -/
def judgeMarks (config : Config) (form : Form) (answers : List (Value × Value)) : Ledger :=
  match Verdict.ofAnswers form answers with
  | .error errors => errorMarks (errors.map (·.code))
  | .ok verdict =>
    if tellsDangling config form verdict.dangling then decisionMarks verdict
    else [(Metrics.evaluationDuration, [])] ++
      List.replicate verdict.dangling.length (Metrics.unresolvableRules, [])

/-- What is decided about answers names the rules of the form that can never match. -/
theorem dangling_of_ofAnswers {form : Form} {answers : List (Value × Value)} {verdict : Verdict}
    (h : Verdict.ofAnswers form answers = .ok verdict) :
    verdict.dangling = Rule.dangling form.rules form.questions := by
  obtain ⟨given, -, rfl⟩ := map_eq_ok_iff.mp h
  rfl

/-- The rule that decided about answers is one of the form. -/
theorem mem_rules_of_ofAnswers {form : Form} {answers : List (Value × Value)} {verdict : Verdict}
    (h : Verdict.ofAnswers form answers = .ok verdict) {n : ℤ}
    (hrule : verdict.decision.ruleId = some n) : ∃ rule ∈ form.rules, rule.id = n := by
  obtain ⟨given, -, rfl⟩ := map_eq_ok_iff.mp h
  have hdecided : (Decision.evaluate given form.rules form.orderedQuestions).ruleId = some n := hrule
  unfold Decision.evaluate at hdecided
  cases hselect : Rule.select given form.rules form.orderedQuestions with
  | none =>
    rw [hselect] at hdecided
    cases hdecided
  | some rule =>
    rw [hselect] at hdecided
    obtain ⟨i, hplace, -⟩ := Rule.place_of_select hselect
    exact ⟨rule, List.mem_of_getElem? hplace, Option.some.inj hdecided⟩

/-- A piece of work that counts and does nothing else: it adds some marks, makes no call for a
record, and has a result. -/
structure OnlyCounts {α : Type} (s : Service) (w : Worked α) (marks : Ledger)
    (result : Except Failure α) : Prop where
  service : s.CountsOnly w.service
  calls : w.calls = []
  result : w.result = result
  adds : ∀ {kept}, Ledger.Covers kept → s.metrics.Adds w.service.metrics kept marks

namespace OnlyCounts

variable {α β : Type} {s : Service} {w : Worked α} {next : Service → α → Worked β}
  {marks later : Ledger}

theorem done (s : Service) (result : Except Failure α) :
    s.OnlyCounts (.done s result) [] result :=
  ⟨.refl s, rfl, rfl, fun _ => .refl _ _⟩

/-- Work that starts with counting. -/
theorem of_count {update : Metrics → Metrics} {result : Except Failure α}
    (hupdate : ∀ {kept}, Ledger.Covers kept → s.metrics.Adds (update s.metrics) kept marks)
    (h : (s.count update).OnlyCounts w later result) : s.OnlyCounts w (marks ++ later) result :=
  ⟨(s.countsOnly_count update).trans h.service, h.calls, h.result,
    fun hkept => (hupdate hkept).trans (h.adds hkept)⟩

/-- Work that fails is not gone on with. -/
theorem andThen_of_error {failure : Failure} (h : s.OnlyCounts w marks (.error failure)) :
    s.OnlyCounts (w.andThen next) marks (.error failure) := by
  rw [Worked.andThen_of_error h.result]
  exact ⟨h.service, h.calls, rfl, h.adds⟩

/-- Work that has a result is gone on with from there. -/
theorem andThen_of_ok {a : α} {result : Except Failure β} (h : s.OnlyCounts w marks (.ok a))
    (hnext : w.service.OnlyCounts (next w.service a) later result) :
    s.OnlyCounts (w.andThen next) (marks ++ later) result := by
  rw [Worked.andThen_of_ok h.result]
  refine ⟨h.service.trans hnext.service, ?_, hnext.result,
    fun hkept => (h.adds hkept).trans (hnext.adds hkept)⟩
  show w.calls ++ (next w.service a).calls = []
  rw [h.calls, hnext.calls, List.nil_append]

/-- Work that has a result is done with what follows from it. -/
theorem andThen_done {a : α} (h : s.OnlyCounts w marks (.ok a)) (f : α → Except Failure β) :
    s.OnlyCounts (w.andThen fun s a => .done s (f a)) marks (f a) := by
  have hended : s.OnlyCounts (w.andThen fun s a => .done s (f a)) (marks ++ []) (f a) :=
    h.andThen_of_ok (.done w.service (f a))
  rwa [List.append_nil] at hended

end OnlyCounts

/-- A report that is made or not counts nothing. -/
theorem tell_onlyCounts (s : Service) (entry : LogEntry) (writable : Bool) :
    s.OnlyCounts (s.tell entry writable) []
      (if canTell s.config entry.level writable then .ok () else .error unwritable) := by
  have htell : s.tell entry writable = ⟨s, [entry], [],
      if canTell s.config entry.level writable then .ok () else .error unwritable⟩ := by
    unfold tell canTell
    cases s.config.writes entry.level <;> cases writable <;> rfl
  rw [htell]
  exact ⟨.refl s, rfl, rfl, fun _ => .refl _ _⟩

section

variable {kept : List Ledger.Account} (hkept : Ledger.Covers kept)
include hkept

/-- Counting an evaluation adds it. -/
theorem adds_countEvaluation (m : Metrics) :
    m.Adds (countEvaluation m) kept [(Metrics.evaluationDuration, [])] :=
  m.adds_update (a := ⟨Metrics.evaluationDuration, .histogram, []⟩) hkept.separate
    (hkept.all _ (by simp [Ledger.accounts])) [] rfl rfl (List.forall_mem_nil _) .observed

/-- Counting the rules that can never match adds each of them. -/
theorem adds_countDangling (m : Metrics) (n : ℕ) :
    m.Adds (countDangling n m) kept (List.replicate n (Metrics.unresolvableRules, [])) := by
  unfold countDangling
  split_ifs with hn
  · -- Without such rules the counter is not touched.
    rw [hn, List.replicate_zero]
    exact .refl m kept
  · exact m.adds_update (a := ⟨Metrics.unresolvableRules, .counter, []⟩) hkept.separate
      (hkept.all _ (by simp [Ledger.accounts])) [] rfl rfl (List.forall_mem_nil _) (.several n)

/-- Counting the problems with answers adds the code of each of them. -/
theorem adds_countErrors (m : Metrics) (errors : List AnswerError) :
    m.Adds (countErrors errors m) kept
      (errors.map fun e => (Metrics.validationFailures, [e.code])) := by
  unfold countErrors
  induction errors generalizing m with
  | nil => exact .refl m kept
  | cons e errors ih =>
    rw [List.foldl_cons, List.map_cons]
    exact (Metrics.adds_increment_validationFailures hkept m e.code).trans (ih _)

end

/-- The rules that can never match are counted, and reported if there are any. -/
theorem noteDangling_onlyCounts (s : Service) (form : Form) (dangling : List DanglingRule) :
    s.OnlyCounts (s.noteDangling form dangling)
      (List.replicate dangling.length (Metrics.unresolvableRules, []))
      (if tellsDangling s.config form dangling then .ok () else .error unwritable) := by
  unfold noteDangling tellsDangling
  cases dangling with
  | nil => exact .done s (.ok ())
  | cons d rest =>
    have htold := tell_onlyCounts (s.count (countDangling (d :: rest).length))
      (danglingReport form (d :: rest)) (danglingReport form (d :: rest)).isWritable
    have hcounted := htold.of_count fun hkept => adds_countDangling hkept s.metrics _
    rw [List.append_nil] at hcounted
    exact hcounted

/-- The decision is counted, and then reported. -/
theorem noteDecision_onlyCounts (s : Service) (form : Form) (d : Decision) :
    s.OnlyCounts (s.noteDecision form d) [(Metrics.decisions, [d.outcome.name])]
      (if canTell s.config .info (decisionReport form d).isWritable then .ok ()
        else .error unwritable) := by
  have htold := tell_onlyCounts
    (s.count (·.increment Metrics.decisions [("outcome", d.outcome.name)])) (decisionReport form d)
    (decisionReport form d).isWritable
  have hcounted := htold.of_count fun hkept =>
    Metrics.adds_increment_decisions hkept s.metrics d.outcome.name
  rw [List.append_nil] at hcounted
  exact hcounted

/-- Each problem is counted, and then it is reported how many there are. -/
theorem reject_onlyCounts (s : Service) (form : Form) (errors : List AnswerError) :
    s.OnlyCounts (s.reject form errors)
      (errors.map fun e => (Metrics.validationFailures, [e.code]))
      (.error (if canTell s.config .info form.id.isWritable then invalidAnswers errors
        else unwritable)) := by
  have htold := tell_onlyCounts (s.count (countErrors errors)) (rejectionReport form errors)
    form.id.isWritable
  have hcounted := htold.of_count fun hkept => adds_countErrors hkept s.metrics errors
  have hconfig : canTell (s.count (countErrors errors)).config (rejectionReport form errors).level
      form.id.isWritable = canTell s.config .info form.id.isWritable := rfl
  rw [List.append_nil, hconfig] at hcounted
  unfold reject
  split_ifs at hcounted ⊢
  · exact hcounted.andThen_done fun _ => .error (invalidAnswers errors)
  · exact hcounted.andThen_of_error

/-- Judging counts and does nothing else. -/
theorem judge_onlyCounts (s : Service) (form : Form) (answers : List (Value × Value)) :
    s.OnlyCounts (s.judge form answers) (judgeMarks s.config form answers)
      (judgement s.config form answers) := by
  unfold judge judgeMarks judgement tellsVerdict
  cases Verdict.ofAnswers form answers with
  | error errors =>
    have hrejected := (s.count countEvaluation).reject_onlyCounts form errors
    have hcounted := hrejected.of_count fun hkept => adds_countEvaluation hkept s.metrics
    dsimp only
    unfold errorMarks
    rw [List.map_map]
    exact hcounted
  | ok verdict =>
    have hdangling := ((s.count countEvaluation).noteDangling_onlyCounts form
      verdict.dangling).of_count fun hkept => adds_countEvaluation hkept s.metrics
    have hconfig := hdangling.service.sameSettings.config
    dsimp only
    generalize (s.count countEvaluation).noteDangling form verdict.dangling = noted
      at hdangling hconfig ⊢
    have hsame : (s.count countEvaluation).config = s.config := rfl
    rw [hsame] at hdangling
    -- A report that cannot be made ends the judging there, with what was counted so far.
    split_ifs at hdangling with hdanglingTold
    · have hdecision := noted.service.noteDecision_onlyCounts form verdict.decision
      rw [hconfig] at hdecision
      unfold decisionMarks
      rw [hdanglingTold, Bool.true_and, if_pos rfl]
      refine hdangling.andThen_of_ok ?_
      split_ifs at hdecision ⊢
      · exact hdecision.andThen_done fun _ => .ok verdict
      · exact hdecision.andThen_of_error
    · rw [Bool.not_eq_true] at hdanglingTold
      rw [hdanglingTold]
      exact hdangling.andThen_of_error

/-- A verdict that answers result in was reported, so all of it was counted. -/
theorem judgement_eq_ok_iff {config : Config} {form : Form} {answers : List (Value × Value)}
    {verdict : Verdict} :
    judgement config form answers = .ok verdict ↔
      Verdict.ofAnswers form answers = .ok verdict ∧ tellsVerdict config form verdict = true := by
  unfold judgement
  cases Verdict.ofAnswers form answers with
  | error errors => simp
  | ok found =>
    dsimp only
    constructor
    · intro h
      split_ifs at h with htold
      obtain rfl := Except.ok.inj h
      exact ⟨rfl, htold⟩
    · rintro ⟨hfound, htold⟩
      obtain rfl := Except.ok.inj hfound
      exact if_pos htold

/-- When the ids of a form and of its rules have texts, every verdict can be reported. -/
theorem tellsVerdict_of_writable (config : Config) {form : Form} (hform : form.Writable)
    {answers : List (Value × Value)} {verdict : Verdict}
    (h : Verdict.ofAnswers form answers = .ok verdict) :
    tellsVerdict config form verdict = true := by
  -- The reports show the id of the form and ids of its rules, and no other numbers.
  have hdangling : (danglingReport form verdict.dangling).isWritable = true := by
    have hids : Value.areWritable (verdict.dangling.map (.int ·.ruleId)) = true := by
      rw [Value.areWritable_iff, dangling_of_ofAnswers h]
      intro v hv
      obtain ⟨d, hd, rfl⟩ := List.mem_map.mp hv
      obtain ⟨rule, hrule, -, rfl⟩ := Rule.mem_dangling.mp hd
      exact hform.rules rule hrule
    simp [LogEntry.isWritable, danglingReport, Value.isWritable, hform.id, hids]
  have hdecision : (decisionReport form verdict.decision).isWritable = true := by
    have hrule : ((verdict.decision.ruleId.map Value.int).getD .null).isWritable = true := by
      cases hid : verdict.decision.ruleId with
      | none => rfl
      | some n =>
        obtain ⟨rule, hrule, rfl⟩ := mem_rules_of_ofAnswers h hid
        exact hform.rules rule hrule
    simp [LogEntry.isWritable, decisionReport, hform.id, hrule]
  unfold tellsVerdict tellsDangling canTell
  rw [hdangling, hdecision]
  simp

/-- What was decided before the call. -/
def RecordCall.verdict (call : RecordCall) : Verdict :=
  ⟨call.decision, Rule.dangling call.form.rules call.form.questions⟩

/-- What is counted about a submission whose record is to be kept: the decision, and the event once
the call has returned. -/
def RecordCall.marks (call : RecordCall) : Ledger :=
  decisionMarks call.verdict ++
    if call.returned then [(Metrics.businessEvents, [recordedEvent, Metrics.routingService])]
    else []

/-- The record of a submission to a form that led to a decision. -/
def recordFor (request : SubmissionRequest) (form : Form) (decision : Decision) : Submission :=
  .ofDecision form.id (.map request.answers) decision request.email request.name

section

variable (s : Service) (form : Form) (decision : Decision) (record : Submission)

/-- Keeping a record works when the call of the store does. -/
theorem result_recordSubmission :
    (s.recordSubmission form decision record).result = s.calling .recordSubmission () := by
  unfold recordSubmission
  cases s.calling .recordSubmission () with
  | error failure => rfl
  | ok done => rfl

/-- Keeping a record makes one call of the store. -/
theorem calls_recordSubmission : (s.recordSubmission form decision record).calls =
    [⟨form, decision, record, (s.calling .recordSubmission ()).isOk⟩] := by
  unfold recordSubmission
  cases s.calling .recordSubmission () with
  | error failure => rfl
  | ok done => rfl

/-- When the call of the store fails, nothing is kept and nothing counted. -/
theorem service_recordSubmission_of_error {failure : Failure}
    (h : s.calling .recordSubmission () = .error failure) :
    (s.recordSubmission form decision record).service = s := by
  unfold recordSubmission
  rw [h]

/-- When the call of the store returns, it keeps the record. -/
theorem countsOnly_recordSubmission (h : s.calling .recordSubmission () = .ok ()) :
    ({ s with store := s.store.record record } : Service).CountsOnly
      (s.recordSubmission form decision record).service := by
  unfold recordSubmission
  rw [h]
  exact ⟨_, rfl⟩

/-- A record that is kept is counted as an event. -/
theorem adds_recordSubmission {kept : List Ledger.Account} (hkept : Ledger.Covers kept)
    (hcall : s.calling .recordSubmission () = .ok ()) :
    s.metrics.Adds (s.recordSubmission form decision record).service.metrics kept
      [(Metrics.businessEvents, [recordedEvent, Metrics.routingService])] := by
  unfold recordSubmission
  rw [hcall]
  exact Metrics.adds_recordEvent hkept s.metrics recordedEvent

end

/-! ## The whole submission -/

section

variable (s : Service) {form : Form} {request : SubmissionRequest}

/-- A submission whose form can be loaded is handled with this form. -/
theorem submit_of_done {slug : String} (h : s.loadForm slug = .done s (.ok form)) :
    s.submit slug request = s.submitTo form request := by
  unfold submit
  rw [h, Worked.done_andThen]

/-- A submission without a verdict ends there. -/
theorem submitTo_of_error {failure : Failure}
    (h : judgement s.config form request.answers = .error failure) :
    (s.submitTo form request).service = (s.judge form request.answers).service ∧
      (s.submitTo form request).calls = [] ∧
      (s.submitTo form request).result = .error failure := by
  have hjudged := s.judge_onlyCounts form request.answers
  unfold submitTo
  rw [Worked.andThen_of_error (hjudged.result.trans h)]
  exact ⟨rfl, hjudged.calls, rfl⟩

/-- A submission with a verdict ends with the call of the store to keep its record. -/
theorem submitTo_of_ok {verdict : Verdict}
    (h : judgement s.config form request.answers = .ok verdict) :
    let recorded := (s.judge form request.answers).service.recordSubmission form verdict.decision
      (recordFor request form verdict.decision)
    (s.submitTo form request).service = recorded.service ∧
      (s.submitTo form request).calls =
        [⟨form, verdict.decision, recordFor request form verdict.decision,
          (s.calling .recordSubmission ()).isOk⟩] ∧
      (s.submitTo form request).result = (s.calling .recordSubmission ()).map fun () =>
        .ofDecision verdict.decision s.config.defaultMessage := by
  intro recorded
  have hjudged := s.judge_onlyCounts form request.answers
  have hcalling := hjudged.service.calling_eq .recordSubmission ()
  have hresult : recorded.result = s.calling .recordSubmission () :=
    (result_recordSubmission _ _ _ _).trans hcalling
  have hcalls : recorded.calls = [⟨form, verdict.decision, recordFor request form verdict.decision,
      (s.calling .recordSubmission ()).isOk⟩] := by
    rw [← hcalling]
    exact calls_recordSubmission _ _ _ _
  unfold submitTo
  rw [Worked.andThen_of_ok (hjudged.result.trans h), hjudged.calls]
  change (recorded.andThen _).service = recorded.service ∧ [] ++ (recorded.andThen _).calls = _ ∧
    (recorded.andThen _).result = _
  rw [List.nil_append]
  cases hcall : s.calling .recordSubmission () with
  | error failure =>
    rw [Worked.andThen_of_error (hresult.trans hcall)]
    rw [hcall] at hcalls
    exact ⟨rfl, hcalls, rfl⟩
  | ok done =>
    -- Recording changes no settings, so the message is that of the service before.
    have hconfig : recorded.service.config = s.config := by
      have hrecorded := countsOnly_recordSubmission (s.judge form request.answers).service form
        verdict.decision (recordFor request form verdict.decision) (hcalling.trans hcall)
      exact hrecorded.sameSettings.config.trans hjudged.service.sameSettings.config
    rw [Worked.andThen_of_ok (hresult.trans hcall)]
    rw [hcall] at hcalls
    refine ⟨rfl, (List.append_nil _).trans hcalls, ?_⟩
    show Except.ok _ = _
    rw [hconfig]
    rfl

end

/-- The four ends of handling a submission, by the calls of the store for a record that it makes: the
service afterwards, and the result. -/
inductive Ending (s : Service) :
    List RecordCall → Service → Except Failure DecisionResponse → Prop where
  /-- The form could not be loaded. -/
  | notLoaded {failure : Failure} (h : s.FailsEarly failure) : Ending s [] s (.error failure)
  /-- The answers led to no verdict. -/
  | notDecided {form : Form} {answers : List (Value × Value)} {failure : Failure}
      (hform : s.store.Holds form) (h : judgement s.config form answers = .error failure) :
      Ending s [] (s.judge form answers).service (.error failure)
  /-- The store failed to keep the record. -/
  | notRecorded {call : RecordCall} {answers : List (Value × Value)} {failure : Failure}
      (hform : s.store.Holds call.form) (hcall : call.returned = false)
      (hverdict : judgement s.config call.form answers = .ok call.verdict)
      (h : (.recordSubmission, failure) ∈ s.faults) :
      Ending s [call] (s.judge call.form answers).service (.error failure)
  /-- The record is kept, by the call on a service that has only counted since. -/
  | recorded {call : RecordCall} {answers : List (Value × Value)}
      (hform : s.store.Holds call.form) (hcall : call.returned = true)
      (hverdict : judgement s.config call.form answers = .ok call.verdict)
      (h : s.calling .recordSubmission () = .ok ()) :
      Ending s [call]
        ((s.judge call.form answers).service.recordSubmission call.form call.decision
          call.record).service
        (.ok (.ofDecision call.decision s.config.defaultMessage))

/-- Handling a submission has one of the four ends, with the calls that it made. -/
theorem submit_ending (s : Service) (slug : String) (request : SubmissionRequest) :
    s.Ending (s.submit slug request).calls (s.submit slug request).service
      (s.submit slug request).result := by
  rcases s.loadForm_cases slug with ⟨form, hstored, hload⟩ | ⟨reports, failure, hload, hfailure⟩
  · have hform : s.store.Holds form := ⟨slug, hstored⟩
    rw [submit_of_done s hload]
    cases hjudged : judgement s.config form request.answers with
    | error failure =>
      obtain ⟨hservice, hcalls, hresult⟩ := s.submitTo_of_error hjudged
      rw [hservice, hcalls, hresult]
      exact .notDecided hform hjudged
    | ok verdict =>
      obtain ⟨decision, dangling⟩ := verdict
      obtain rfl := dangling_of_ofAnswers (judgement_eq_ok_iff.mp hjudged).1
      obtain ⟨hservice, hcalls, hresult⟩ := s.submitTo_of_ok hjudged
      rw [hservice, hcalls, hresult]
      -- Judging leaves the faults as they were, so the call ends as it would have ended before.
      rcases s.calling_cases .recordSubmission () with h | ⟨failure, h, hfault⟩
      · rw [h]
        exact .recorded hform rfl hjudged h
      · rw [service_recordSubmission_of_error _ _ _ _
          (((s.judge_onlyCounts form request.answers).service.calling_eq _ _).trans h), h]
        exact .notRecorded hform rfl hjudged hfault
  · unfold submit
    rw [hload, Worked.andThen_of_error rfl]
    exact .notLoaded hfailure

end Service

end FormRouting
