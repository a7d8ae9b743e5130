import FormRouting.Proofs.Json.Values
import FormRouting.Proofs.Routing.OrderIndependence
import FormRouting.Proofs.Service.Accounting
import FormRouting.Proofs.Service.Counting

/-!
# What the check of a form tells about its routing

The check of a form lists the rules that can never match and the others in the order of precedence.
It ranks them over the questions as the form lists them, while a submission is evaluated over the
questions in the order in which they are put. `integrity_foretells_decision` says that both come to
the same: the rule that a submission is answered with is the first one of the list whose condition
holds, the lists have no rule in common, and the submission counts the rules that can never match
which the check lists.

The check can be shown exactly when the numbers in it can be written (`Form.Checkable`), and the
answer to a submission when the decision can be reported and its rule named. So a form may take
submissions while its check is not shown (`submission_is_answered_without_check`).
-/

namespace FormRouting

/-! ## Rules -/

/-- An element is the first one of a list with a property. -/
def IsFirst {α : Type} (p : α → Prop) (xs : List α) (x : α) : Prop :=
  ∃ before after, xs = before ++ x :: after ∧ p x ∧ ∀ y ∈ before, ¬p y

namespace Rule

variable {rules : List Rule} {questions : List Question} {answers : AnswerSet Answer}

/-- The order in which questions are put does not matter to the order of the rules. -/
theorem rank_inOrder (rules : List Rule) (questions : List Question) :
    rank rules (Question.inOrder questions) = rank rules questions := by
  unfold rank
  simp only [isEligible_perm _ (Question.perm_inOrder questions)]

/-- What can never match is not ranked. -/
theorem questionId_ne_of_mem_rank {d : DanglingRule} (hd : d ∈ dangling rules questions)
    {rule : Rule} (hrule : rule ∈ rank rules questions) : rule.questionId ≠ d.questionId := by
  obtain ⟨other, -, hnone, rfl⟩ := mem_dangling.mp hd
  obtain ⟨-, -, q, hq, hid⟩ := mem_rank.mp hrule
  intro hsame
  exact hnone q hq (hid.trans hsame)

/-- With distinct ids, no id of a rule that can never match is ranked. -/
theorem id_ne_of_mem_rank (distinct : (rules.map (·.id)).Nodup) {d : DanglingRule}
    (hd : d ∈ dangling rules questions) {rule : Rule} (hrule : rule ∈ rank rules questions) :
    rule.id ≠ d.ruleId := by
  have hquestion := questionId_ne_of_mem_rank hd hrule
  obtain ⟨other, hother, -, rfl⟩ := mem_dangling.mp hd
  intro hsame
  obtain rfl := List.inj_on_of_nodup_map distinct (mem_rank.mp hrule).1 hother hsame
  exact hquestion rfl

/-- The condition of a rule holds of answers: it holds of the answer to the question that the rule
names, which is the last one with its id. -/
def Applies (questions : List Question) (answers : AnswerSet Answer) (rule : Rule) : Prop :=
  ∃ q, Question.IsLastWithId questions rule.questionId q ∧
    rule.holds q (answers.get? rule.questionId) = true

/-- The rule that decides is the first of the ranked ones whose condition holds. -/
theorem select_eq_some_iff {rule : Rule} :
    select answers rules questions = some rule ↔
      IsFirst (Applies questions answers) (rank rules questions) rule := by
  unfold select IsFirst Applies
  simp only [← isSatisfied_iff, List.find?_eq_some_iff_append, Bool.not_eq_true', Bool.not_eq_true]
  constructor
  · rintro ⟨hsatisfied, before, after, hsplit, hbefore⟩
    exact ⟨before, after, hsplit, hsatisfied, hbefore⟩
  · rintro ⟨before, after, hsplit, hsatisfied, hbefore⟩
    exact ⟨hsatisfied, before, after, hsplit, hbefore⟩

/-- No rule decides exactly when the condition of no ranked one holds. -/
theorem select_eq_none_iff_forall_rank :
    select answers rules questions = none ↔
      ∀ rule ∈ rank rules questions, ¬Applies questions answers rule := by
  unfold select Applies
  simp only [← isSatisfied_iff, List.find?_eq_none]

end Rule

/-- The numbers that the check of a form shows can be written: its id, and the ids and priorities of
the rules that it lists. -/
structure Form.Checkable (form : Form) : Prop where
  id : Json.isStrict form.id = true
  unresolvable : ∀ d ∈ Rule.dangling form.rules form.questions,
    IntegerText.isWritable d.ruleId = true
  ranked : ∀ rule ∈ Rule.rank form.rules form.questions,
    IntegerText.isWritable rule.id = true ∧ IntegerText.isWritable rule.priority = true

/-- All numbers of the check can be written when those of the form can. -/
theorem Form.Writable.checkable {form : Form} (h : form.Writable)
    (hid : Json.isStrict form.id = true)
    (hpriorities : ∀ rule ∈ form.rules, IntegerText.isWritable rule.priority = true) :
    form.Checkable := by
  refine ⟨hid, fun d hd => ?_, fun rule hrule => ?_⟩
  · obtain ⟨rule, hrule, -, rfl⟩ := Rule.mem_dangling.mp hd
    exact h.rules rule hrule
  · have hlisted := (Rule.mem_rank.mp hrule).1
    exact ⟨h.rules rule hlisted, hpriorities rule hlisted⟩

namespace Service

variable {s : Service} {r : Request} {form : Form} {given : AnswerSet Answer}

/-! ## Requests -/

/-- A service that has come about by a run from a fresh start. -/
def Reached (s : Service) : Prop :=
  ∃ config store steps, s = ((start config store).run steps).1

/-- A request submits answers to a form that is published, and validation accepts them. -/
def SubmitsTo (s : Service) (r : Request) (form : Form) (given : AnswerSet Answer) : Prop :=
  ∃ slug request,
    Routing.ofRequest s.config.isLocal r.verb (Target.path r.target) = .found (.submit slug) ∧
      SubmissionRequest.ofBody r.isJson r.body = .ok request ∧
      s.loadForm slug = .done s (.ok form) ∧
      Question.validate form.orderedQuestions request.answers = .ok given

/-- A request asks for the check of a form that is published. -/
def AsksIntegrity (s : Service) (r : Request) (form : Form) : Prop :=
  ∃ slug,
    Routing.ofRequest s.config.isLocal r.verb (Target.path r.target) = .found (.integrity slug) ∧
      s.loadForm slug = .done s (.ok form)

/-- The check of a form can be shown exactly when its numbers can be written. -/
theorem isStrict_integrity (form : Form) :
    Json.isStrict (integrity form) = true ↔ form.Checkable := by
  -- Texts can be shown whatever they are, so that only the numbers are left.
  have hdangling : ∀ d : DanglingRule,
      Json.isStrict d.toValue = IntegerText.isWritable d.ruleId := fun d => by
    simp [DanglingRule.toValue, Value.record, Json.isStrict, Json.areStrictEntries, Json.keyText?]
  have hranked : ∀ rule : Rule, Json.isStrict (ruleSummary rule) =
      (IntegerText.isWritable rule.id && IntegerText.isWritable rule.priority) := fun rule => by
    simp [ruleSummary, Value.record, Json.isStrict, Json.areStrictEntries, Json.keyText?]
  have hlists : Json.isStrict (integrity form) = true ↔ Json.isStrict form.id = true ∧
      Json.areStrict ((Rule.dangling form.rules form.questions).map (·.toValue)) = true ∧
      Json.areStrict ((Rule.rank form.rules form.questions).map ruleSummary) = true := by
    simp [integrity, Value.record, Json.isStrict, Json.areStrictEntries, Json.keyText?]
  rw [hlists, Json.areStrict_iff, Json.areStrict_iff, List.forall_mem_map, List.forall_mem_map]
  simp only [hdangling, hranked, Bool.and_eq_true]
  constructor
  · rintro ⟨hid, hunresolvable, hrank⟩
    exact ⟨hid, hunresolvable, hrank⟩
  · exact fun h => ⟨h.id, h.unresolvable, h.ranked⟩

/-- The check of a form is answered with its lists, if they can be shown. -/
theorem serve_of_asksIntegrity (h : s.AsksIntegrity r form) :
    (form.Checkable → (s.serve r).2.2.status = 200 ∧
      (s.serve r).2.2.content = .json (integrity form)) ∧
    (¬form.Checkable → (s.serve r).2.2.status = 500) := by
  obtain ⟨slug, hroute, hload⟩ := h
  obtain ⟨hstatus, hcontent⟩ := serve_of_showForm (s := s) hroute rfl rfl hload
  rw [hstatus, hcontent, shown, ← isStrict_integrity]
  constructor
  · intro hshown
    rw [if_pos hshown]
    exact ⟨rfl, rfl⟩
  · intro hshown
    rw [if_neg hshown]
    rfl

/-- A submission is accepted when its decision can be reported, the rule that decides can be named,
and the call that keeps its record works. -/
theorem accepts_of_submitsTo (h : s.SubmitsTo r form given)
    (hrecords : s.faults.lookup .recordSubmission = none)
    (htold : tellsVerdict s.config form (verdictOn form given) = true)
    (hnamed : ∀ rule, Rule.select given form.rules form.orderedQuestions = some rule →
      IntegerText.isWritable rule.id = true) :
    (s.serve r).2.2.status = 200 ∧ (s.serve r).2.2.content = .json
      (DecisionResponse.ofDecision (decided form given) s.config.defaultMessage).toValue := by
  obtain ⟨slug, request, hroute, hbody, hload, hvalid⟩ := h
  obtain ⟨hloads, hstored, hpublished⟩ := s.loadForm_eq_iff.mp hload
  have haccepts : s.Accepts slug request form given :=
    ⟨⟨hloads, hstored, hpublished, hvalid, htold, hrecords⟩, hnamed⟩
  exact (serve_of_accepts hroute hbody haccepts).2

/-- A submission is answered with success only when it is accepted. -/
theorem status_of_submitsTo (h : s.SubmitsTo r form given) :
    (s.serve r).2.2.status = 200 ↔ s.faults.lookup .recordSubmission = none ∧
      tellsVerdict s.config form (verdictOn form given) = true ∧
      ∀ rule, Rule.select given form.rules form.orderedQuestions = some rule →
        IntegerText.isWritable rule.id = true := by
  constructor
  · intro hstatus
    obtain ⟨slug, request, hroute, hbody, hload, hvalid⟩ := h
    obtain ⟨-, hstored, -⟩ := s.loadForm_eq_iff.mp hload
    -- What was accepted is this submission, to this form.
    obtain ⟨sent, other, answers, hsent, haccepts⟩ := (status_eq_iff hroute).mp hstatus
    obtain rfl := Except.ok.inj (hbody.symm.trans hsent)
    obtain rfl := Option.some.inj (hstored.symm.trans haccepts.stored)
    obtain rfl := Except.ok.inj (hvalid.symm.trans haccepts.valid)
    exact ⟨haccepts.records, haccepts.told, haccepts.named⟩
  · rintro ⟨hrecords, htold, hnamed⟩
    exact (accepts_of_submitsTo h hrecords htold hnamed).1

/-- When the ids of a form and of its rules can be written, it is up to the store alone whether a
submission is answered with success. -/
theorem status_of_writable (h : s.SubmitsTo r form given) (hform : form.Writable) :
    (s.serve r).2.2.status = 200 ↔ s.faults.lookup .recordSubmission = none := by
  rw [status_of_submitsTo h, and_iff_left]
  obtain ⟨slug, request, -, -, -, hvalid⟩ := h
  exact ⟨tellsVerdict_of_writable s.config hform (ofAnswers_of_validate hvalid),
    fun rule hselect => hform.rules rule (Rule.mem_of_select hselect)⟩

/-- Valid answers count the rules of their form that can never match, whether or not these can be
reported. -/
theorem count_judgeMarks {answers : List (Value × Value)} {verdict : Verdict}
    (h : Verdict.ofAnswers form answers = .ok verdict) (config : Config) :
    (judgeMarks config form answers).count (Metrics.unresolvableRules, []) =
      (Rule.dangling form.rules form.questions).length := by
  unfold judgeMarks decisionMarks
  rw [h, ← dangling_of_ofAnswers h]
  dsimp only
  split_ifs <;> simp +decide [List.count_append]

/-- The metrics that settling work and answering it count by. -/
theorem names_settled (result : Except Failure Answered) (answer : Option Answered) :
    ∀ mark ∈ settleMarks result ++ answerMarks r answer,
      mark.1 ∈ [Metrics.errors, Metrics.requests, Metrics.requestDuration] := by
  intro mark hmark
  rcases List.mem_append.mp hmark with hmark | hmark
  · unfold settleMarks Ledger.ofError at hmark
    split at hmark
    · cases hmark
    · obtain rfl := List.mem_singleton.mp hmark
      simp
    · have hname : mark.1 = Metrics.errors := by
        rcases List.mem_append.mp hmark with hmark | hmark
        · split_ifs at hmark
          · rw [List.mem_singleton.mp hmark]
          · cases hmark
        · split_ifs at hmark
          · cases hmark
          · rw [List.mem_singleton.mp hmark]
      simp [hname]
  · unfold answerMarks Ledger.requestMarks at hmark
    split at hmark
    · simp only [List.mem_cons, List.not_mem_nil, or_false] at hmark
      rcases hmark with rfl | rfl <;> simp
    · cases hmark

/-- A submission counts the rules of its form that can never match. -/
theorem counts_of_submitsTo (hs : s.Reached) (h : s.SubmitsTo r form given) :
    ∃ n, s.metrics.Counts Metrics.unresolvableRules [] n ∧
      (s.serve r).1.metrics.Counts Metrics.unresolvableRules []
        (n + (Rule.dangling form.rules form.questions).length) := by
  obtain ⟨slug, request, hroute, hbody, hload, hvalid⟩ := h
  obtain ⟨config, store, steps, rfl⟩ := hs
  obtain ⟨marks, hbefore⟩ := exists_tally config store steps
  generalize ((start config store).run steps).1 = s at *
  have hafter := adds_serve_of_found hroute marks hbefore
  have haccount : (⟨Metrics.unresolvableRules, .counter, []⟩ : Ledger.Account) ∈
      Ledger.everyAccount := by simp [Ledger.everyAccount_eq]
  have hcounts := hafter.keeps.counts haccount []
  -- Of what is added, only judging the answers counts such rules.
  have hsubmit : (s.submitMarks slug request).count (Metrics.unresolvableRules, []) =
      (Rule.dangling form.rules form.questions).length := by
    unfold submitMarks
    rw [hload]
    show (judgeMarks s.config form request.answers ++ _).count _ = _
    rw [List.count_append, count_judgeMarks (ofAnswers_of_validate hvalid)]
    split_ifs <;> simp +decide
  have hroutes : (s.routeMarks (.submit slug) r).count (Metrics.unresolvableRules, []) =
      (Rule.dangling form.rules form.questions).length := by
    unfold routeMarks
    rw [List.append_assoc, List.count_append,
      count_eq_zero_of_names (names_settled _ _) (by decide), followMarks, hbody]
    exact hsubmit
  rw [List.count_append, hroutes] at hcounts
  exact ⟨_, hbefore.keeps.counts haccount [], hcounts⟩

/-! ## Foretelling -/

/-- What the lists of the check of a form tell about a request that submits answers to the form. -/
structure Foretells (s : Service) (r : Request) (form : Form) (given : AnswerSet Answer)
    (order : List Rule) (dangling : List DanglingRule) : Prop where
  /-- A rule in the order names a question of the form, and one that can never match does not. -/
  apart : ∀ d ∈ dangling, ∀ rule ∈ order, rule.questionId ≠ d.questionId
  /-- When the rules of the form have distinct ids, the lists have no id in common. -/
  distinct : (form.rules.map (·.id)).Nodup → ∀ d ∈ dangling, ∀ rule ∈ order, rule.id ≠ d.ruleId
  /-- The submission is answered with success exactly when the store keeps its record, the decision
  can be reported, and the rule that decides can be named. -/
  answered : (s.serve r).2.2.status = 200 ↔ s.faults.lookup .recordSubmission = none ∧
    tellsVerdict s.config form (verdictOn form given) = true ∧
    ∀ rule, Rule.select given form.rules form.orderedQuestions = some rule →
      IntegerText.isWritable rule.id = true
  /-- When the ids of the form and of its rules can be written, it is up to the store alone. -/
  unhindered : form.Writable →
    ((s.serve r).2.2.status = 200 ↔ s.faults.lookup .recordSubmission = none)
  /-- The answer names the first rule in the order whose condition holds, and none exactly when no
  condition holds. -/
  told : (s.serve r).2.2.status = 200 → ∃ fields, (s.serve r).2.2.content = .json (.map fields) ∧
    (∀ n, Value.lookup "rule_id" fields = some (.int n) ↔
      ∃ rule, IsFirst (Rule.Applies form.orderedQuestions given) order rule ∧ rule.id = n) ∧
    (Value.lookup "rule_id" fields = some .null ↔
      ∀ rule ∈ order, ¬Rule.Applies form.orderedQuestions given rule)
  /-- The submission counts the rules that can never match, whatever it is answered with. -/
  counted : ∃ n, s.metrics.Counts Metrics.unresolvableRules [] n ∧
    (s.serve r).1.metrics.Counts Metrics.unresolvableRules [] (n + dangling.length)

/-- The check of a form that is published tells what comes of any submission to the form whose
answers validation accepts. It is shown when its numbers can be written, and else it fails. Ids may
repeat among the questions of the form. The service that takes the submission has run from a fresh
start, and the one that is asked for the check need not be the same, as long as it loads the same
form. -/
theorem integrity_foretells_decision {s s' : Service} {r r' : Request} (hs : s.Reached)
    (hsubmits : s.SubmitsTo r form given) (hasks : s'.AsksIntegrity r' form) :
    let order := Rule.rank form.rules form.questions
    let dangling := Rule.dangling form.rules form.questions
    (form.Checkable → (s'.serve r').2.2.status = 200 ∧
      (s'.serve r').2.2.content = .json (Value.record [
        ("form_id", form.id),
        ("unresolvable_rules", .list (dangling.map (·.toValue))),
        ("rule_order", .list (order.map ruleSummary))])) ∧
      (¬form.Checkable → (s'.serve r').2.2.status = 500) ∧
      s.Foretells r form given order dangling := by
  intro order dangling
  obtain ⟨hshown, hfailed⟩ := serve_of_asksIntegrity hasks
  -- The check ranks over the questions as listed, the submission over them as they are put.
  have horder : order = Rule.rank form.rules form.orderedQuestions :=
    (Rule.rank_inOrder form.rules form.questions).symm
  have hstatus := status_of_submitsTo hsubmits
  refine ⟨hshown, hfailed, fun d hd rule hrule => Rule.questionId_ne_of_mem_rank hd hrule,
    fun distinct d hd rule hrule => Rule.id_ne_of_mem_rank distinct hd hrule, hstatus,
    fun hform => status_of_writable hsubmits hform, fun hsuccess => ?_,
    counts_of_submitsTo hs hsubmits⟩
  obtain ⟨hrecords, htold, hnamed⟩ := hstatus.mp hsuccess
  rw [(accepts_of_submitsTo hsubmits hrecords htold hnamed).2, DecisionResponse.toValue, decided,
    DecisionResponse.ruleId_ofDecision_evaluate, horder]
  refine ⟨_, rfl, fun n => ?_, ?_⟩
  · simp only [← Rule.select_eq_some_iff]
    cases Rule.select given form.rules form.orderedQuestions with
    | none => simp
    | some rule => simp
  · rw [← Rule.select_eq_none_iff_forall_rank]
    cases Rule.select given form.rules form.orderedQuestions with
    | none => simp
    | some rule => simp

/-- A form whose question has an id twice, with a rule that can never match between two others. -/
def depot : Form :=
  ⟨.int 4, .text "depot", .text "Depot", .null, .bool true, .null,
    [⟨"bulk", .text "Bulk", .radio, ["true", "false"], true, 1⟩,
      ⟨"bulk", .text "Bulk, in words", .text, [], false, 0⟩],
    [⟨7, "bulk", .equals, "true", ⟨.showMessage, "In stock"⟩, 0, true⟩,
      ⟨8, "colour", .equals, "true", ⟨.showMessage, "In red"⟩, 9, true⟩,
      ⟨9, "bulk", .startsWith, "f", ⟨.showMessage, "Sold out"⟩, 5, true⟩]⟩

/-- The numbers of the form can be written. -/
theorem checkable_depot : depot.Writable ∧ depot.Checkable := by
  have hform : depot.Writable :=
    ⟨IntegerText.isWritable_of_lt_ten (by decide), fun rule hrule =>
      IntegerText.isWritable_of_lt_ten (by revert rule; decide)⟩
  exact ⟨hform, hform.checkable (IntegerText.isWritable_of_lt_ten (by decide)) fun rule hrule =>
    IntegerText.isWritable_of_lt_ten (by revert rule; decide)⟩

/-- A service with this form. -/
def depotService : Service :=
  start ⟨"test", "INFO", "memory", "", none, 10, "Thank you", "routing", 8013, "0.0.0.0"⟩
    (.ofForms [depot] none)

/-- The rule that can never match is counted, and the one with the higher priority does not
match, so the submission is answered with the other one. -/
theorem integrity_foretells_decision_depot :
    let r : Request :=
      ⟨"POST", "/forms/depot/submit", [], "\x7b\"answers\": \x7b\"bulk\": true\x7d\x7d", "1"⟩
    let check : Request := ⟨"GET", "/forms/depot/integrity", [], "", "2"⟩
    let given : AnswerSet Answer := ⟨[("bulk", .text "true")]⟩
    depotService.Reached ∧ depotService.SubmitsTo r depot given ∧
      depotService.AsksIntegrity check depot ∧ (depotService.serve check).2.2.status = 200 ∧
      (∃ fields, (depotService.serve r).2.2.content = .json (.map fields) ∧
        Value.lookup "rule_id" fields = some (.int 7)) ∧
      ∃ n, depotService.metrics.Counts Metrics.unresolvableRules [] n ∧
        (depotService.serve r).1.metrics.Counts Metrics.unresolvableRules [] (n + 1) := by
  intro r check given
  have hreached : depotService.Reached := ⟨_, _, [], rfl⟩
  have hload : depotService.loadForm "depot" = .done depotService (.ok depot) :=
    depotService.loadForm_eq_iff.mpr ⟨rfl, List.lookup_cons_self, rfl⟩
  have hroute : Routing.ofRequest depotService.config.isLocal r.verb (Target.path r.target) =
      .found (.submit "depot") := by decide +kernel
  have hroute' : Routing.ofRequest depotService.config.isLocal check.verb
      (Target.path check.target) = .found (.integrity "depot") := by decide +kernel
  have hobject : Json.read (SubmissionRequest.dropMark r.body) =
      .ok (.map [(.text "answers", .map [(.text "bulk", .bool true)])]) := by cbv
  have hbody : SubmissionRequest.ofBody r.isJson r.body =
      .ok ⟨[(.text "bulk", .bool true)], none, none⟩ := by
    rw [SubmissionRequest.ofBody_of_read (by decide +kernel) (by decide +kernel) hobject]
    cbv
  have hsubmits : depotService.SubmitsTo r depot given :=
    ⟨"depot", _, hroute, hbody, hload, by cbv⟩
  have hasks : depotService.AsksIntegrity check depot := ⟨"depot", hroute', hload⟩
  obtain ⟨hwritable, hcheckable⟩ := checkable_depot
  obtain ⟨hshown, -, hforetells⟩ := integrity_foretells_decision hreached hsubmits hasks
  obtain ⟨fields, hcontent, hnames, -⟩ :=
    hforetells.told ((hforetells.unhindered hwritable).mpr rfl)
  have hfirst : Rule.select given depot.rules depot.orderedQuestions =
      some ⟨7, "bulk", .equals, "true", ⟨.showMessage, "In stock"⟩, 0, true⟩ := by cbv
  rw [Rule.select_eq_some_iff, Form.orderedQuestions, Rule.rank_inOrder] at hfirst
  have hdangling : (Rule.dangling depot.rules depot.questions).length = 1 := by cbv
  have hcounted := hforetells.counted
  rw [hdangling] at hcounted
  exact ⟨hreached, hsubmits, hasks, (hshown hcheckable).1,
    ⟨fields, hcontent, (hnames 7).mpr ⟨_, hfirst, rfl⟩⟩, hcounted⟩

/-- A form with one rule, of some priority. -/
def parcels (priority : ℤ) : Form :=
  ⟨.int 6, .text "parcels", .text "Parcels", .null, .bool true, .null,
    [⟨"bulk", .text "Bulk", .radio, ["true", "false"], true, 0⟩],
    [⟨7, "bulk", .equals, "true", ⟨.showMessage, "By freight"⟩, priority, true⟩]⟩

/-- A service with this form. -/
def parcelsService (priority : ℤ) : Service :=
  start ⟨"test", "INFO", "memory", "", none, 10, "Thank you", "routing", 8013, "0.0.0.0"⟩
    (.ofForms [parcels priority] none)

/-- A submission to the form, and what asks for its check. -/
def parcelsRequest : Request :=
  ⟨"POST", "/forms/parcels/submit", [], "\x7b\"answers\": \x7b\"bulk\": true\x7d\x7d", "1"⟩

def parcelsCheck : Request :=
  ⟨"GET", "/forms/parcels/integrity", [], "", "2"⟩

/-- When the priority of the rule cannot be written, the check of the form is not shown, while a
submission is answered with the rule. -/
theorem parcels_answered {priority : ℤ} (h : IntegerText.isWritable priority = false) :
    ((parcelsService priority).serve parcelsCheck).2.2.status = 500 ∧
      ((parcelsService priority).serve parcelsRequest).2.2.status = 200 := by
  have hload : (parcelsService priority).loadForm "parcels" =
      .done (parcelsService priority) (.ok (parcels priority)) :=
    (parcelsService priority).loadForm_eq_iff.mpr ⟨rfl, List.lookup_cons_self, rfl⟩
  constructor
  · have hroute : Routing.ofRequest (parcelsService priority).config.isLocal parcelsCheck.verb
        (Target.path parcelsCheck.target) = .found (.integrity "parcels") := by
      show Routing.ofRequest (parcelsService 0).config.isLocal _ _ = _
      decide +kernel
    refine (serve_of_asksIntegrity ⟨"parcels", hroute, hload⟩).2 fun hcheckable => ?_
    -- The rule is among those that the check ranks, with its priority.
    have hranked : (⟨7, "bulk", .equals, "true", ⟨.showMessage, "By freight"⟩, priority, true⟩ : Rule) ∈
        Rule.rank (parcels priority).rules (parcels priority).questions :=
      Rule.mem_rank.mpr ⟨List.mem_singleton_self _, rfl, _, List.mem_singleton_self _, rfl⟩
    have hpriority := (hcheckable.ranked _ hranked).2
    rw [h] at hpriority
    cases hpriority
  · have hroute : Routing.ofRequest (parcelsService priority).config.isLocal parcelsRequest.verb
        (Target.path parcelsRequest.target) = .found (.submit "parcels") := by
      show Routing.ofRequest (parcelsService 0).config.isLocal _ _ = _
      decide +kernel
    have hobject : Json.read (SubmissionRequest.dropMark parcelsRequest.body) =
        .ok (.map [(.text "answers", .map [(.text "bulk", .bool true)])]) := by cbv
    have hbody : SubmissionRequest.ofBody parcelsRequest.isJson parcelsRequest.body =
        .ok ⟨[(.text "bulk", .bool true)], none, none⟩ := by
      rw [SubmissionRequest.ofBody_of_read (by decide +kernel) (by decide +kernel) hobject]
      cbv
    have hsubmits : (parcelsService priority).SubmitsTo parcelsRequest (parcels priority)
        ⟨[("bulk", .text "true")]⟩ := ⟨"parcels", _, hroute, hbody, hload, by cbv⟩
    have hwritable : (parcels priority).Writable := by
      refine ⟨IntegerText.isWritable_of_lt_ten (by decide), fun rule hrule => ?_⟩
      obtain rfl := List.mem_singleton.mp hrule
      have hseven : Int.natAbs 7 < 10 := by decide
      exact IntegerText.isWritable_of_lt_ten hseven
    exact (status_of_writable hsubmits hwritable).mpr rfl

/-- A form may take a submission while its check fails. -/
theorem submission_is_answered_without_check :
    ((parcelsService (10 ^ IntegerText.digitLimit)).serve parcelsCheck).2.2.status = 500 ∧
      ((parcelsService (10 ^ IntegerText.digitLimit)).serve parcelsRequest).2.2.status = 200 :=
  parcels_answered IntegerText.not_isWritable_ten_pow

end Service

end FormRouting
