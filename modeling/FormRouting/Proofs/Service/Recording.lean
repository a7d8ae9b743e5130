import FormRouting.Proofs.Routing.Response
import FormRouting.Proofs.Service.Exchange
import FormRouting.Proofs.Service.RequestBody
import FormRouting.Proofs.Store.Memory
import Mathlib

/-!
# What is recorded of a submission

A request that submits to a form is answered with success exactly when the service accepts it
(`Service.Accepts`): its body holds a submission, the form is published, the answers are valid, the
reports and the answer can be written, and the calls of the store work (`status_eq_iff`). One record
is kept then, and one response sent. `Records` says what they hold and that they agree, and
`record_agrees_with_response` that this is so of every form that was built from a definition.
-/

namespace FormRouting

/-! ## Bodies -/

namespace SubmissionRequest

/-- A text field that may be missing or null is taken as it was sent. -/
theorem TellsText.field_eq {fields : List (Value × Value)} {name : String} {said : Option String}
    (h : TellsText fields name said) :
    Value.field fields name = (said.map Value.text).getD .null := by
  unfold Value.field Value.fieldOr
  cases h with
  | absent h | null h | text h => rw [h]; rfl

/-- A submission holds what the object in the body holds that it was read from. -/
theorem fields_of_ofBody {isJson : Bool} {text : String} {request : SubmissionRequest}
    (h : ofBody isJson text = .ok request) :
    ∃ fields, Json.read (dropMark text) = .ok (.map fields) ∧
      Value.lookup "answers" fields = some (.map request.answers) ∧
      Value.field fields "email" = (request.email.map Value.text).getD .null ∧
      Value.field fields "name" = (request.name.map Value.text).getD .null := by
  obtain ⟨v, hread, hvalue⟩ := read_of_ofText (ofText_of_ofBody h)
  obtain ⟨fields, rfl, hsent, -⟩ := ofValue_eq_ok_iff.mp hvalue
  exact ⟨fields, hread, hsent.answers, hsent.email.field_eq, hsent.name.field_eq⟩

end SubmissionRequest

/-- The answer to a visitor names the rule that decided. -/
theorem DecisionResponse.ruleId_ofDecision_evaluate (answers : AnswerSet Answer)
    (rules : List Rule) (questions : List Question) (defaultMessage : String) :
    (ofDecision (.evaluate answers rules questions) defaultMessage).ruleId =
      (Rule.select answers rules questions).map (·.id) := by
  unfold Decision.evaluate
  cases Rule.select answers rules questions with
  | none => rfl
  | some rule =>
    dsimp only
    unfold Decision.ofRule
    cases rule.action.kind <;> rfl

namespace Service

/-! ## Handling -/

theorem calling_eq_ok_iff {α : Type} (s : Service) (call : StoreCall) (x y : α) :
    s.calling call x = .ok y ↔ s.faults.lookup call = none ∧ x = y := by
  unfold calling
  cases s.faults.lookup call <;> simp

/-- A form is loaded exactly when the call works and the store has it, published. -/
theorem loadForm_eq_iff (s : Service) {slug : String} {form : Form} :
    s.loadForm slug = .done s (.ok form) ↔
      s.faults.lookup .getForm = none ∧ s.store.get? slug = some form ∧
        form.isPublished = true := by
  unfold loadForm calling
  cases s.faults.lookup .getForm with
  | some failure => simp [Worked.done]
  | none =>
    dsimp only
    rw [← Option.filter_eq_some_iff (p := Form.isPublished)]
    cases (s.store.get? slug).filter Form.isPublished with
    | none => simp [Worked.done]
    | some found => simp [Worked.done]

/-- The decision on the answers that a form was given. -/
def decided (form : Form) (given : AnswerSet Answer) : Decision :=
  .evaluate given form.rules form.orderedQuestions

/-- The record of a submission by which a form was given answers. -/
def recordOf (request : SubmissionRequest) (form : Form) (given : AnswerSet Answer) : Submission :=
  .ofDecision form.id (.map request.answers) (decided form given) request.email request.name

/-- What is decided about the answers that a form was given, with its rules that can never match. -/
def verdictOn (form : Form) (given : AnswerSet Answer) : Verdict :=
  ⟨decided form given, Rule.dangling form.rules form.questions⟩

/-- What it takes to handle a submission to its end: the store has a published form under the slug,
the answers are valid for it, what is decided can be reported, and both calls of the store work. -/
structure Handles (s : Service) (slug : String) (request : SubmissionRequest) (form : Form)
    (given : AnswerSet Answer) : Prop where
  loads : s.faults.lookup .getForm = none
  stored : s.store.get? slug = some form
  published : form.isPublished = true
  valid : Question.validate form.orderedQuestions request.answers = .ok given
  told : tellsVerdict s.config form (verdictOn form given) = true
  records : s.faults.lookup .recordSubmission = none

/-- What it takes to accept a submission: it is handled to its end, and the rule that decides, if one
does, has an id that can be written into the answer. -/
structure Accepts (s : Service) (slug : String) (request : SubmissionRequest) (form : Form)
    (given : AnswerSet Answer) : Prop extends s.Handles slug request form given where
  named : ∀ rule, Rule.select given form.rules form.orderedQuestions = some rule →
    IntegerText.isWritable rule.id = true

variable {s : Service} {slug : String} {request : SubmissionRequest} {form : Form}
  {given : AnswerSet Answer}

/-- A form comes to the verdict on valid answers. -/
theorem ofAnswers_of_validate {answers : List (Value × Value)}
    (h : Question.validate form.orderedQuestions answers = .ok given) :
    Verdict.ofAnswers form answers = .ok (verdictOn form given) :=
  map_eq_ok_iff.mpr ⟨given, h, rfl⟩

/-- A submission that is handled to its end results in the decision, and its record is kept. -/
theorem submit_of_handles (h : s.Handles slug request form given) :
    (s.submit slug request).result =
        .ok (.ofDecision (decided form given) s.config.defaultMessage) ∧
      (s.submit slug request).service.store = s.store.record (recordOf request form given) := by
  have hload := s.loadForm_eq_iff.mpr ⟨h.loads, h.stored, h.published⟩
  have hjudged : judgement s.config form request.answers = .ok (verdictOn form given) :=
    judgement_eq_ok_iff.mpr ⟨ofAnswers_of_validate h.valid, h.told⟩
  have hcall : s.calling .recordSubmission () = .ok () :=
    (s.calling_eq_ok_iff _ _ _).mpr ⟨h.records, rfl⟩
  obtain ⟨hservice, -, hresult⟩ := s.submitTo_of_ok hjudged
  -- Counting the decision has left the faults as they were.
  have hcounted := (s.judge_onlyCounts form request.answers).service
  have hkept := countsOnly_recordSubmission _ form (decided form given) (recordOf request form given)
    ((hcounted.calling_eq _ _).trans hcall)
  rw [submit_of_done s hload, hresult, hservice, hcall]
  refine ⟨rfl, hkept.store_eq.trans ?_⟩
  show (s.judge form request.answers).service.store.record _ = _
  rw [hcounted.store_eq]

/-- Only a submission that is handled to its end results in a response. -/
theorem handles_of_submit {response : DecisionResponse}
    (h : (s.submit slug request).result = .ok response) :
    ∃ form given, s.Handles slug request form given := by
  rcases s.loadForm_cases slug with ⟨form, -, hload⟩ | ⟨reports, failure, hload, -⟩
  · rw [submit_of_done s hload] at h
    obtain ⟨hloads, hstored, hpublished⟩ := s.loadForm_eq_iff.mp hload
    cases hjudged : judgement s.config form request.answers with
    | error failure =>
      rw [(s.submitTo_of_error hjudged).2.2] at h
      cases h
    | ok verdict =>
      -- The answers led to a verdict, so all that is left to fail is the call that keeps the record.
      obtain ⟨hverdict, htold⟩ := judgement_eq_ok_iff.mp hjudged
      obtain ⟨given, hvalid, rfl⟩ := map_eq_ok_iff.mp hverdict
      rw [(s.submitTo_of_ok hjudged).2.2] at h
      obtain ⟨⟨⟩, hrecorded, -⟩ := map_eq_ok_iff.mp h
      exact ⟨form, given, hloads, hstored, hpublished, hvalid, htold,
        ((s.calling_eq_ok_iff _ _ _).mp hrecorded).1⟩
  · unfold submit at h
    rw [hload, Worked.andThen_of_error rfl] at h
    cases h

/-- The answer to a submission can be shown exactly when the rule that decides, if one does, has an
id that can be written. -/
theorem isStrict_decided (form : Form) (given : AnswerSet Answer) (defaultMessage : String) :
    Json.isStrict (DecisionResponse.ofDecision (decided form given) defaultMessage).toValue = true ↔
      ∀ rule, Rule.select given form.rules form.orderedQuestions = some rule →
        IntegerText.isWritable rule.id = true := by
  rw [isStrict_response, decided, DecisionResponse.ruleId_ofDecision_evaluate]
  cases Rule.select given form.rules form.orderedQuestions <;> simp

/-! ## Requests -/

variable {r : Request}

/-- A request that reaches a place where something of a form is shown is answered with what is shown,
if the form is loaded. -/
theorem serve_of_showForm {route : Route} {view : Form → Except Failure Answered}
    (hroute : Routing.ofRequest s.config.isLocal r.verb (Target.path r.target) = .found route)
    (hmethods : route.methods = ["GET"]) (hfollow : s.follow route r = s.showForm slug view)
    (hload : s.loadForm slug = .done s (.ok form)) :
    (s.serve r).2.2.status = statusOf (s.settle (view form)).2 ∧
      (s.serve r).2.2.content = bodyOf (s.settle (view form)).2 := by
  have hverb : r.verb ≠ "HEAD" := by
    have hmethod := verb_of_found hroute
    rw [hmethods] at hmethod
    rw [List.mem_singleton.mp hmethod]
    decide
  have hworked : s.follow route r = .done s (view form) := by
    rw [hfollow, showForm_of_done hload]
  obtain ⟨-, hstatus, hcontent⟩ := serve_of_work (work_of_found hroute)
  rw [hworked] at hstatus hcontent
  exact ⟨hstatus, hcontent hverb⟩

/-- What fails is not answered with success. -/
theorem statusOf_settle_error (s : Service) (failure : Failure) :
    statusOf (s.settle (.error failure)).2 ≠ 200 := by
  unfold settle
  cases failure with
  | unforeseen message => simp [statusOf]
  | service e =>
    dsimp only
    cases errorContent? e with
    | none => simp [statusOf]
    | some content => exact status_ne_success e.kind

section

variable (hroute : Routing.ofRequest s.config.isLocal r.verb (Target.path r.target) =
  .found (.submit slug))
include hroute

theorem verb_of_submit : r.verb = "POST" := by
  have hmethod := verb_of_found hroute
  simpa [Route.methods] using hmethod

/-- A request whose submission is handled to its end has its record kept, and it is answered with the
decision if that can be shown. -/
theorem serve_of_handles (hbody : SubmissionRequest.ofBody r.isJson r.body = .ok request)
    (h : s.Handles slug request form given) :
    let response := DecisionResponse.ofDecision (decided form given) s.config.defaultMessage
    (s.serve r).1.store = s.store.record (recordOf request form given) ∧
      ((s.serve r).2.2.status = 200 ↔ Json.isStrict response.toValue = true) ∧
      ((s.serve r).2.2.status = 200 → (s.serve r).2.2.content = .json response.toValue) := by
  intro response
  have hverb : r.verb ≠ "HEAD" := by simp [verb_of_submit hroute]
  obtain ⟨hresult, hstore⟩ := submit_of_handles h
  obtain ⟨hservice, hstatus, hcontent⟩ := serve_of_work (work_of_submit hroute)
  obtain ⟨hworked, -, hshown⟩ := s.submitBody_of_ok slug hbody
  -- The reply is what is shown of the response, so its status tells whether that can be shown.
  have hended : (s.submitBody slug r).result = shown response.toValue := by
    rw [hshown, hresult]
    rfl
  rw [hworked, hended] at hservice hstatus hcontent
  refine ⟨(hservice.store_eq.trans (countsOnly_settle _ _).store_eq).trans hstore, ?_, ?_⟩
  · rw [hstatus]
    unfold shown
    split_ifs with hstrict
    · exact iff_of_true rfl hstrict
    · exact iff_of_false (statusOf_settle_error _ _) hstrict
  · intro hsuccess
    rw [hstatus] at hsuccess
    rw [hcontent hverb]
    unfold shown at hsuccess ⊢
    split_ifs at hsuccess ⊢
    · rfl
    · exact absurd hsuccess (statusOf_settle_error _ _)

/-- A request whose submission is accepted is answered with success and the decision, and its record
is kept. -/
theorem serve_of_accepts (hbody : SubmissionRequest.ofBody r.isJson r.body = .ok request)
    (h : s.Accepts slug request form given) :
    (s.serve r).1.store = s.store.record (recordOf request form given) ∧
      (s.serve r).2.2.status = 200 ∧
      (s.serve r).2.2.content =
        .json (DecisionResponse.ofDecision (decided form given) s.config.defaultMessage).toValue := by
  obtain ⟨hstore, hstatus, hcontent⟩ := serve_of_handles hroute hbody h.toHandles
  have hsuccess := hstatus.mpr ((isStrict_decided _ _ _).mpr h.named)
  exact ⟨hstore, hsuccess, hcontent hsuccess⟩

/-- A request that submits to a form is answered with success exactly when its body holds a
submission that is accepted. -/
theorem status_eq_iff : (s.serve r).2.2.status = 200 ↔ ∃ request form given,
    SubmissionRequest.ofBody r.isJson r.body = .ok request ∧
      s.Accepts slug request form given := by
  constructor
  · intro h
    have hsettled := h
    rw [(serve_of_work (work_of_submit hroute)).2.1] at hsettled
    cases hbody : SubmissionRequest.ofBody r.isJson r.body with
    | error e =>
      -- A body that is turned down is answered, but not with success.
      unfold submitBody at hsettled
      rw [hbody] at hsettled
      cases e <;> cases hsettled
    | ok request =>
      rw [(s.submitBody_of_ok slug hbody).2.2] at hsettled
      cases hresult : (s.submit slug request).result with
      | error failure =>
        rw [hresult] at hsettled
        exact absurd hsettled (statusOf_settle_error _ failure)
      | ok response =>
        obtain ⟨form, given, hhandles⟩ := handles_of_submit hresult
        have hstrict := (serve_of_handles hroute hbody hhandles).2.1.mp h
        exact ⟨request, form, given, rfl, hhandles, (isStrict_decided _ _ _).mp hstrict⟩
  · rintro ⟨request, form, given, hbody, haccepts⟩
    exact (serve_of_accepts hroute hbody haccepts).2.1

end

/-- What a request leaves behind whose submission a form accepts: the one record that is kept and the
response that is sent. -/
structure Records (s : Service) (r : Request) (form : Form) (given : AnswerSet Answer)
    (record : Submission) (response : DecisionResponse) : Prop where
  /-- The record comes in front of the submissions, of which the newest are kept, as many as the
  limit allows. -/
  kept : (s.serve r).1.store.submissions =
    (record :: s.store.submissions).take (s.store.limit.getD (s.store.submissions.length + 1))
  /-- Nothing else in the store changes. -/
  left : (s.serve r).1.store.forms = s.store.forms ∧ (s.serve r).1.store.limit = s.store.limit
  sent : (s.serve r).2.2.content = .json response.toValue
  formId : record.formId = form.id
  /-- The answers, the address and the name are those of the body, each value as it was sent. -/
  verbatim : ∃ fields, Json.read (SubmissionRequest.dropMark r.body) = .ok (.map fields) ∧
    Value.lookup "answers" fields = some record.answers ∧
    Value.field fields "email" = record.email ∧ Value.field fields "name" = record.name
  agrees : record.Agrees response
  /-- The response tells which decision the form came to. -/
  decision : response.decision = decided form given
  /-- A message that a rule decides to show is its own. -/
  message : ∀ rule, Rule.select given form.rules form.orderedQuestions = some rule →
    rule.action.kind = .showMessage →
    rule.action.target ≠ "" ∧ response.message = some rule.action.target

/-- A request that submits to a form is answered with success exactly when its submission is
accepted. If the form was built from a definition, the record that is kept of it then and the
response agree and tell the decision. Decisions that such forms come to have different responses
unless they are the same. -/
theorem record_agrees_with_response :
    (∀ (s : Service) (r : Request) (slug : String),
      Routing.ofRequest s.config.isLocal r.verb (Target.path r.target) = .found (.submit slug) →
      ((s.serve r).2.2.status = 200 ↔ ∃ request form given,
        SubmissionRequest.ofBody r.isJson r.body = .ok request ∧
          s.Accepts slug request form given) ∧
      ∀ request form given, SubmissionRequest.ofBody r.isJson r.body = .ok request →
        s.Accepts slug request form given → form.Loaded →
        ∃ record response, s.Records r form given record response) ∧
    ∀ (defaultMessage : String) (d d' : Decision), d.Produced → d'.Produced →
      DecisionResponse.ofDecision d defaultMessage = .ofDecision d' defaultMessage → d = d' := by
  refine ⟨fun s r slug hroute => ⟨status_eq_iff hroute, ?_⟩, ?_⟩
  · intro request form given hbody haccepts hform
    have hsettled : (decided form given).Settled :=
      Decision.settled_evaluate hform.target_ne_empty given form.orderedQuestions
    obtain ⟨hkept, -, hsent⟩ := serve_of_accepts hroute hbody haccepts
    obtain ⟨fields, hread, hanswers, hemail, hname⟩ := SubmissionRequest.fields_of_ofBody hbody
    obtain ⟨hforms, hlimit, hsubmissions⟩ := s.store.parts_record (recordOf request form given)
    rw [← hkept] at hforms hlimit hsubmissions
    refine ⟨recordOf request form given, .ofDecision (decided form given) s.config.defaultMessage,
      hsubmissions, ⟨hforms, hlimit⟩, hsent, rfl, ⟨fields, hread, hanswers, hemail, hname⟩,
      hsettled.agrees _ _ _ _ _, hsettled.decision_ofDecision _, ?_⟩
    intro rule hselect hkind
    have htarget := hform.target_ne_empty rule (Rule.mem_of_select hselect)
    exact ⟨htarget, DecisionResponse.message_of_select hselect hkind htarget _⟩
  · intro defaultMessage d d' hd hd' heq
    exact hd.settled.ofDecision_inj hd'.settled heq

/-- A form with one question, and a rule for one answer to it. -/
def stock : Form :=
  ⟨.int 3, .text "stock", .text "Stock", .null, .bool true, .null,
    [⟨"bulk", .text "Bulk", .radio, ["true", "false"], true, 0⟩],
    [⟨7, "bulk", .equals, "true", ⟨.showMessage, "In stock"⟩, 0, true⟩]⟩

theorem loaded_stock : stock.Loaded := by
  refine ⟨Value.record [("id", .int 3), ("slug", .text "stock"), ("title", .text "Stock"),
    ("questions", .list [Value.record [("id", .text "bulk"), ("label", .text "Bulk"),
      ("type", .text "radio"), ("options", .list [.text "true", .text "false"])]]),
    ("rules", .list [Value.record [("id", .int 7), ("question_id", .text "bulk"),
      ("operator", .text "equals"), ("value", .text "true"), ("action", .text "show_message"),
      ("target_message", .text "In stock")]])], [], ?_⟩
  cbv

/-- The ids of the form and of its rule have texts. -/
theorem writable_stock : stock.Writable := by
  refine ⟨IntegerText.isWritable_of_lt_ten (by decide), fun rule hrule => ?_⟩
  obtain rfl := List.mem_singleton.mp hrule
  exact IntegerText.isWritable_of_lt_ten (by decide)

/-- A service with this form. -/
def shop : Service :=
  start ⟨"test", "INFO", "memory", "", none, 10, "Thank you", "routing", 8013, "0.0.0.0"⟩
    (.ofForms [stock] none)

/-- A submission to the form. -/
def stockRequest : Request :=
  ⟨"POST", "/forms/stock/submit", [], "\x7b\"answers\": \x7b\"bulk\": true\x7d\x7d", "1"⟩

/-- A truth value is recorded as it was sent, although its text is the answer that is evaluated, and
the message of the rule is shown. That no rule matches is told apart from it even by a default
message that is the same. -/
theorem record_agrees_with_response_stock :
    let given : AnswerSet Answer := ⟨[("bulk", .text "true")]⟩
    stock.Loaded ∧ (shop.serve stockRequest).2.2.status = 200 ∧
      (∃ record response, shop.Records stockRequest stock given record response ∧
        record.answers = .map [(.text "bulk", .bool true)] ∧ response.message = some "In stock") ∧
      DecisionResponse.ofDecision (decided stock given) "In stock" ≠
        .ofDecision (decided stock ⟨[]⟩) "In stock" := by
  intro given
  have hroute : Routing.ofRequest shop.config.isLocal stockRequest.verb
      (Target.path stockRequest.target) = .found (.submit "stock") := by decide +kernel
  have hobject : Json.read (SubmissionRequest.dropMark stockRequest.body) =
      .ok (.map [(.text "answers", .map [(.text "bulk", .bool true)])]) := by cbv
  have hbody : SubmissionRequest.ofBody stockRequest.isJson stockRequest.body =
      .ok ⟨[(.text "bulk", .bool true)], none, none⟩ := by
    rw [SubmissionRequest.ofBody_of_read (by decide +kernel) (by decide +kernel) hobject]
    cbv
  have hvalid : Question.validate stock.orderedQuestions
      ([(.text "bulk", .bool true)] : List (Value × Value)) = .ok given := by cbv
  have htold := tellsVerdict_of_writable shop.config writable_stock (ofAnswers_of_validate hvalid)
  have hnamed : ∀ rule, Rule.select given stock.rules stock.orderedQuestions = some rule →
      IntegerText.isWritable rule.id = true := fun rule hselect =>
    writable_stock.rules rule (Rule.mem_of_select hselect)
  have haccepts : shop.Accepts "stock" ⟨[(.text "bulk", .bool true)], none, none⟩ stock given :=
    ⟨⟨rfl, List.lookup_cons_self, rfl, hvalid, htold, rfl⟩, hnamed⟩
  obtain ⟨hstatus, hrecords⟩ := record_agrees_with_response.1 shop stockRequest "stock" hroute
  obtain ⟨record, response, h⟩ := hrecords _ _ _ hbody haccepts loaded_stock
  refine ⟨loaded_stock, hstatus.mpr ⟨_, _, _, hbody, haccepts⟩, ⟨record, response, h, ?_, ?_⟩, ?_⟩
  · obtain ⟨fields, hread, hanswers, -⟩ := h.verbatim
    obtain rfl := Value.map.inj (Except.ok.inj (hobject.symm.trans hread))
    exact (Option.some.inj hanswers).symm
  · have hselect : Rule.select given stock.rules stock.orderedQuestions =
        some ⟨7, "bulk", .equals, "true", ⟨.showMessage, "In stock"⟩, 0, true⟩ := by cbv
    exact (h.message _ hselect rfl).2
  · intro heq
    have hsame : decided stock given = decided stock ⟨[]⟩ := record_agrees_with_response.2 _ _ _
      ⟨stock, _, loaded_stock, rfl⟩ ⟨stock, _, loaded_stock, rfl⟩ heq
    have hmatch : decided stock given = ⟨.message, "In stock", some 7⟩ := by cbv
    have hnone : decided stock ⟨[]⟩ = .noMatch := by cbv
    cases hmatch.symm.trans (hsame.trans hnone)

end Service

end FormRouting
