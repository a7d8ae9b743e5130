import FormRouting.Proofs.Form.Target
import FormRouting.Proofs.Routing.Precedence
import FormRouting.Submission

/-!
# What is told of a decision

A decision is told twice: to the visitor in a response, and to the owner of the form in a record.
Neither is made from the other, and a response puts the default message in place of an empty one, so
that they tell the same rests on what decisions evaluation comes to. On a form that was built from a
definition no rule has an empty target, and each decision is settled (`Decision.Settled`). Of a
settled decision the record and the response agree (`Settled.agrees`), and the response tells all of
it (`Settled.decision_ofDecision`), so different decisions have different responses
(`Settled.ofDecision_inj`).
-/

namespace FormRouting

/-! ## Settled decisions -/

theorem Rule.mem_of_select {answers : AnswerSet Answer} {rules : List Rule}
    {questions : List Question} {rule : Rule} (h : select answers rules questions = some rule) :
    rule ∈ rules := by
  obtain ⟨i, hi, -⟩ := place_of_select h
  exact List.mem_of_getElem? hi

namespace Decision

/-- The decision that no rule matches, and those that have a rule and a target. -/
inductive Settled : Decision → Prop where
  | noMatch : Settled .noMatch
  | matched (kind : ActionKind) (ruleId : Int) {target : String} (h : target ≠ "") :
      Settled ⟨.ofAction kind, target, some ruleId⟩

/-- A decision that evaluation comes to for some answers on some form that was built from a
definition. -/
def Produced (d : Decision) : Prop :=
  ∃ (form : Form) (answers : AnswerSet Answer), form.Loaded ∧
    d = evaluate answers form.rules form.orderedQuestions

/-- Where no rule has an empty target, evaluation settles. -/
theorem settled_evaluate {rules : List Rule} (h : ∀ rule ∈ rules, rule.action.target ≠ "")
    (answers : AnswerSet Answer) (questions : List Question) :
    (evaluate answers rules questions).Settled := by
  unfold evaluate
  cases hselect : Rule.select answers rules questions with
  | none => exact .noMatch
  | some rule => exact .matched rule.action.kind rule.id (h rule (Rule.mem_of_select hselect))

theorem Produced.settled {d : Decision} (h : d.Produced) : d.Settled := by
  obtain ⟨form, answers, hform, rfl⟩ := h
  exact settled_evaluate hform.target_ne_empty answers form.orderedQuestions

/-- Only a decision that no rule matches is recorded as such. -/
theorem summary_eq_noMatch_iff (d : Decision) : d.summary = "no_match" ↔ d.matched = false := by
  unfold summary matched
  -- The marks in front of a booking link and of an address begin with another character.
  cases d.outcome with
  | booking => simp [String.ext_iff]
  | url => simp [String.ext_iff]
  | message => simp
  | noMatch => simp

end Decision

/-! ## Responses -/

namespace DecisionResponse

/-- The text by which the decision behind a response is recorded. -/
def routedTo (r : DecisionResponse) : String :=
  match r.bookingLinkId, r.url with
  | some link, _ => "booking_link:" ++ link
  | none, some url => "url:" ++ url
  | none, none => if r.matched then "message" else "no_match"

/-- The decision behind a response. -/
def decision (r : DecisionResponse) : Decision :=
  match r.ruleId, r.bookingLinkId, r.url, r.message with
  | some id, some link, _, _ => ⟨.booking, link, some id⟩
  | some id, none, some url, _ => ⟨.url, url, some id⟩
  | some id, none, none, some message => ⟨.message, message, some id⟩
  | _, _, _, _ => .noMatch

variable (d : Decision) (defaultMessage : String)

theorem routedTo_ofDecision : (ofDecision d defaultMessage).routedTo = d.summary := by
  unfold ofDecision Decision.summary
  cases d.outcome <;> rfl

theorem bookingLinkId_ofDecision :
    (ofDecision d defaultMessage).bookingLinkId = d.bookingLink? := by
  unfold ofDecision Decision.bookingLink?
  cases d.outcome <;> rfl

theorem matched_ofDecision : (ofDecision d defaultMessage).matched = d.matched := by
  unfold ofDecision Decision.matched
  cases d.outcome <;> rfl

/-- A response gives a booking link, an address or a message, and only one of them. -/
theorem oneTarget_ofDecision :
    let r := ofDecision d defaultMessage
    [r.bookingLinkId, r.url, r.message].countP (·.isSome) = 1 := by
  unfold ofDecision
  cases d.outcome <;> rfl

end DecisionResponse

/-! ## Records and responses -/

/-- A record and a response tell the same of one decision. -/
structure Submission.Agrees (record : Submission) (response : DecisionResponse) : Prop where
  ruleId : record.ruleId = (response.ruleId.map Value.int).getD .null
  bookingLinkId : record.bookingLinkId = (response.bookingLinkId.map Value.text).getD .null
  /-- The response gives a booking link, an address or a message, and only one of them. -/
  oneTarget :
    [response.bookingLinkId, response.url, response.message].countP (·.isSome) = 1
  routedTo : record.routedTo = .text response.routedTo
  noMatch : record.routedTo = .text "no_match" ↔ response.matched = false
  noRule : response.matched = false ↔ response.ruleId = none

namespace Decision.Settled

variable {d d' : Decision}

theorem matched_eq_false_iff (h : d.Settled) : d.matched = false ↔ d.ruleId = none := by
  cases h with
  | noMatch => decide
  | matched kind ruleId htarget => cases kind <;> simp [Decision.matched, Outcome.ofAction]

theorem ruleId_ofDecision (h : d.Settled) (defaultMessage : String) :
    (DecisionResponse.ofDecision d defaultMessage).ruleId = d.ruleId := by
  cases h with
  | noMatch => rfl
  | matched kind ruleId htarget => cases kind <;> rfl

/-- The record and the response of a settled decision agree, whatever else is recorded and whatever
the default message is. -/
theorem agrees (h : d.Settled) (formId answers : Value) (email name : Option String)
    (defaultMessage : String) :
    (Submission.ofDecision formId answers d email name).Agrees
      (.ofDecision d defaultMessage) where
  ruleId := by
    rw [h.ruleId_ofDecision]
    rfl
  bookingLinkId := by
    rw [DecisionResponse.bookingLinkId_ofDecision]
    rfl
  oneTarget := DecisionResponse.oneTarget_ofDecision d defaultMessage
  routedTo := by
    rw [DecisionResponse.routedTo_ofDecision]
    rfl
  noMatch := by
    rw [DecisionResponse.matched_ofDecision, ← d.summary_eq_noMatch_iff]
    exact ⟨Value.text.inj, congrArg Value.text⟩
  noRule := by
    rw [DecisionResponse.matched_ofDecision, h.ruleId_ofDecision]
    exact h.matched_eq_false_iff

/-- A response tells all of a settled decision. -/
theorem decision_ofDecision (h : d.Settled) (defaultMessage : String) :
    (DecisionResponse.ofDecision d defaultMessage).decision = d := by
  cases h with
  | noMatch => rfl
  | matched kind ruleId htarget =>
    cases kind with
    | routeToBooking => rfl
    | routeToUrl => rfl
    | showMessage =>
      -- The message is the rule's own: an empty one would be lost to the default.
      simp [Outcome.ofAction, DecisionResponse.ofDecision, DecisionResponse.decision, htarget]

/-- Settled decisions with one response are one. -/
theorem ofDecision_inj (h : d.Settled) (h' : d'.Settled) {defaultMessage : String}
    (heq : DecisionResponse.ofDecision d defaultMessage = .ofDecision d' defaultMessage) :
    d = d' := by
  rw [← h.decision_ofDecision defaultMessage, heq, h'.decision_ofDecision defaultMessage]

end Decision.Settled

/-- The message of a rule that decides to show one reaches the visitor as it is. -/
theorem DecisionResponse.message_of_select {answers : AnswerSet Answer} {rules : List Rule}
    {questions : List Question} {rule : Rule}
    (h : Rule.select answers rules questions = some rule) (hkind : rule.action.kind = .showMessage)
    (htarget : rule.action.target ≠ "") (defaultMessage : String) :
    (ofDecision (.evaluate answers rules questions) defaultMessage).message =
      some rule.action.target := by
  unfold Decision.evaluate
  rw [h]
  simp [ofDecision, Decision.ofRule, hkind, Outcome.ofAction, htarget]

end FormRouting
