import FormRouting.Routing.Evaluation
import FormRouting.Routing.Validation
import FormRouting.Service.Basic
import FormRouting.SubmissionRequest

/-!
# Handling submissions

A submission is handled in three steps: its form is loaded, its answers are validated and evaluated
on that form, and a record of it is kept. Only the first and the last step touch the store.
-/

namespace FormRouting

/-- What is decided about a submission whose answers are valid. -/
structure Verdict where
  decision : Decision
  /-- The rules of the form that can never match. -/
  dangling : List DanglingRule

namespace Verdict

/-- Validates the answers of a submission and decides where the visitor goes. -/
def ofAnswers (form : Form) (answers : List (Value × Value)) :
    Except (List AnswerError) Verdict :=
  let questions := form.orderedQuestions
  (Question.validate questions answers).map fun given =>
    ⟨Decision.evaluate given form.rules questions, Rule.dangling form.rules form.questions⟩

end Verdict

namespace Service

/-- The report of a form that is missing or not published. -/
def formNotFound (slug : String) : LogEntry :=
  ⟨.info, "Routing form not found", [("slug", .text slug)]⟩

/-- Loads the form under a slug, which has to be published. -/
def loadForm (s : Service) (slug : String) : Worked Form :=
  match s.calling .getForm (s.store.get? slug) with
  | .error failure => .done s (.error failure)
  | .ok found =>
    match found.filter (·.isPublished) with
    | some form => .done s (.ok form)
    | none =>
      ⟨s, [formNotFound slug], [], .error (.service (.notFound (.text "Routing form not found")
        (Value.record [("slug", .text slug)])))⟩

/-- Counts that answers were validated and, if they were valid, evaluated. -/
def countEvaluation (m : Metrics) : Metrics :=
  (m.update Metrics.evaluationDuration [] (.observe (.real .zero))).1

/-- Counts the errors of a submission. -/
def countErrors (errors : List AnswerError) (m : Metrics) : Metrics :=
  errors.foldl (fun m e => m.increment Metrics.validationFailures [("error_code", e.code)]) m

/-- The report of a submission that is turned down. -/
def rejectionReport (form : Form) (errors : List AnswerError) : LogEntry :=
  ⟨.info, "Submission rejected", [("form_id", form.id), ("error_count", .int errors.length)]⟩

/-- Turns a submission down whose answers are invalid. How many errors there are can always be
written. -/
def reject (s : Service) (form : Form) (errors : List AnswerError) : Worked Verdict :=
  ((s.count (countErrors errors)).tell (rejectionReport form errors) form.id.isWritable).andThen
    fun s _ => .done s (.error (.service (.validation (.text "Submission has invalid answers")
      (Value.record [("errors", .list (errors.map (·.toValue)))]))))

/-- Counts the rules of a form that can never match. -/
def countDangling (n : Nat) (m : Metrics) : Metrics :=
  if n = 0 then m else (m.update Metrics.unresolvableRules [] (.addCount n)).1

/-- The report of rules that can never match. -/
def danglingReport (form : Form) (dangling : List DanglingRule) : LogEntry :=
  ⟨.warning, "Routing form has rules referencing missing questions",
    [("form_id", form.id), ("rule_ids", .list (dangling.map (.int ·.ruleId)))]⟩

/-- Counts and reports the rules of a form that can never match, if there are any. -/
def noteDangling (s : Service) (form : Form) (dangling : List DanglingRule) : Worked Unit :=
  if dangling.isEmpty then .done s (.ok ())
  else
    let report := danglingReport form dangling
    (s.count (countDangling dangling.length)).tell report report.isWritable

/-- The report of a decision. -/
def decisionReport (form : Form) (d : Decision) : LogEntry :=
  ⟨.info, "Routing decision",
    [("form_id", form.id), ("outcome", .text d.outcome.name),
      ("rule_id", (d.ruleId.map Value.int).getD .null)]⟩

/-- Counts and reports a decision. -/
def noteDecision (s : Service) (form : Form) (d : Decision) : Worked Unit :=
  let report := decisionReport form d
  (s.count (·.increment Metrics.decisions [("outcome", d.outcome.name)])).tell report
    report.isWritable

/-- Validates and evaluates the answers of a submission to a form. -/
def judge (s : Service) (form : Form) (answers : List (Value × Value)) : Worked Verdict :=
  let s := s.count countEvaluation
  match Verdict.ofAnswers form answers with
  | .error errors => s.reject form errors
  | .ok verdict =>
    (s.noteDangling form verdict.dangling).andThen fun s _ =>
      (s.noteDecision form verdict.decision).andThen fun s _ => .done s (.ok verdict)

/-- The event that a submission was recorded. -/
def recordedEvent : String := "routing_submission_recorded"

/-- Calls the store to keep the record of a submission that was handled with a form and led to a
decision. -/
def recordSubmission (s : Service) (form : Form) (decision : Decision) (record : Submission) :
    Worked Unit :=
  match s.calling .recordSubmission () with
  | .error failure => ⟨s, [], [⟨form, decision, record, false⟩], .error failure⟩
  | .ok () =>
    ⟨{ s with store := s.store.record record }.count fun m =>
      (m.recordEvent (.text recordedEvent) .null).1, [], [⟨form, decision, record, true⟩], .ok ()⟩

/-- Handles a submission to a form. -/
def submitTo (s : Service) (form : Form) (request : SubmissionRequest) : Worked DecisionResponse :=
  (s.judge form request.answers).andThen fun s verdict =>
    (s.recordSubmission form verdict.decision (.ofDecision form.id (.map request.answers)
      verdict.decision request.email request.name)).andThen fun s _ =>
        .done s (.ok (.ofDecision verdict.decision s.config.defaultMessage))

/-- Handles a submission to the form under a slug. -/
def submit (s : Service) (slug : String) (request : SubmissionRequest) : Worked DecisionResponse :=
  (s.loadForm slug).andThen fun s form => s.submitTo form request

end Service

end FormRouting
