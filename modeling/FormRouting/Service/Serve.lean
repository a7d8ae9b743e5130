import FormRouting.Form.Public
import FormRouting.Http.Target
import FormRouting.Json.Writer
import FormRouting.Service.Route
import FormRouting.Service.Submit

/-!
# Serving requests

The answer to a request. Every request that is answered is counted and gets its id back, but for one
that fails in a way that nothing expects.
-/

namespace FormRouting

namespace Service

/-- A status with the content of a reply. -/
abbrev Answered := Nat × Content

/-- The content of a reply about a path or a method. -/
def detail (text : String) : Content :=
  .json (Value.record [("detail", .text text)])

/-! ## Routes -/

/-- What the service says about itself. -/
def about : Value :=
  Value.record [
    ("service", .text Metrics.routingService),
    ("message", .text "SmartScheduler Routing Layer - Routing Service"),
    ("version", .text Metrics.version),
    ("capabilities",
      .list [.text "answer_validation", .text "rule_evaluation", .text "submissions"])]

/-- The reply to a check of the service's health. How long it has been running is left out. -/
def checkHealth (s : Service) : Service × Answered :=
  match s.calling .healthCheck () with
  | .ok () =>
    (s.count fun m => (m.recordHealth (.text "ok")).1, 200, .json (Value.record [
      ("service", .text Metrics.routingService),
      ("status", .text "ok"),
      ("dependencies", Value.record [("form_store", .text "ok")]),
      ("version", .text Metrics.version),
      ("commit", .text "unknown")]))
  | .error failure =>
    (s.count fun m => (m.recordHealth (.text "error")).1, 503, .json (Value.record [
      ("service", .text Metrics.routingService),
      ("status", .text "error"),
      ("error", .text failure.text)]))

/-- A rule in the order of precedence, as the check of a form shows it. -/
def ruleSummary (r : Rule) : Value :=
  Value.record [
    ("rule_id", .int r.id),
    ("priority", .int r.priority),
    ("question_id", .text r.questionId),
    ("condition", .text (r.operator.name ++ " " ++ quoted r.value)),
    ("action", .text r.action.describe)]

/-- The rules of a form that can never match, and the others in the order of precedence. -/
def integrity (form : Form) : Value :=
  Value.record [
    ("form_id", form.id),
    ("unresolvable_rules",
      .list ((Rule.dangling form.rules form.questions).map (·.toValue))),
    ("rule_order", .list ((Rule.rank form.rules form.questions).map ruleSummary))]

/-- A value as the content of a reply, which has to have a JSON form that every reader takes. -/
def shown (v : Value) : Except Failure Answered :=
  if Json.isStrict v then .ok (200, .json v) else .error unwritable

/-- The public side of a form as a reply. -/
def publicForm (form : Form) : Except Failure Answered :=
  match PublicForm.ofForm form with
  | .ok presented => shown presented.toValue
  | .error _ => .error (.unforeseen "")

/-- Handles a submission in the body of a request. -/
def submitBody (s : Service) (slug : String) (r : Request) : Worked Answered :=
  match SubmissionRequest.ofBody r.isJson r.body with
  | .error (.refused paths) => .done s (.ok (422, .refused paths))
  | .error .unreadable => .done s (.ok (400, detail "There was an error parsing the body"))
  | .ok submission =>
    (s.submit slug submission).andThen fun s response => .done s (shown response.toValue)

/-- Loads a form and shows something of it. -/
def showForm (s : Service) (slug : String) (view : Form → Except Failure Answered) :
    Worked Answered :=
  (s.loadForm slug).andThen fun s form => .done s (view form)

/-- Follows a route. -/
def follow (s : Service) (route : Route) (r : Request) : Worked Answered :=
  match route with
  | .root => .done s (.ok (200, .json about))
  | .health =>
    let (s, answer) := s.checkHealth
    .done s (.ok answer)
  | .metrics => .done s (.ok (200, .metrics s.metrics.samples))
  | .page => .done s (.ok (200, .page))
  | .form slug => s.showForm slug publicForm
  | .submit slug => s.submitBody slug r
  | .integrity slug => s.showForm slug fun form => shown (integrity form)

/-! ## Failures -/

/-- The code of a failure that nothing expects. -/
def internalCode : String := "INTERNAL_ERROR"

/-- What is answered to a failure that nothing expects. -/
def internalError : Content :=
  .json (Value.record [
    ("code", .text internalCode),
    ("message", .text "Internal server error"),
    ("details", .map [])])

/-- What is answered to an error of the service, if it can be written as JSON. -/
def errorContent? (e : ServiceError) : Option Content :=
  match e.response none with
  | .ok response =>
    if Json.isStrict response.toValue then some (.json response.toValue) else none
  | .error _ => none

/-- What is answered after the work on a request; nothing if it fails in a way that nothing
expects. Errors are counted. -/
def settle (s : Service) (result : Except Failure Answered) : Service × Option Answered :=
  let counting (s : Service) (code : Value) : Service :=
    s.count fun m => (m.recordError code .null).1
  match result with
  | .ok answer => (s, some answer)
  | .error (.unforeseen _) => (counting s (.text internalCode), none)
  | .error (.service e) =>
    let counted := counting s e.code
    match errorContent? e with
    | some content => (counted, some (e.kind.status, content))
    | none => (counting counted (.text internalCode), none)

/-! ## Requests from other origins -/

/-- The methods that other origins may use. -/
def sharedMethods : List String :=
  ["DELETE", "GET", "HEAD", "OPTIONS", "PATCH", "POST", "PUT"]

/-- The origin that may read a reply: any that asks, where the service runs for its developers. -/
def allowedOrigin (s : Service) (r : Request) : Option String :=
  if s.config.isLocal then r.header? "origin" else none

/-- The answer to a request that asks for leave to send another one, if it does. -/
def preflight? (s : Service) (r : Request) : Option Answered :=
  match r.header? "origin", r.header? "access-control-request-method" with
  | some _, some method =>
    if r.verb = "OPTIONS" then
      if s.config.isLocal ∧ sharedMethods.contains method then some (200, .page)
      else some (400, .page)
    else none
  | _, _ => none

/-! ## Requests -/

/-- Works on a request: the answer, or where it is sent instead. -/
def work (s : Service) (r : Request) (path : String) : Worked Answered × Option String :=
  match s.preflight? r with
  | some answer => (.done s (.ok answer), none)
  | none =>
    match Routing.ofRequest s.config.isLocal r.verb path with
    | .found route => (s.follow route r, none)
    | .notAllowed => (.done s (.ok (405, detail "Method Not Allowed")), none)
    | .unknown => (.done s (.ok (404, detail "Not Found")), none)
    | .redirect shorter => (.done s (.ok (307, .empty)), some shorter)

/-- Counts a request that was answered. -/
def countRequest (s : Service) (r : Request) (path : String) (status : Nat) : Service :=
  s.count fun m => (m.recordRequest (.text r.verb) (.text (Target.countedPath path))
    (.text (toString status)) (.real .zero)).1

/-- A request with its reply; a request that is sent elsewhere has no content in its reply. -/
def serveOnce (s : Service) (r : Request) : Service × List LogEntry × Reply × Option String :=
  let path := Target.path r.target
  let (worked, elsewhere) := s.work r path
  let (settled, answer) := worked.service.settle worked.result
  match answer with
  | some (status, content) =>
    let shown := if r.verb = "HEAD" then .empty else content
    (settled.countRequest r path status, worked.reports,
      ⟨status, shown, some r.id, s.allowedOrigin r⟩, elsewhere)
  | none => (settled, worked.reports, ⟨500, internalError, none, none⟩, none)

/-- Serves a request. Where it is sent elsewhere it is served there; the path gets shorter each
time. -/
def serveWithin : (fuel : Nat) → Service → Request → Service × List LogEntry × Reply
  | 0, s, r =>
    let (s, reports, reply, _) := s.serveOnce r
    (s, reports, reply)
  | fuel + 1, s, r =>
    match s.serveOnce r with
    | (s, reports, reply, none) => (s, reports, reply)
    | (s, reports, _, some target) =>
      let (s, later, reply) := serveWithin fuel s { r with target }
      (s, reports ++ later, reply)

/-- Serves a request. -/
def serve (s : Service) (r : Request) : Service × List LogEntry × Reply :=
  serveWithin r.target.length s r

end Service

end FormRouting
