import FormRouting.Proofs.Service.Run

/-!
# The id of a request

A request that sends no id gets one, and no two requests get the same. Nothing but the reply shows
it: leaving it out of a request (`Request.sent`) changes neither what the service does nor anything
else of the reply (`serve_sent`), so what is said of requests and replies without their ids holds
whichever ids were handed out.
-/

namespace FormRouting

/-- A request as it is sent, without the id that it gets. -/
def Request.sent (r : Request) : Request :=
  { r with freshId := "" }

/-- A reply without the id of the request. -/
def Reply.withoutId (reply : Reply) : Reply :=
  { reply with requestId := none }

namespace Service

/-- A step as it is asked for. -/
def Step.sent : Step → Step
  | .request r => .request r.sent
  | step => step

/-- What comes of a step, without the id of a request. -/
def StepResult.withoutId : StepResult → StepResult
  | .reply r => .reply r.withoutId
  | result => result

variable (s : Service) (r : Request)

/-- The id of a request has no part in the handling of its body. -/
theorem submitBody_sent (slug : String) : s.submitBody slug r.sent = s.submitBody slug r := by
  have hjson : r.sent.isJson = r.isJson := rfl
  have hbody : r.sent.body = r.body := rfl
  unfold submitBody
  rw [hjson, hbody]

/-- The id of a request has no part in the following of a route. -/
theorem follow_sent (route : Route) : s.follow route r.sent = s.follow route r := by
  cases route with
  | submit slug => exact s.submitBody_sent r slug
  | _ => rfl

/-- The id of a request has no part in the work on it. -/
theorem work_sent (path : String) : s.work r.sent path = s.work r path := by
  have hpreflight : s.preflight? r.sent = s.preflight? r := rfl
  have hverb : r.sent.verb = r.verb := rfl
  unfold work
  simp only [hpreflight, hverb, follow_sent]

/-- Only the reply to a request that is served once shows its id. -/
theorem serveOnce_sent :
    (s.serveOnce r.sent).1 = (s.serveOnce r).1 ∧
      (s.serveOnce r.sent).2.1 = (s.serveOnce r).2.1 ∧
      (s.serveOnce r.sent).2.2.1.withoutId = (s.serveOnce r).2.2.1.withoutId ∧
      (s.serveOnce r.sent).2.2.2 = (s.serveOnce r).2.2.2 := by
  have htarget : r.sent.target = r.target := rfl
  unfold serveOnce
  dsimp only
  rw [htarget, work_sent]
  generalize s.work r (Target.path r.target) = worked
  obtain ⟨worked, elsewhere⟩ := worked
  dsimp only
  generalize worked.service.settle worked.result = settled
  obtain ⟨settled, answer⟩ := settled
  cases answer with
  | none => exact ⟨rfl, rfl, rfl, rfl⟩
  | some answer => exact ⟨rfl, rfl, rfl, rfl⟩

/-- Only the reply to a request shows its id, wherever the request is sent. -/
theorem serveWithin_sent (fuel : ℕ) :
    (serveWithin fuel s r.sent).1 = (serveWithin fuel s r).1 ∧
      (serveWithin fuel s r.sent).2.1 = (serveWithin fuel s r).2.1 ∧
      (serveWithin fuel s r.sent).2.2.withoutId = (serveWithin fuel s r).2.2.withoutId := by
  induction fuel generalizing s r with
  | zero =>
    obtain ⟨hservice, hreports, hreply, -⟩ := s.serveOnce_sent r
    exact ⟨hservice, hreports, hreply⟩
  | succ fuel ih =>
    have honce := s.serveOnce_sent r
    unfold serveWithin
    generalize s.serveOnce r.sent = served, s.serveOnce r = served' at honce
    obtain ⟨t, reports, reply, elsewhere⟩ := served
    obtain ⟨t', reports', reply', elsewhere'⟩ := served'
    obtain ⟨hservice, hreports, hreply, helsewhere⟩ := honce
    obtain rfl : t = t' := hservice
    obtain rfl : reports = reports' := hreports
    obtain rfl : elsewhere = elsewhere' := helsewhere
    cases elsewhere with
    | none => exact ⟨rfl, rfl, hreply⟩
    | some target =>
      obtain ⟨hservice, hreports, hreply⟩ := ih t { r with target }
      exact ⟨hservice, congrArg (reports ++ ·) hreports, hreply⟩

/-- Only the reply to a request shows its id. -/
theorem serve_sent :
    (s.serve r.sent).1 = (s.serve r).1 ∧ (s.serve r.sent).2.1 = (s.serve r).2.1 ∧
      (s.serve r.sent).2.2.withoutId = (s.serve r).2.2.withoutId :=
  s.serveWithin_sent r r.target.length

/-- Taking a step does not depend on the id of a request. -/
theorem take_sent (step : Step) :
    (s.take step.sent).1 = (s.take step).1 ∧ (s.take step.sent).2.1 = (s.take step).2.1 ∧
      (s.take step.sent).2.2.withoutId = (s.take step).2.2.withoutId := by
  cases step with
  | request r =>
    obtain ⟨hservice, hreports, hreply⟩ := s.serve_sent r
    refine ⟨hservice, hreports, ?_⟩
    show StepResult.reply (s.serve r.sent).2.2.withoutId = .reply (s.serve r).2.2.withoutId
    rw [hreply]
  | _ => exact ⟨rfl, rfl, rfl⟩

/-- A run does not depend on the ids of the requests. -/
theorem run_sent (steps : List Step) :
    (s.run (steps.map Step.sent)).1 = (s.run steps).1 ∧
      (s.run (steps.map Step.sent)).2.map (fun e => (e.1, e.2.withoutId)) =
        (s.run steps).2.map fun e => (e.1, e.2.withoutId) := by
  induction steps generalizing s with
  | nil => exact ⟨rfl, rfl⟩
  | cons step rest ih =>
    obtain ⟨hservice, hreports, hresult⟩ := s.take_sent step
    obtain ⟨hrest, hresults⟩ := ih (s.take step).1
    rw [List.map_cons, run_cons, run_cons, hservice, List.map_cons, List.map_cons, hreports, hresult,
      hresults]
    exact ⟨hrest, rfl⟩

end Service

end FormRouting
