import FormRouting.Proofs.Metrics.Total
import FormRouting.Proofs.Service.Hops

/-!
# What requests add to the tally

What the service counts for a request, as the marks that it adds to the tally of everything that is
counted. Each part of the work has its marks (`submitMarks`, `followMarks`, `settleMarks`), which are
said without the metrics, and `adds_serveOnce` puts them together for a request that is served once.
The metrics of any run therefore tell a tally (`exists_tally`), whatever faults came and went in it, and
of the marks in it one is for each hop that is not lost (`exists_adds_run`).
-/

namespace FormRouting

namespace Service

open Ledger (everyAccount covers_everyAccount)

/-! ## Handling -/

/-- What is counted when a submission is handled: what judging its answers counts and, if they lead to
a verdict and the store keeps the record, the event. -/
def submitMarks (s : Service) (slug : String) (request : SubmissionRequest) : Ledger :=
  match (s.loadForm slug).result with
  | .error _ => []
  | .ok form =>
    judgeMarks s.config form request.answers ++
      if (judgement s.config form request.answers).isOk && (s.calling .recordSubmission ()).isOk
      then [(Metrics.businessEvents, [recordedEvent, Metrics.routingService])]
      else []

theorem adds_submit (s : Service) (slug : String) (request : SubmissionRequest) :
    s.metrics.Adds (s.submit slug request).service.metrics everyAccount
      (s.submitMarks slug request) := by
  unfold submitMarks
  rcases s.loadForm_cases slug with ⟨form, -, hload⟩ | ⟨reports, failure, hload, -⟩
  · rw [submit_of_done s hload, hload]
    have hcounted := s.judge_onlyCounts form request.answers
    have hjudge := hcounted.adds covers_everyAccount
    show s.metrics.Adds _ _ (judgeMarks s.config form request.answers ++ _)
    cases hjudged : judgement s.config form request.answers with
    | error failure =>
      rw [(s.submitTo_of_error hjudged).1]
      exact hjudge.trans (.refl _ _)
    | ok verdict =>
      have hcalling := hcounted.service.calling_eq .recordSubmission ()
      rw [(s.submitTo_of_ok hjudged).1]
      cases hcall : s.calling .recordSubmission () with
      | error failure =>
        rw [service_recordSubmission_of_error _ _ _ _ (hcalling.trans hcall)]
        exact hjudge.trans (.refl _ _)
      | ok done =>
        exact hjudge.trans
          (adds_recordSubmission _ _ _ _ covers_everyAccount (hcalling.trans hcall))
  · unfold submit
    rw [hload, Worked.andThen_of_error rfl]
    exact .refl _ _

/-! ## Requests -/

/-- What is counted for a check of the health. -/
def healthMarks (s : Service) : Ledger :=
  match s.calling .healthCheck () with
  | .ok () => [(Metrics.healthChecks, ["ok"])]
  | .error _ => [(Metrics.healthChecks, ["error"])]

/-- What is counted while a route is followed. -/
def followMarks (s : Service) (route : Route) (r : Request) : Ledger :=
  match route with
  | .health => s.healthMarks
  | .submit slug =>
    match SubmissionRequest.ofBody r.isJson r.body with
    | .ok submission => s.submitMarks slug submission
    | .error _ => []
  | _ => []

/-- What is counted when work is settled: the failure that it ended in, and one more if the answer to
this cannot be written. -/
def settleMarks : Except Failure Answered → Ledger
  | .ok _ => []
  | .error (.unforeseen _) => [(Metrics.errors, [internalCode, Metrics.routingService])]
  | .error (.service e) =>
    Ledger.ofError e.code ++
      if (errorContent? e).isSome then []
      else [(Metrics.errors, [internalCode, Metrics.routingService])]

/-- What is counted when a request is answered. -/
def answerMarks (r : Request) : Option Answered → Ledger
  | some (status, _) =>
    Ledger.requestMarks r.verb (Target.countedPath (Target.path r.target)) (toString status)
  | none => []

theorem adds_checkHealth (s : Service) :
    s.metrics.Adds s.checkHealth.1.metrics everyAccount s.healthMarks := by
  unfold checkHealth healthMarks
  cases s.calling .healthCheck () with
  | ok done => exact Metrics.adds_recordHealth _ _
  | error failure => exact Metrics.adds_recordHealth _ _

/-- Showing a form counts nothing. -/
theorem service_showForm (s : Service) (slug : String) (view : Form → Except Failure Answered) :
    (s.showForm slug view).service = s := by
  rcases s.loadForm_cases slug with ⟨form, -, hload⟩ | ⟨reports, failure, hload, -⟩
  · rw [showForm_of_done hload]
    rfl
  · unfold showForm
    rw [hload, Worked.andThen_of_error rfl]

theorem adds_follow (s : Service) (route : Route) (r : Request) :
    s.metrics.Adds (s.follow route r).service.metrics everyAccount (s.followMarks route r) := by
  unfold follow followMarks
  cases route with
  | health => exact s.adds_checkHealth
  | submit slug =>
    dsimp only
    cases hbody : SubmissionRequest.ofBody r.isJson r.body with
    | ok submission =>
      rw [(s.submitBody_of_ok slug hbody).1]
      exact s.adds_submit slug submission
    | error e =>
      unfold submitBody
      rw [hbody]
      cases e <;> exact .refl _ _
  | form slug =>
    dsimp only
    rw [service_showForm]
    exact .refl _ _
  | integrity slug =>
    dsimp only
    rw [service_showForm]
    exact .refl _ _
  | _ => exact .refl _ _

theorem adds_settle (s : Service) (result : Except Failure Answered) :
    s.metrics.Adds (s.settle result).1.metrics everyAccount (settleMarks result) := by
  unfold settle settleMarks
  cases result with
  | ok answer => exact .refl _ _
  | error failure =>
    cases failure with
    | unforeseen message => exact Metrics.adds_recordError covers_everyAccount _ (.text internalCode)
    | service e =>
      dsimp only
      cases errorContent? e with
      | some content =>
        exact (Metrics.adds_recordError covers_everyAccount _ e.code).trans (.refl _ _)
      | none =>
        exact (Metrics.adds_recordError covers_everyAccount _ e.code).trans
          (Metrics.adds_recordError covers_everyAccount _ (.text internalCode))

/-- What is counted for a request that is found at a route. -/
def routeMarks (s : Service) (route : Route) (r : Request) : Ledger :=
  let followed := s.follow route r
  s.followMarks route r ++ settleMarks followed.result ++
    answerMarks r (followed.service.settle followed.result).2

/-- Settling work and answering it adds what each of them adds. -/
theorem adds_serveOnce {s : Service} {r : Request} {marks : Ledger}
    (h : s.metrics.Adds (s.work r (Target.path r.target)).1.service.metrics everyAccount marks) :
    s.metrics.Adds (s.serveOnce r).1.metrics everyAccount
      (marks ++ settleMarks (s.work r (Target.path r.target)).1.result ++
        answerMarks r ((s.work r (Target.path r.target)).1.service.settle
          (s.work r (Target.path r.target)).1.result).2) := by
  have hsettled := h.trans (adds_settle _ (s.work r (Target.path r.target)).1.result)
  unfold serveOnce
  dsimp only
  generalize (s.work r (Target.path r.target)).1.service.settle
    (s.work r (Target.path r.target)).1.result = settled at hsettled ⊢
  obtain ⟨settled, answer⟩ := settled
  cases answer with
  | none =>
    unfold answerMarks
    rw [List.append_nil]
    exact hsettled
  | some answer => exact hsettled.trans (Metrics.adds_recordRequest _ _ _ _)

/-- A request that is found at a route adds the marks of following it. -/
theorem adds_serve_of_found {s : Service} {r : Request} {route : Route}
    (hroute : Routing.ofRequest s.config.isLocal r.verb (Target.path r.target) = .found route) :
    s.metrics.Adds (s.serve r).1.metrics everyAccount (s.routeMarks route r) := by
  have hwork := work_of_found hroute
  have hfollow := s.adds_follow route r
  rw [(serve_eq_serveOnce hwork).1]
  have honce : s.metrics.Adds (s.work r (Target.path r.target)).1.service.metrics
      everyAccount (s.followMarks route r) := by
    rw [hwork]
    exact hfollow
  have hadds := adds_serveOnce honce
  rw [hwork] at hadds
  exact hadds

/-! ## Requests among the marks -/

/-- The metrics that judging answers counts by. -/
theorem names_judgeMarks (config : Config) (form : Form) (answers : List (Value × Value)) :
    ∀ mark ∈ judgeMarks config form answers,
      mark.1 ∈ [Metrics.evaluationDuration, Metrics.validationFailures, Metrics.unresolvableRules,
        Metrics.decisions] := by
  intro mark hmark
  unfold judgeMarks at hmark
  split at hmark
  · simp only [errorMarks, List.mem_append, List.mem_singleton, List.mem_map] at hmark
    rcases hmark with rfl | ⟨code, -, rfl⟩ <;> simp
  · split_ifs at hmark
    · simp only [decisionMarks, List.mem_append, List.mem_singleton, List.mem_replicate] at hmark
      rcases hmark with (rfl | ⟨-, rfl⟩) | rfl <;> simp
    · simp only [List.mem_append, List.mem_singleton, List.mem_replicate] at hmark
      rcases hmark with rfl | ⟨-, rfl⟩ <;> simp

/-- Handling a submission counts no request. -/
theorem keysOf_submitMarks (s : Service) (slug : String) (request : SubmissionRequest) :
    Ledger.keysOf Metrics.requests (s.submitMarks slug request) = [] := by
  refine Ledger.keysOf_eq_nil fun mark hmark => ?_
  unfold submitMarks at hmark
  split at hmark
  · cases hmark
  · rcases List.mem_append.mp hmark with hmark | hmark
    · have hname := names_judgeMarks _ _ _ mark hmark
      intro hrequest
      rw [hrequest] at hname
      simp +decide at hname
    · split_ifs at hmark
      · rw [List.mem_singleton.mp hmark]
        show Metrics.businessEvents ≠ Metrics.requests
        decide
      · cases hmark

/-- Following a route counts no request. -/
theorem keysOf_followMarks (s : Service) (route : Route) (r : Request) :
    Ledger.keysOf Metrics.requests (s.followMarks route r) = [] := by
  cases route with
  | health =>
    unfold followMarks healthMarks
    dsimp only
    cases s.calling .healthCheck () <;> rfl
  | submit slug =>
    unfold followMarks
    dsimp only
    cases SubmissionRequest.ofBody r.isJson r.body with
    | ok submission => exact s.keysOf_submitMarks slug submission
    | error e => rfl
  | _ => rfl

/-- Settling work counts no request. -/
theorem keysOf_settleMarks (result : Except Failure Answered) :
    Ledger.keysOf Metrics.requests (settleMarks result) = [] := by
  unfold settleMarks Ledger.ofError
  split
  · rfl
  · rfl
  · split_ifs <;> rfl

/-- Answering counts the request of the hop, unless the hop is lost. -/
theorem keysOf_answerMarks (s : Service) (r : Request) :
    Ledger.keysOf Metrics.requests (answerMarks r (s.hopAnswer r)) = Hop.keptLabels [s.hopOnce r] := by
  obtain ⟨hstatus, hlost, -⟩ := s.hopOnce_labelled r
  unfold Hop.keptLabels
  cases hanswer : s.hopAnswer r with
  | none =>
    rw [List.filter_cons_of_neg (by simpa using hlost.mpr hanswer)]
    rfl
  | some answer =>
    rw [hanswer] at hstatus
    have hkept : ¬(s.hopOnce r).Lost := by
      rw [hlost, hanswer]
      simp
    rw [List.filter_cons_of_pos (by simpa using hkept), List.map_cons, Hop.labels, hstatus]
    rfl

/-! ## Hops -/

/-- The work on any request adds some marks, and none for the request. -/
theorem exists_adds_work (s : Service) (r : Request) (path : String) :
    ∃ marks, s.metrics.Adds (s.work r path).1.service.metrics everyAccount marks ∧
      Ledger.keysOf Metrics.requests marks = [] := by
  unfold work
  cases s.preflight? r with
  | some answer => exact ⟨[], .refl _ _, rfl⟩
  | none =>
    dsimp only
    cases Routing.ofRequest s.config.isLocal r.verb path with
    | found route => exact ⟨_, s.adds_follow route r, s.keysOf_followMarks route r⟩
    | _ => exact ⟨[], .refl _ _, rfl⟩

/-- A request that is served once adds one mark for its hop, unless this is lost. -/
theorem exists_adds_serveOnce (s : Service) (r : Request) :
    ∃ marks, s.metrics.Adds (s.serveOnce r).1.metrics everyAccount marks ∧
      Ledger.keysOf Metrics.requests marks = Hop.keptLabels [s.hopOnce r] := by
  obtain ⟨marks, hwork, hnone⟩ := s.exists_adds_work r (Target.path r.target)
  refine ⟨_, adds_serveOnce hwork, ?_⟩
  rw [Ledger.keysOf_append, Ledger.keysOf_append, hnone, keysOf_settleMarks, List.nil_append,
    List.nil_append]
  exact s.keysOf_answerMarks r

/-- A request adds one mark for each of its hops that is not lost. -/
theorem exists_adds_serveWithin (fuel : ℕ) (s : Service) (r : Request) :
    ∃ marks, s.metrics.Adds (serveWithin fuel s r).1.metrics everyAccount marks ∧
      Ledger.keysOf Metrics.requests marks = Hop.keptLabels (hopsWithin fuel s r) := by
  induction fuel generalizing s r with
  | zero => exact s.exists_adds_serveOnce r
  | succ fuel ih =>
    obtain ⟨marks, honce, hkeys⟩ := s.exists_adds_serveOnce r
    unfold serveWithin hopsWithin
    generalize s.serveOnce r = served at honce
    obtain ⟨s', reports, reply, elsewhere⟩ := served
    cases elsewhere with
    | none => exact ⟨marks, honce, hkeys⟩
    | some target =>
      obtain ⟨later, hlater, hrest⟩ := ih s' { r with target }
      refine ⟨_, honce.trans hlater, ?_⟩
      rw [Ledger.keysOf_append, hkeys, hrest, ← Hop.keptLabels_append, List.singleton_append]

/-! ## Runs -/

/-- A step adds some marks, one for each of its hops that is not lost; only requests add any. -/
theorem exists_adds_take (s : Service) (step : Step) :
    ∃ marks, s.metrics.Adds (s.take step).1.metrics everyAccount marks ∧
      Ledger.keysOf Metrics.requests marks = Hop.keptLabels (s.stepHops step) := by
  have hquiet := s.take_of_not_request step
  cases step with
  | request r => exact exists_adds_serveWithin r.target.length s r
  | _ =>
    rw [(hquiet (by simp)).1]
    exact ⟨[], .refl _ _, rfl⟩

theorem exists_adds_run (s : Service) (steps : List Step) :
    ∃ marks, s.metrics.Adds (s.run steps).1.metrics everyAccount marks ∧
      Ledger.keysOf Metrics.requests marks = Hop.keptLabels (s.hops steps) := by
  induction steps generalizing s with
  | nil => exact ⟨[], .refl _ _, rfl⟩
  | cons step rest ih =>
    obtain ⟨marks, hstep, hkeys⟩ := s.exists_adds_take step
    obtain ⟨later, hrest, hlater⟩ := ih (s.take step).1
    refine ⟨_, hstep.trans hrest, ?_⟩
    rw [Ledger.keysOf_append, hkeys, hlater, ← Hop.keptLabels_append, hops]

/-- The metrics tell a tally after any run from a fresh start. -/
theorem exists_tally (config : Config) (store : MemoryStore) (steps : List Step) :
    ∃ marks, ((start config store).run steps).1.metrics.Tallies everyAccount marks := by
  obtain ⟨marks, hrun, -⟩ := (start config store).exists_adds_run steps
  exact ⟨_, hrun [] Metrics.tallies_start⟩

end Service

end FormRouting
