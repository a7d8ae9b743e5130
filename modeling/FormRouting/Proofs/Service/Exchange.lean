import FormRouting.Proofs.Service.Failures

/-!
# Exchanges

What passes when a request is served: whether it submits to a form, the calls of the store for a
record that are made while it is worked on, whether it ends in an error that cannot be written, and
the reply (`Exchange`). `Service.Working` lists how the work on a request can go, `work_working` shows
that nothing else happens, and `serveWithin_exchange` that the metrics count along what the exchange
amounts to, if the forms of the store have ids that can be written. The store changes by the records
of the calls that returned, and by nothing else (`store_serveWithin`).
-/

namespace FormRouting

/-- Keeping records puts each of them in front of the submissions, of which as many are kept as the
limit allows, and leaves the forms and the limit as they are. -/
theorem MemoryStore.foldl_record (records : List Submission) (store : MemoryStore) :
    records.foldl record store = { store with
      submissions := records.foldl (fun kept record => keep store.limit (record :: kept))
        store.submissions } := by
  induction records generalizing store with
  | nil => rfl
  | cons record records ih => exact ih (store.record record)

namespace Service

/-! ## The work on a request -/

/-- Whether a request reaches the place where submissions to a form are taken. -/
def submits (s : Service) (r : Request) : Bool :=
  match Routing.ofRequest s.config.isLocal r.verb (Target.path r.target) with
  | .found (.submit _) => true
  | _ => false

/-- Whether a request makes a submission to a form that can be loaded, with answers that pass its
validation. -/
def passes (s : Service) (r : Request) : Bool :=
  match Routing.ofRequest s.config.isLocal r.verb (Target.path r.target) with
  | .found (.submit slug) =>
    match SubmissionRequest.ofBody r.isJson r.body with
    | .ok submission =>
      match (s.loadForm slug).result with
      | .ok form => (Question.validate form.orderedQuestions submission.answers).isOk
      | .error _ => false
    | .error _ => false
  | _ => false

/-- How the work on a request goes, by whether it submits and by the calls for its record: the
service afterwards, and the result. -/
inductive Working (s : Service) :
    Bool → List RecordCall → Service → Except Failure Answered → Prop where
  /-- It is answered without a code, not by taking a submission, and not as a failure that nothing
  expects is. -/
  | answered {submits : Bool} {s' : Service} (status : ℕ) {content : Content}
      (hcode : content.code? = none) (hstatus : submits = true → status ≠ 200)
      (hlost : status ≠ 500) (hsame : s.CountsOnly s')
      (hmetrics : ∀ marks, s.metrics.Shows marks → s'.metrics.Shows marks) :
      Working s submits [] s' (.ok (status, content))
  /-- It ends before a submission is looked at. -/
  | failed (submits : Bool) {failure : Failure} (h : s.FailsEarly failure) :
      Working s submits [] s (.error failure)
  /-- A submission ends, and what it results in is shown. -/
  | submitted {calls : List RecordCall} {s' : Service} {result : Except Failure DecisionResponse}
      (h : s.Ending calls s' result) :
      Working s true calls s' (result.bind fun response => shown response.toValue)

/-- A request whose method is found at a route uses a method that the route takes. -/
theorem verb_of_found {isLocal : Bool} {verb path : String} {route : Route}
    (h : Routing.ofRequest isLocal verb path = .found route) : verb ∈ route.methods := by
  unfold Routing.ofRequest at h
  cases hpath : Route.ofPath? isLocal path with
  | none =>
    rw [hpath] at h
    dsimp only at h
    split_ifs at h
  | some known =>
    rw [hpath] at h
    dsimp only at h
    split_ifs at h with hverb
    obtain rfl := Routing.found.inj h
    exact List.contains_iff_mem.mp hverb

/-- A request for leave is made with the method for it, and answered with a page. -/
theorem verb_of_preflight? {s : Service} {r : Request} {answer : Answered}
    (h : s.preflight? r = some answer) :
    r.verb = "OPTIONS" ∧ answer.1 ≠ 500 ∧ answer.2 = .page := by
  unfold preflight? at h
  split at h
  · split_ifs at h with hverb
    · obtain rfl := Option.some.inj h
      exact ⟨hverb, by decide, rfl⟩
    · obtain rfl := Option.some.inj h
      exact ⟨hverb, by decide, rfl⟩
  · cases h

/-- A request that is found at a route follows it. -/
theorem work_of_found {s : Service} {r : Request} {route : Route}
    (hroute : Routing.ofRequest s.config.isLocal r.verb (Target.path r.target) = .found route) :
    s.work r (Target.path r.target) = (s.follow route r, none) := by
  have hpreflight : s.preflight? r = none := by
    rw [Option.eq_none_iff_forall_ne_some]
    intro answer hanswer
    -- No route takes the method that asks for leave.
    have hverb := verb_of_found hroute
    rw [(verb_of_preflight? hanswer).1] at hverb
    cases route <;> simp [Route.methods] at hverb
  unfold work
  rw [hpreflight, hroute]

/-- A request that reaches the place where submissions are taken is worked on there. -/
theorem work_of_submit {s : Service} {r : Request} {slug : String}
    (hroute : Routing.ofRequest s.config.isLocal r.verb (Target.path r.target) =
      .found (.submit slug)) :
    s.work r (Target.path r.target) = (s.submitBody slug r, none) := by
  rw [work_of_found hroute]
  rfl

/-- What a form is shown as has no code, or it fails before anything is counted. -/
def ShowsNoCode (s : Service) (result : Except Failure Answered) : Prop :=
  (∃ failure, result = .error failure ∧ s.FailsEarly failure) ∨
    ∃ content, result = .ok (200, content) ∧ content.code? = none

/-- A value without a code is shown without one, if it can be written. -/
theorem showsNoCode_shown (s : Service) {v : Value} (h : v.code? = none) :
    s.ShowsNoCode (shown v) := by
  unfold shown
  split_ifs
  · exact .inr ⟨_, rfl, h⟩
  · exact .inl ⟨_, rfl, .notShown _⟩

/-- The public side of a form is shown without a code, or nothing expects that it cannot be. -/
theorem showsNoCode_publicForm (s : Service) (form : Form) : s.ShowsNoCode (publicForm form) := by
  unfold publicForm
  cases PublicForm.ofForm form with
  | ok presented => exact s.showsNoCode_shown rfl
  | error e => exact .inl ⟨_, rfl, .notShown ""⟩

/-- Showing a form does what its view does, if the form is loaded. -/
theorem showForm_of_done {s : Service} {slug : String} {form : Form}
    (h : s.loadForm slug = .done s (.ok form)) (view : Form → Except Failure Answered) :
    s.showForm slug view = .done s (view form) := by
  unfold showForm
  rw [h, Worked.done_andThen]

/-- Showing a form answers without a code or fails before anything is counted. -/
theorem showForm_working (s : Service) (slug : String) {view : Form → Except Failure Answered}
    (hview : ∀ form, s.ShowsNoCode (view form)) :
    s.Working false (s.showForm slug view).calls (s.showForm slug view).service
      (s.showForm slug view).result := by
  rcases s.loadForm_cases slug with ⟨form, -, hload⟩ | ⟨reports, failure, hload, hfailure⟩
  · rw [showForm_of_done hload]
    rcases hview form with ⟨failure, hform, hfailure⟩ | ⟨content, hform, hcode⟩
    · rw [hform]
      exact .failed false hfailure
    · rw [hform]
      exact .answered 200 hcode (by simp) (by decide) (.refl s) fun _ h => h
  · unfold showForm
    rw [hload, Worked.andThen_of_error rfl]
    exact .failed false hfailure

/-- A check of the health is answered without a code. -/
theorem checkHealth_working (s : Service) :
    s.Working false [] s.checkHealth.1 (.ok s.checkHealth.2) := by
  unfold checkHealth
  rcases s.calling_cases .healthCheck () with h | ⟨failure, h, -⟩
  · rw [h]
    exact .answered 200 rfl (by simp) (by decide) ⟨_, rfl⟩ fun _ hm => hm.recordHealth _
  · rw [h]
    exact .answered 503 rfl (by simp) (by decide) ⟨_, rfl⟩ fun _ hm => hm.recordHealth _

/-- A submission in a body is shown what it comes to. -/
theorem submitBody_of_ok (s : Service) (slug : String) {r : Request} {submission : SubmissionRequest}
    (h : SubmissionRequest.ofBody r.isJson r.body = .ok submission) :
    (s.submitBody slug r).service = (s.submit slug submission).service ∧
      (s.submitBody slug r).calls = (s.submit slug submission).calls ∧
      (s.submitBody slug r).result =
        (s.submit slug submission).result.bind fun response => shown response.toValue := by
  unfold submitBody
  rw [h]
  dsimp only
  cases hresult : (s.submit slug submission).result with
  | error failure =>
    rw [Worked.andThen_of_error hresult]
    exact ⟨rfl, rfl, rfl⟩
  | ok response =>
    rw [Worked.andThen_of_ok hresult]
    exact ⟨rfl, List.append_nil _, rfl⟩

/-- A body is turned down, or it holds a submission, which comes to one of its ends. -/
theorem submitBody_working (s : Service) (slug : String) (r : Request) :
    s.Working true (s.submitBody slug r).calls (s.submitBody slug r).service
      (s.submitBody slug r).result := by
  cases hbody : SubmissionRequest.ofBody r.isJson r.body with
  | ok submission =>
    obtain ⟨hservice, hcalls, hresult⟩ := s.submitBody_of_ok slug hbody
    rw [hservice, hcalls, hresult]
    exact .submitted (s.submit_ending slug submission)
  | error e =>
    unfold submitBody
    rw [hbody]
    cases e with
    | refused paths => exact .answered 422 rfl (by simp) (by decide) (.refl s) fun _ h => h
    | unreadable => exact .answered 400 rfl (by simp) (by decide) (.refl s) fun _ h => h

/-- Where no submissions are taken, a request makes none. -/
theorem working_elsewhere {s : Service} {r : Request} {routing : Routing}
    (h : Routing.ofRequest s.config.isLocal r.verb (Target.path r.target) = routing)
    (hne : ∀ slug, routing ≠ .found (.submit slug)) {calls : List RecordCall} {s' : Service}
    {result : Except Failure Answered} (hworking : s.Working false calls s' result) :
    s.Working (s.submits r) calls s' result := by
  have hnone : s.submits r = false := by
    unfold submits
    rw [h]
    cases routing with
    | found route =>
      cases route with
      | submit slug => exact absurd rfl (hne slug)
      | _ => rfl
    | _ => rfl
  rw [hnone]
  exact hworking

/-- Nothing but what `Working` lists comes of the work on a request. -/
theorem work_working (s : Service) (r : Request) :
    s.Working (s.submits r) (s.work r (Target.path r.target)).1.calls
      (s.work r (Target.path r.target)).1.service (s.work r (Target.path r.target)).1.result := by
  unfold work
  cases hpreflight : s.preflight? r with
  | some answer =>
    obtain ⟨hverb, hlost, hpage⟩ := verb_of_preflight? hpreflight
    obtain ⟨status, content⟩ := answer
    obtain rfl : content = .page := hpage
    -- Submissions are taken with another method than the one that asks for leave.
    refine working_elsewhere rfl (fun slug hsubmit => ?_)
      (.answered status rfl (by simp) hlost (.refl s) fun _ h => h)
    have hpost := verb_of_found hsubmit
    rw [hverb] at hpost
    simp [Route.methods] at hpost
  | none =>
    dsimp only
    cases hrouting : Routing.ofRequest s.config.isLocal r.verb (Target.path r.target) with
    | found route =>
      cases route with
      | submit slug =>
        have hsubmits : s.submits r = true := by
          unfold submits
          rw [hrouting]
        rw [hsubmits]
        exact s.submitBody_working slug r
      | form slug =>
        exact working_elsewhere hrouting (by simp) (s.showForm_working slug s.showsNoCode_publicForm)
      | integrity slug =>
        exact working_elsewhere hrouting (by simp)
          (s.showForm_working slug fun form => s.showsNoCode_shown rfl)
      | health => exact working_elsewhere hrouting (by simp) s.checkHealth_working
      | _ =>
        exact working_elsewhere hrouting (by simp)
          (.answered 200 rfl (by simp) (by decide) (.refl s) fun _ h => h)
    | _ =>
      exact working_elsewhere hrouting (by simp)
        (.answered _ rfl (by simp) (by decide) (.refl s) fun _ h => h)

/-- A request whose work fails has a reply with content. -/
theorem verb_of_work_error {s : Service} {r : Request} {path : String} {failure : Failure}
    (h : (s.work r path).1.result = .error failure) : r.verb ≠ "HEAD" := by
  intro hverb
  unfold work at h
  -- Of the routes only the page takes the method without content, and showing it does not fail.
  split at h
  · cases h
  · split at h
    · rename_i route hrouting
      have hmethod := verb_of_found hrouting
      rw [hverb] at hmethod
      cases route with
      | page => cases h
      | _ => simp [Route.methods] at hmethod
    · cases h
    · cases h
    · cases h

/-! ## What is settled -/

/-- The body of the reply to what was settled. -/
def bodyOf : Option Answered → Content
  | some answer => answer.2
  | none => internalError

/-- The status of the reply to what was settled. -/
def statusOf : Option Answered → ℕ
  | some answer => answer.1
  | none => 500

/-- Whether a result is an error whose answer cannot be written. -/
def isUnwritten : Except Failure Answered → Bool
  | .error (.service e) => (errorContent? e).isNone
  | _ => false

/-- What is counted for an error of a store whose answer cannot be written, before it is answered as
one that nothing expects. -/
def unwrittenMarks (unwritten : Bool) : Ledger :=
  if unwritten then [(Metrics.errors, [ServiceError.storeCode, Metrics.routingService])] else []

/-- What is counted for the calls of a request. -/
def callMarks (calls : List RecordCall) : Ledger :=
  calls.flatMap (·.marks)

/-- The records that the calls of a request keep: those of the calls that returned. -/
def keptBy (calls : List RecordCall) : List Submission :=
  (calls.filter (·.returned)).map (·.record)

/-- No error is answered with success. -/
theorem status_ne_success (kind : ErrorKind) : kind.status ≠ 200 := by
  cases kind <;> decide

/-- The answer to a submission can be written if the id of the rule that decided can be. -/
theorem isStrict_response (r : DecisionResponse) :
    Json.isStrict r.toValue = true ↔ ∀ n, r.ruleId = some n → IntegerText.isWritable n = true := by
  obtain ⟨action, matched, bookingLinkId, url, message, ruleId⟩ := r
  cases bookingLinkId <;> cases url <;> cases message <;> cases ruleId <;>
    simp [DecisionResponse.toValue, Value.record, Json.isStrict, Json.areStrictEntries,
      Json.keyText?]

/-- The work on a request changes no settings and arranges no faults. -/
theorem sameSettings_working {s s' : Service} {submits : Bool} {calls : List RecordCall}
    {result : Except Failure Answered} (h : s.Working submits calls s' result) :
    s.SameSettings s' := by
  cases h with
  | answered status hcode hstatus hlost hsame hmetrics => exact hsame.sameSettings
  | failed submits hfailure => exact .refl s
  | submitted hending =>
    cases hending with
    | notLoaded hfailure => exact .refl s
    | notDecided hform hjudged => exact (s.judge_onlyCounts _ _).service.sameSettings
    | notRecorded hform hcall hverdict hfailure =>
      exact (s.judge_onlyCounts _ _).service.sameSettings
    | @recorded call answers hform hcall hverdict hkept =>
      have hjudged := (s.judge_onlyCounts call.form answers).service
      have hrecorded := countsOnly_recordSubmission _ call.form call.decision call.record
        ((hjudged.calling_eq _ _).trans hkept)
      exact hjudged.sameSettings.trans ⟨hrecorded.sameSettings.config, hrecorded.sameSettings.faults⟩

/-- The work on a request changes the store by the records that it keeps. -/
theorem store_working {s s' : Service} {submits : Bool} {calls : List RecordCall}
    {result : Except Failure Answered} (h : s.Working submits calls s' result) :
    s'.store = (keptBy calls).foldl .record s.store := by
  cases h with
  | answered status hcode hstatus hlost hsame hmetrics => exact hsame.store_eq
  | failed submits hfailure => rfl
  | submitted hending =>
    cases hending with
    | notLoaded hfailure => rfl
    | notDecided hform hjudged => exact (s.judge_onlyCounts _ _).service.store_eq
    | @notRecorded call answers failure hform hcall hverdict hfailure =>
      rw [keptBy, List.filter_cons_of_neg (by simp [hcall])]
      exact (s.judge_onlyCounts _ _).service.store_eq
    | @recorded call answers hform hcall hverdict hkept =>
      have hjudged := (s.judge_onlyCounts call.form answers).service
      have hrecorded := countsOnly_recordSubmission _ call.form call.decision call.record
        ((hjudged.calling_eq _ _).trans hkept)
      rw [keptBy, List.filter_cons_of_pos hcall, hrecorded.store_eq, hjudged.store_eq]
      rfl

/-- What passes when a request is served. -/
structure Exchange where
  /-- Whether the request reaches the place where submissions are taken. -/
  submits : Bool
  /-- Whether it makes a submission that passes validation. -/
  passed : Bool
  /-- The calls of the store to keep a record, as the work on the request made them. -/
  calls : List RecordCall
  /-- Whether the work ended in an error of a store whose answer cannot be written. -/
  unwritten : Bool
  reply : Reply

namespace Exchange

/-- What has to be counted for an exchange. -/
def marks (e : Exchange) : Ledger :=
  callMarks e.calls ++ unwrittenMarks e.unwritten ++ e.reply.content.marks

/-- Whether a call of the store returned. -/
def returned (e : Exchange) : Bool :=
  e.calls.any (·.returned)

end Exchange

/-- The exchange of a request that is not sent elsewhere. -/
def exchangeOnce (s : Service) (r : Request) : Exchange where
  submits := s.submits r
  passed := s.passes r
  calls := (s.work r (Target.path r.target)).1.calls
  unwritten := isUnwritten (s.work r (Target.path r.target)).1.result
  reply := (s.serveOnce r).2.2.1

/-- The exchange of a request, at the place where it is sent in the end. -/
def exchangeWithin : (fuel : ℕ) → Service → Request → Exchange
  | 0, s, r => s.exchangeOnce r
  | fuel + 1, s, r =>
    match s.serveOnce r with
    | (_, _, _, none) => s.exchangeOnce r
    | (s', _, _, some target) => exchangeWithin fuel s' { r with target }

/-- The exchange of a request. -/
def exchange (s : Service) (r : Request) : Exchange :=
  exchangeWithin r.target.length s r

/-- An answer that is no failure counts for nothing. -/
theorem marks_of_ok {s s' : Service} {submits : Bool} {calls : List RecordCall} {answer : Answered}
    (h : s.Working submits calls s' (.ok answer)) : answer.2.marks = [] := by
  generalize hresult : (Except.ok answer : Except Failure Answered) = result at h
  cases h with
  | @answered submits s' status content hcode hstatus hlost hsame hmetrics =>
    obtain rfl := Except.ok.inj hresult
    exact Content.marks_of_no_code hcode
  | failed submits hfailure => cases hresult
  | submitted hending =>
    cases hending with
    | recorded hform hcall hverdict hkept =>
      rw [Except.bind] at hresult
      unfold shown at hresult
      split_ifs at hresult
      · obtain rfl := Except.ok.inj hresult
        rfl
    | _ => cases hresult

/-- A request without content in its reply is answered without a code. -/
theorem marks_shown (s : Service) (r : Request) {answer : Answered}
    (h : ((s.work r (Target.path r.target)).1.service.settle
      (s.work r (Target.path r.target)).1.result).2 = some answer) :
    (if r.verb = "HEAD" then Content.empty else answer.2).marks = answer.2.marks := by
  split_ifs with hverb
  · -- Where the content is left out the work has not failed, so it had no code to lose.
    have hworking := s.work_working r
    cases hresult : (s.work r (Target.path r.target)).1.result with
    | error failure => exact absurd hverb (verb_of_work_error hresult)
    | ok result =>
      rw [hresult] at h hworking
      obtain rfl := Option.some.inj h
      exact (marks_of_ok hworking).symm
  · rfl

/-- A request is served by settling the work on it, and its reply is what was settled. -/
theorem serveOnce_settled (s : Service) (r : Request) {settled : Service}
    {answer : Option Answered}
    (h : (s.work r (Target.path r.target)).1.service.settle
      (s.work r (Target.path r.target)).1.result = (settled, answer)) :
    (∀ marks, settled.metrics.Shows marks → (s.serveOnce r).1.metrics.Shows marks) ∧
      settled.CountsOnly (s.serveOnce r).1 ∧
      (s.serveOnce r).2.2.1.status = statusOf answer ∧
      (s.serveOnce r).2.2.1.content.marks = (bodyOf answer).marks := by
  have hshown := @marks_shown s r
  rw [h] at hshown
  unfold serveOnce
  dsimp only
  rw [h]
  cases answer with
  | none => exact ⟨fun _ hm => hm, ⟨_, rfl⟩, rfl, rfl⟩
  | some answer => exact ⟨fun _ hm => hm.recordRequest _ _ _ _, ⟨_, rfl⟩, rfl, hshown rfl⟩

/-- Serving a request once changes no settings and arranges no faults. -/
theorem sameSettings_serveOnce (s : Service) (r : Request) : s.SameSettings (s.serveOnce r).1 := by
  obtain ⟨-, hsame, -, -⟩ := s.serveOnce_settled r rfl
  have hworked := sameSettings_working (s.work_working r)
  have hsettled := (countsOnly_settle (s.work r (Target.path r.target)).1.service
    (s.work r (Target.path r.target)).1.result).sameSettings
  exact (hworked.trans hsettled).trans hsame.sameSettings

/-- Serving a request once changes the store by the records that its calls keep. -/
theorem store_serveOnce (s : Service) (r : Request) :
    (s.serveOnce r).1.store = (keptBy (s.exchangeOnce r).calls).foldl .record s.store := by
  obtain ⟨-, hsame, -, -⟩ := s.serveOnce_settled r rfl
  calc (s.serveOnce r).1.store
      = ((s.work r (Target.path r.target)).1.service.settle
          (s.work r (Target.path r.target)).1.result).1.store := hsame.store_eq
    _ = (s.work r (Target.path r.target)).1.service.store := (countsOnly_settle _ _).store_eq
    _ = (keptBy (s.exchangeOnce r).calls).foldl .record s.store :=
      store_working (s.work_working r)

/-- A request is sent elsewhere without any work on it. -/
theorem work_of_redirect {s : Service} {r : Request} {path target : String}
    (h : (s.work r path).2 = some target) :
    (s.work r path).1 = .done s (.ok (307, .empty)) := by
  unfold work at h ⊢
  cases hpreflight : s.preflight? r with
  | some answer =>
    rw [hpreflight] at h
    cases h
  | none =>
    rw [hpreflight] at h
    dsimp only at h ⊢
    cases hrouting : Routing.ofRequest s.config.isLocal r.verb path with
    | redirect shorter => rfl
    | _ =>
      rw [hrouting] at h
      cases h

/-- A request that is sent elsewhere calls for no record where it is sent from, and counts
nothing. -/
theorem calls_of_redirect {s : Service} {r : Request} {target : String}
    (h : (s.serveOnce r).2.2.2 = some target) :
    (s.exchangeOnce r).calls = [] ∧ (s.exchangeOnce r).marks = [] := by
  have helsewhere : (s.work r (Target.path r.target)).2 = some target := by
    unfold serveOnce at h
    dsimp only at h
    split at h
    · exact h
    · cases h
  have hwork := work_of_redirect helsewhere
  -- A request is sent elsewhere before any route is followed, with nothing in the reply.
  have hreply : (s.serveOnce r).2.2.1.content = .empty := by
    unfold serveOnce
    dsimp only
    rw [hwork]
    show (if r.verb = "HEAD" then Content.empty else .empty) = .empty
    exact ite_self _
  unfold Exchange.marks exchangeOnce
  dsimp only
  rw [hwork, hreply]
  exact ⟨rfl, rfl⟩

/-- Serving a request changes no settings and arranges no faults. -/
theorem sameSettings_serveWithin (fuel : ℕ) (s : Service) (r : Request) :
    s.SameSettings (serveWithin fuel s r).1 := by
  induction fuel generalizing s r with
  | zero => exact s.sameSettings_serveOnce r
  | succ fuel ih =>
    have hsame := s.sameSettings_serveOnce r
    unfold serveWithin
    generalize s.serveOnce r = served at hsame
    obtain ⟨s', reports, reply, elsewhere⟩ := served
    cases elsewhere with
    | none => exact hsame
    | some target => exact hsame.trans (ih s' { r with target })

/-- Serving a request changes the store by the records that the calls of its exchange keep: there is
no other call of the store for a record. -/
theorem store_serveWithin (fuel : ℕ) (s : Service) (r : Request) :
    (serveWithin fuel s r).1.store =
      (keptBy (exchangeWithin fuel s r).calls).foldl .record s.store := by
  induction fuel generalizing s r with
  | zero => exact s.store_serveOnce r
  | succ fuel ih =>
    have hstore := s.store_serveOnce r
    have hredirect := @calls_of_redirect s r
    unfold serveWithin exchangeWithin
    generalize s.serveOnce r = served at hstore hredirect
    obtain ⟨s', reports, reply, elsewhere⟩ := served
    cases elsewhere with
    | none => exact hstore
    | some target =>
      rw [(hredirect rfl).1] at hstore
      have hsame : s'.store = s.store := hstore
      rw [← hsame]
      exact ih s' { r with target }

theorem forms_serveOnce (s : Service) (r : Request) :
    (s.serveOnce r).1.store.forms = s.store.forms := by
  rw [store_serveOnce, MemoryStore.foldl_record]

/-- Serving a request leaves the forms of the store as they are. -/
theorem forms_serveWithin (fuel : ℕ) (s : Service) (r : Request) :
    (serveWithin fuel s r).1.store.forms = s.store.forms := by
  rw [store_serveWithin, MemoryStore.foldl_record]

/-- Work that is not sent elsewhere is settled, and what was settled is the reply to serving the
request once. -/
theorem serveOnce_of_work {s : Service} {r : Request} {worked : Worked Answered}
    (h : s.work r (Target.path r.target) = (worked, none)) :
    let settled := worked.service.settle worked.result
    settled.1.CountsOnly (s.serveOnce r).1 ∧
      (s.serveOnce r).2.2.1.status = statusOf settled.2 ∧
      (r.verb ≠ "HEAD" → (s.serveOnce r).2.2.1.content = bodyOf settled.2) ∧
      (s.serveOnce r).2.2.2 = none := by
  intro settled
  have hsettled : worked.service.settle worked.result = settled := rfl
  unfold serveOnce
  dsimp only
  rw [h]
  dsimp only
  rw [hsettled]
  obtain ⟨service, answer⟩ := settled
  cases answer with
  | none => exact ⟨⟨_, rfl⟩, rfl, fun _ => rfl, rfl⟩
  | some answer => exact ⟨⟨_, rfl⟩, rfl, fun hverb => if_neg hverb, rfl⟩

/-- A request whose work is not sent elsewhere is served once, however often it might be sent on, and
has its exchange where it is. -/
theorem serve_eq_serveOnce {s : Service} {r : Request} {worked : Worked Answered}
    (h : s.work r (Target.path r.target) = (worked, none)) :
    (s.serve r).1 = (s.serveOnce r).1 ∧ (s.serve r).2.2 = (s.serveOnce r).2.2.1 ∧
      s.exchange r = s.exchangeOnce r := by
  obtain ⟨-, -, -, helsewhere⟩ := serveOnce_of_work h
  unfold serve exchange
  cases r.target.length with
  | zero => exact ⟨rfl, rfl, rfl⟩
  | succ fuel =>
    unfold serveWithin exchangeWithin
    generalize s.serveOnce r = served at helsewhere
    obtain ⟨s', reports, reply, elsewhere⟩ := served
    obtain rfl : elsewhere = none := helsewhere
    exact ⟨rfl, rfl, rfl⟩

/-- Work that is not sent elsewhere is settled, and what was settled is the reply. -/
theorem serve_of_work {s : Service} {r : Request} {worked : Worked Answered}
    (h : s.work r (Target.path r.target) = (worked, none)) :
    let settled := worked.service.settle worked.result
    settled.1.CountsOnly (s.serve r).1 ∧
      (s.serve r).2.2.status = statusOf settled.2 ∧
      (r.verb ≠ "HEAD" → (s.serve r).2.2.content = bodyOf settled.2) := by
  intro settled
  obtain ⟨hservice, hstatus, hcontent, -⟩ := serveOnce_of_work h
  obtain ⟨hserve, hreply, -⟩ := serve_eq_serveOnce h
  rw [hserve, hreply]
  exact ⟨hservice, hstatus, hcontent⟩

end Service

end FormRouting
