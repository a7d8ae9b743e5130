import FormRouting.Proofs.Service.RequestId

/-!
# Forms that are not published

A form that is not published is there for nobody who sends requests. Nothing that the service does
with a request looks further into the forms of its store than to the published one under a slug, so
it commutes with exchanging the forms for others that publish the same (`serve_withForms`). Services
whose forms differ only in unpublished ones therefore go through a run of requests and faults side
by side (`unpublished_forms_make_no_difference`): their replies and reports are the same, and so are
the submissions that they keep and what they count.
-/

namespace FormRouting

/-- Two lists of forms by slug publish the same: under each slug the same form, or none. -/
def PublishSame (forms forms' : List (String × Form)) : Prop :=
  ∀ slug, (forms.lookup slug).filter (·.isPublished) = (forms'.lookup slug).filter (·.isPublished)

/-- A store hides forms that another one lacks: the second one has the forms of the first, and more
under slugs under which the first one has none, of which no one is published. -/
structure MemoryStore.Hides (store store' : MemoryStore) : Prop where
  submissions : store'.submissions = store.submissions
  limit : store'.limit = store.limit
  forms : ∀ slug, store'.get? slug = store.get? slug ∨
    store.get? slug = none ∧ ∃ form, store'.get? slug = some form ∧ form.isPublished = false

/-- Hidden forms are not published. -/
theorem MemoryStore.Hides.publishSame {store store' : MemoryStore} (h : store.Hides store') :
    PublishSame store.forms store'.forms := by
  intro slug
  show (store.get? slug).filter _ = (store'.get? slug).filter _
  rcases h.forms slug with hsame | ⟨hnone, form, hsome, hhidden⟩
  · rw [hsame]
  · rw [hnone, hsome, Option.filter_none, Option.filter_some, hhidden]
    rfl

namespace Service

/-- The service with other forms in its store. -/
def withForms (s : Service) (forms : List (String × Form)) : Service :=
  { s with store := { s.store with forms } }

/-- What came of a piece of work, with other forms in the store. -/
def Worked.withForms {α : Type} (w : Worked α) (forms : List (String × Form)) : Worked α :=
  { w with service := w.service.withForms forms }

variable {s : Service} {forms : List (String × Form)}

/-! ## Handling -/

/-- A call of the store works or fails whatever the forms are. -/
theorem calling_withForms {α : Type} (s : Service) (forms : List (String × Form)) (call : StoreCall)
    (result : α) : (s.withForms forms).calling call result = s.calling call result :=
  rfl

/-- Loading finds the form that is published, so it finds the same among forms that publish the
same. -/
theorem loadForm_withForms (h : PublishSame s.store.forms forms) (slug : String) :
    (s.withForms forms).loadForm slug = (s.loadForm slug).withForms forms := by
  have hfound : ((s.withForms forms).store.get? slug).filter (·.isPublished) =
      (s.store.get? slug).filter (·.isPublished) := (h slug).symm
  unfold loadForm calling
  have hfaults : (s.withForms forms).faults = s.faults := rfl
  rw [hfaults]
  cases s.faults.lookup .getForm with
  | some failure => rfl
  | none =>
    dsimp only
    rw [hfound]
    cases (s.store.get? slug).filter (·.isPublished) with
    | some form => rfl
    | none => rfl

/-- Work is gone on with in the same way when each further piece of it comes to the same. -/
theorem andThen_withForms {α β : Type} (w : Worked α) (forms : List (String × Form))
    {next : Service → α → Worked β}
    (h : ∀ s a, next (s.withForms forms) a = (next s a).withForms forms) :
    (w.withForms forms).andThen next = (w.andThen next).withForms forms := by
  obtain ⟨service, reports, calls, result⟩ := w
  cases result with
  | error failure => rfl
  | ok a =>
    dsimp only [Worked.withForms, Worked.andThen]
    rw [h]
    rfl

/-- Answers are turned down in the same way. -/
theorem reject_withForms (s : Service) (forms : List (String × Form)) (form : Form)
    (errors : List AnswerError) :
    (s.withForms forms).reject form errors = (s.reject form errors).withForms forms :=
  andThen_withForms ((s.count (countErrors errors)).tell (rejectionReport form errors)
    form.id.isWritable) forms fun _ _ => rfl

theorem judge_withForms (s : Service) (forms : List (String × Form)) (form : Form)
    (answers : List (Value × Value)) :
    (s.withForms forms).judge form answers = (s.judge form answers).withForms forms := by
  have hdangling : ∀ dangling, ((s.withForms forms).count countEvaluation).noteDangling form dangling =
      ((s.count countEvaluation).noteDangling form dangling).withForms forms := by
    intro dangling
    unfold noteDangling
    split_ifs <;> rfl
  unfold judge
  dsimp only
  cases Verdict.ofAnswers form answers with
  | error errors => exact (s.count countEvaluation).reject_withForms forms form errors
  | ok verdict =>
    dsimp only
    rw [hdangling]
    refine andThen_withForms _ forms fun s _ => ?_
    exact andThen_withForms (s.noteDecision form verdict.decision) forms fun _ _ => rfl

theorem recordSubmission_withForms (s : Service) (forms : List (String × Form)) (form : Form)
    (decision : Decision) (record : Submission) :
    (s.withForms forms).recordSubmission form decision record =
      (s.recordSubmission form decision record).withForms forms := by
  unfold recordSubmission
  rw [calling_withForms]
  cases s.calling .recordSubmission () with
  | error failure => rfl
  | ok done => rfl

theorem submitTo_withForms (s : Service) (forms : List (String × Form)) (form : Form)
    (request : SubmissionRequest) :
    (s.withForms forms).submitTo form request = (s.submitTo form request).withForms forms := by
  unfold submitTo
  rw [judge_withForms]
  refine andThen_withForms _ forms fun s verdict => ?_
  rw [recordSubmission_withForms]
  exact andThen_withForms _ forms fun _ _ => rfl

theorem submit_withForms (h : PublishSame s.store.forms forms) (slug : String)
    (request : SubmissionRequest) :
    (s.withForms forms).submit slug request = (s.submit slug request).withForms forms := by
  unfold submit
  rw [loadForm_withForms h]
  exact andThen_withForms _ forms fun s form => s.submitTo_withForms forms form request

/-! ## Requests -/

theorem submitBody_withForms (h : PublishSame s.store.forms forms) (slug : String) (r : Request) :
    (s.withForms forms).submitBody slug r = (s.submitBody slug r).withForms forms := by
  unfold submitBody
  cases SubmissionRequest.ofBody r.isJson r.body with
  | error e => cases e <;> rfl
  | ok submission =>
    dsimp only
    rw [submit_withForms h]
    exact andThen_withForms _ forms fun _ _ => rfl

theorem showForm_withForms (h : PublishSame s.store.forms forms) (slug : String)
    (view : Form → Except Failure Answered) :
    (s.withForms forms).showForm slug view = (s.showForm slug view).withForms forms := by
  unfold showForm
  rw [loadForm_withForms h]
  exact andThen_withForms _ forms fun _ _ => rfl

theorem checkHealth_withForms (s : Service) (forms : List (String × Form)) :
    (s.withForms forms).checkHealth = (s.checkHealth.1.withForms forms, s.checkHealth.2) := by
  unfold checkHealth
  rw [calling_withForms]
  cases s.calling .healthCheck () with
  | error failure => rfl
  | ok done => rfl

/-- Every route comes to the same, the numbers that the service shows of itself among them. -/
theorem follow_withForms (h : PublishSame s.store.forms forms) (route : Route) (r : Request) :
    (s.withForms forms).follow route r = (s.follow route r).withForms forms := by
  unfold follow
  cases route with
  | form slug => exact showForm_withForms h slug _
  | submit slug => exact submitBody_withForms h slug r
  | integrity slug => exact showForm_withForms h slug _
  | health =>
    dsimp only
    rw [checkHealth_withForms]
    rfl
  | _ => rfl

theorem work_withForms (h : PublishSame s.store.forms forms) (r : Request) (path : String) :
    (s.withForms forms).work r path =
      ((s.work r path).1.withForms forms, (s.work r path).2) := by
  have hpreflight : (s.withForms forms).preflight? r = s.preflight? r := rfl
  have hconfig : (s.withForms forms).config = s.config := rfl
  unfold work
  rw [hpreflight, hconfig]
  cases s.preflight? r with
  | some answer => rfl
  | none =>
    dsimp only
    cases Routing.ofRequest s.config.isLocal r.verb path with
    | found route => exact congrArg (·, none) (follow_withForms h route r)
    | _ => rfl

theorem settle_withForms (s : Service) (forms : List (String × Form))
    (result : Except Failure Answered) :
    (s.withForms forms).settle result =
      ((s.settle result).1.withForms forms, (s.settle result).2) := by
  unfold settle
  cases result with
  | ok answer => rfl
  | error failure =>
    cases failure with
    | unforeseen message => rfl
    | service e =>
      dsimp only
      cases errorContent? e with
      | some content => rfl
      | none => rfl

/-- A request that is served once comes to the same among forms that publish the same. -/
theorem serveOnce_withForms (h : PublishSame s.store.forms forms) (r : Request) :
    (s.withForms forms).serveOnce r =
      ((s.serveOnce r).1.withForms forms, (s.serveOnce r).2) := by
  unfold serveOnce
  dsimp only
  rw [work_withForms h]
  generalize s.work r (Target.path r.target) = worked
  obtain ⟨⟨service, reports, calls, result⟩, elsewhere⟩ := worked
  dsimp only [Worked.withForms]
  rw [settle_withForms]
  generalize service.settle result = settled
  obtain ⟨settled, answer⟩ := settled
  cases answer with
  | none => rfl
  | some answer => rfl

theorem serveWithin_withForms (fuel : ℕ) (h : PublishSame s.store.forms forms) (r : Request) :
    serveWithin fuel (s.withForms forms) r =
      ((serveWithin fuel s r).1.withForms forms, (serveWithin fuel s r).2) := by
  induction fuel generalizing s r with
  | zero =>
    unfold serveWithin
    rw [serveOnce_withForms h]
  | succ fuel ih =>
    have hforms := s.forms_serveOnce r
    unfold serveWithin
    rw [serveOnce_withForms h]
    generalize s.serveOnce r = served at hforms
    obtain ⟨s', reports, reply, elsewhere⟩ := served
    cases elsewhere with
    | none => rfl
    | some target =>
      -- Where the request is sent from, the forms have stayed as they were.
      have h' : PublishSame s'.store.forms forms := by
        rw [show s'.store.forms = s.store.forms from hforms]
        exact h
      dsimp only
      rw [ih h' { r with target }]

/-- Serving a request comes to the same among forms that publish the same. -/
theorem serve_withForms (h : PublishSame s.store.forms forms) (r : Request) :
    (s.withForms forms).serve r = ((s.serve r).1.withForms forms, (s.serve r).2) :=
  serveWithin_withForms r.target.length h r

/-! ## Runs -/

/-- A step that does not go to the store from outside: a request, or a fault that comes or goes. -/
def Step.IsVisit : Step → Prop
  | .store _ => False
  | _ => True

theorem take_withForms (h : PublishSame s.store.forms forms) {step : Step} (hstep : step.IsVisit) :
    (s.withForms forms).take step = ((s.take step).1.withForms forms, (s.take step).2) := by
  cases step with
  | request r =>
    unfold take
    dsimp only
    rw [serve_withForms h]
  | store step => exact hstep.elim
  | addFault call failure => rfl
  | removeFault call => rfl

theorem forms_take (s : Service) {step : Step} (hstep : step.IsVisit) :
    (s.take step).1.store.forms = s.store.forms := by
  cases step with
  | request r => exact s.forms_take_request r
  | store step => exact hstep.elim
  | addFault call failure => rfl
  | removeFault call => rfl

/-- A run comes to the same among forms that publish the same. -/
theorem run_withForms (h : PublishSame s.store.forms forms) {steps : List Step}
    (hsteps : ∀ step ∈ steps, step.IsVisit) :
    (s.withForms forms).run steps = ((s.run steps).1.withForms forms, (s.run steps).2) := by
  induction steps generalizing s with
  | nil => rfl
  | cons step rest ih =>
    have hstep := hsteps step List.mem_cons_self
    have h' : PublishSame (s.take step).1.store.forms forms := by
      rw [s.forms_take hstep]
      exact h
    rw [run_cons, run_cons, take_withForms h hstep,
      ih h' fun step hstep => hsteps step (List.mem_cons_of_mem _ hstep)]

/-! ## Services -/

/-- A service that has just been started over a store that hides forms is the one over the other
store, with other forms. -/
theorem start_eq_withForms (config : Config) {store store' : MemoryStore}
    (h : store.Hides store') :
    start config store' = (start config store).withForms store'.forms := by
  have hstore : store' = { store with forms := store'.forms } := by
    rw [← h.submissions, ← h.limit]
  exact congrArg (start config) hstore

/-- Two runs, each by the service in the end and what came of the steps, look the same from
outside. -/
structure SameCourse (run run' : Service × List (List LogEntry × StepResult)) : Prop where
  /-- The replies are the same but for the ids of the requests, and so are the reports. -/
  results : run'.2.map (fun e => (e.1, e.2.withoutId)) = run.2.map fun e => (e.1, e.2.withoutId)
  /-- The same submissions are kept. -/
  submissions : run'.1.store.submissions = run.1.store.submissions
  /-- All numbers that are counted are the same. -/
  metrics : run'.1.metrics = run.1.metrics

/-- Two services with one configuration take the same requests, up to the ids that these get, and
the same faults of their stores come and go. If the store of the second one only hides forms that
are not published and that the first one lacks, then their runs look the same. -/
theorem unpublished_forms_make_no_difference (config : Config) {store store' : MemoryStore}
    (hhides : store.Hides store') {steps steps' : List Step}
    (hvisits : ∀ step ∈ steps, step.IsVisit) (hsame : steps'.map Step.sent = steps.map Step.sent) :
    SameCourse ((start config store).run steps) ((start config store').run steps') := by
  obtain ⟨hservice, hresults⟩ := (start config store).run_sent steps
  obtain ⟨hservice', hresults'⟩ := (start config store').run_sent steps'
  have hvisits' : ∀ step ∈ steps.map Step.sent, step.IsVisit := by
    intro step hstep
    obtain ⟨asked, hasked, rfl⟩ := List.mem_map.mp hstep
    have hvisit := hvisits asked hasked
    cases asked with
    | store step => exact hvisit.elim
    | _ => exact trivial
  have hrun : (start config store').run (steps'.map Step.sent) =
      (((start config store).run (steps.map Step.sent)).1.withForms store'.forms,
        ((start config store).run (steps.map Step.sent)).2) := by
    rw [hsame, start_eq_withForms config hhides]
    exact run_withForms hhides.publishSame hvisits'
  rw [hrun] at hservice' hresults'
  constructor
  · exact hresults'.symm.trans hresults
  · rw [← hservice']
    exact congrArg (·.store.submissions) hservice
  · rw [← hservice']
    exact congrArg (·.metrics) hservice

/-- A form that is published, and asks nothing. -/
def gallery : Form :=
  ⟨.int 1, .text "gallery", .text "Gallery", .null, .bool true, .null, [], []⟩

/-- A form that is not published any more. -/
def retired : Form :=
  ⟨.int 2, .text "retired", .text "Retired", .null, .bool false, .null,
    [⟨"size", .text "Size", .text, [], true, 0⟩],
    [⟨5, "cut", .equals, "slim", ⟨.showMessage, "In stock"⟩, 0, true⟩]⟩

/-- Requests that ask for the retired form in each of three ways, submit to the other one, and ask
for what was counted, while the store fails to keep records in between. -/
def retiredSteps (firstId : String) : List Step := [
  .request ⟨"GET", "/forms/retired", [], "", firstId⟩,
  .request ⟨"POST", "/forms/retired/submit", [], "\x7b\"answers\": \x7b\x7d\x7d", "2"⟩,
  .addFault .recordSubmission (.service (.store "memory" "down" .null)),
  .request ⟨"POST", "/forms/gallery/submit", [], "\x7b\"answers\": \x7b\x7d\x7d", "3"⟩,
  .removeFault .recordSubmission,
  .request ⟨"POST", "/forms/gallery/submit", [], "\x7b\"answers\": \x7b\x7d\x7d", "4"⟩,
  .request ⟨"GET", "/forms/retired/integrity", [], "", "5"⟩,
  .request ⟨"GET", "/metrics", [], "", "6"⟩]

/-- With and without the retired form these requests are answered alike. -/
theorem unpublished_forms_make_no_difference_retired :
    let config : Config :=
      ⟨"test", "INFO", "memory", "", none, 10, "Thank you", "routing", 8013, "0.0.0.0"⟩
    let store : MemoryStore := .ofForms [gallery] (some 10)
    let store' : MemoryStore := .ofForms [retired, gallery] (some 10)
    store.Hides store' ∧
      (replies (((start config store).run (retiredSteps "1")).2.map (·.2))).map (·.status) =
        [404, 404, 503, 200, 404, 200] ∧
      SameCourse ((start config store).run (retiredSteps "1"))
        ((start config store').run (retiredSteps "other")) := by
  intro config store store'
  have hhides : store.Hides store' := by
    refine ⟨rfl, rfl, fun slug => ?_⟩
    by_cases hslug : slug = "retired"
    · subst hslug
      exact .inr ⟨rfl, retired, rfl, rfl⟩
    · left
      show List.lookup slug [("retired", retired), ("gallery", gallery)] =
        List.lookup slug [("gallery", gallery)]
      rw [List.lookup_cons, beq_false_of_ne hslug]
  have hvisits : ∀ step ∈ retiredSteps "1", step.IsVisit := by simp [retiredSteps, Step.IsVisit]
  have hsame : (retiredSteps "other").map Step.sent = (retiredSteps "1").map Step.sent := rfl
  exact ⟨hhides, by decide +kernel,
    unpublished_forms_make_no_difference config hhides hvisits hsame⟩

end Service

end FormRouting
