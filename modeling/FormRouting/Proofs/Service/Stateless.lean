import FormRouting.Proofs.Service.Accounting
import FormRouting.Proofs.Service.Counting
import FormRouting.Proofs.Service.RequestId

/-!
# Visitors leave no trace

A visitor asks for a form, submits to it, or asks for its check (`Visits`). The answer depends on
nothing but the request, the settings, the form that the store has under the slug, and the faults
that are arranged (`SameFor`): not on what was sent before, what was counted, or which submissions
are kept. No visit changes any of these, so visits can be made in any order
(`visits_leave_no_trace`).
-/

namespace FormRouting

/-- The slug of the form that a route leads to, if it leads to one. -/
def Route.slug? : Route → Option String
  | .form slug => some slug
  | .submit slug => some slug
  | .integrity slug => some slug
  | _ => none

namespace Service

/-- A request visits the form under a slug: it asks for the form or for its check, or submits to
it. -/
def Visits (config : Config) (r : Request) (slug : String) : Prop :=
  ∃ route, Routing.ofRequest config.isLocal r.verb (Target.path r.target) = .found route ∧
    route.slug? = some slug

/-- Two services are the same to visitors of the form under a slug. -/
structure SameFor (slug : String) (s s' : Service) : Prop where
  config : s'.config = s.config
  /-- Their stores have the same form under the slug, or both have none. -/
  stored : s'.store.get? slug = s.store.get? slug
  /-- The same calls of the store fail, in the same ways. -/
  faults : ∀ call, s'.faults.lookup call = s.faults.lookup call

/-! ## Handling -/

/-- The result of handling a submission is up to the settings, the form, its answers, and the call that
keeps the record. -/
theorem result_submitTo (s : Service) (form : Form) (request : SubmissionRequest) :
    (s.submitTo form request).result =
      (judgement s.config form request.answers).bind fun verdict =>
        (s.calling .recordSubmission ()).map fun () =>
          .ofDecision verdict.decision s.config.defaultMessage := by
  cases hjudged : judgement s.config form request.answers with
  | error failure => exact (s.submitTo_of_error hjudged).2.2
  | ok verdict => exact (s.submitTo_of_ok hjudged).2.2

/-- The result of a submission is that of handling it with the form that was loaded. -/
theorem result_submit (s : Service) (slug : String) (request : SubmissionRequest) :
    (s.submit slug request).result =
      (s.loadForm slug).result.bind fun form => (s.submitTo form request).result := by
  unfold submit
  rw [Worked.result_andThen]
  -- Whether or not the form was loaded, the service is still the one before.
  rcases s.loadForm_cases slug with ⟨form, -, hload⟩ | ⟨reports, failure, hload, -⟩
  · rw [hload]
    rfl
  · rw [hload]

/-- What settling answers is up to the result. -/
theorem snd_settle (s s' : Service) (result : Except Failure Answered) :
    (s'.settle result).2 = (s.settle result).2 := by
  unfold settle
  cases result with
  | ok answer => rfl
  | error failure =>
    cases failure with
    | unforeseen message => rfl
    | service e =>
      dsimp only
      cases errorContent? e with
      | some content => rfl
      | none => rfl

namespace SameFor

variable {slug : String} {s s' : Service} (h : SameFor slug s s')
include h

theorem calling_eq {α : Type} (call : StoreCall) (result : α) :
    s'.calling call result = s.calling call result := by
  unfold calling
  rw [h.faults]

theorem loadForm_eq : (s'.loadForm slug).result = (s.loadForm slug).result := by
  unfold loadForm
  rw [h.stored, h.calling_eq]
  cases s.calling .getForm (s.store.get? slug) with
  | error failure => rfl
  | ok found =>
    dsimp only
    cases found.filter (·.isPublished) with
    | some form => rfl
    | none => rfl

theorem submit_eq (request : SubmissionRequest) :
    (s'.submit slug request).result = (s.submit slug request).result := by
  have hhandled : ∀ form, (s'.submitTo form request).result = (s.submitTo form request).result := by
    intro form
    rw [result_submitTo, result_submitTo, h.calling_eq, h.config]
  rw [result_submit, result_submit, h.loadForm_eq]
  simp only [hhandled]

theorem submitMarks_eq (request : SubmissionRequest) :
    s'.submitMarks slug request = s.submitMarks slug request := by
  unfold submitMarks
  rw [h.loadForm_eq, h.calling_eq, h.config]

/-- A route to the form comes to the same result, and counts the same. -/
theorem follow_eq {route : Route} (hslug : route.slug? = some slug) (r : Request) :
    (s'.follow route r).result = (s.follow route r).result ∧
      s'.followMarks route r = s.followMarks route r := by
  -- Whatever is shown of a form is up to the form that is loaded.
  have hshow : ∀ view, (s'.showForm slug view).result = (s.showForm slug view).result := by
    intro view
    unfold showForm
    rw [Worked.result_andThen, Worked.result_andThen, h.loadForm_eq]
    rfl
  cases route with
  | form other =>
    obtain rfl := Option.some.inj hslug
    exact ⟨hshow _, rfl⟩
  | integrity other =>
    obtain rfl := Option.some.inj hslug
    exact ⟨hshow _, rfl⟩
  | submit other =>
    obtain rfl := Option.some.inj hslug
    unfold follow followMarks
    dsimp only
    cases hbody : SubmissionRequest.ofBody r.isJson r.body with
    | error e =>
      unfold submitBody
      rw [hbody]
      cases e <;> exact ⟨rfl, rfl⟩
    | ok submission =>
      rw [(s'.submitBody_of_ok other hbody).2.2, (s.submitBody_of_ok other hbody).2.2, h.submit_eq]
      exact ⟨rfl, h.submitMarks_eq submission⟩
  | _ => cases hslug

/-- A visit gets the same reply, and counts the same. -/
theorem serve_eq {r : Request} {route : Route}
    (hroute : Routing.ofRequest s.config.isLocal r.verb (Target.path r.target) = .found route)
    (hslug : route.slug? = some slug) :
    (s'.serve r).2.2 = (s.serve r).2.2 ∧ s'.routeMarks route r = s.routeMarks route r := by
  have hroute' : Routing.ofRequest s'.config.isLocal r.verb (Target.path r.target) =
      .found route := by
    rw [h.config]
    exact hroute
  have horigin : s'.allowedOrigin r = s.allowedOrigin r := by
    unfold allowedOrigin
    rw [h.config]
  have hwork := work_of_found hroute
  have hwork' := work_of_found hroute'
  obtain ⟨hresult, hmarks⟩ := h.follow_eq hslug r
  have hanswer := snd_settle (s.follow route r).service (s'.follow route r).service
    (s.follow route r).result
  constructor
  · rw [(serve_eq_serveOnce hwork).2.1, (serve_eq_serveOnce hwork').2.1]
    unfold serveOnce
    dsimp only
    rw [hwork, hwork', hresult, horigin]
    dsimp only
    -- Of what was settled the reply shows the answer only.
    generalize (s'.follow route r).service.settle (s.follow route r).result = settled',
      (s.follow route r).service.settle (s.follow route r).result = settled at hanswer ⊢
    obtain ⟨t, answer⟩ := settled
    obtain ⟨t', answer'⟩ := settled'
    obtain rfl : answer' = answer := hanswer
    cases answer' with
    | none => rfl
    | some answer => rfl
  · unfold routeMarks
    dsimp only
    rw [hresult, hmarks, hanswer]

end SameFor

/-! ## Runs -/

/-- A service stays the same to visitors when a request is served. -/
theorem sameFor_serve (s : Service) (r : Request) (slug : String) :
    SameFor slug s (s.serve r).1 := by
  have hsettings := sameSettings_serveWithin r.target.length s r
  have hforms : (s.serve r).1.store.forms = s.store.forms :=
    forms_serveWithin r.target.length s r
  refine ⟨hsettings.config, ?_, fun call => ?_⟩
  · unfold MemoryStore.get?
    rw [hforms]
  · rw [show (s.serve r).1.faults = s.faults from hsettings.faults]

theorem SameFor.trans {slug : String} {s s' s'' : Service} (h : SameFor slug s s')
    (h' : SameFor slug s' s'') : SameFor slug s s'' :=
  ⟨h'.config.trans h.config, h'.stored.trans h.stored,
    fun call => (h'.faults call).trans (h.faults call)⟩

/-- A step changes no settings. -/
theorem config_take (s : Service) (step : Step) : (s.take step).1.config = s.config := by
  cases step with
  | request r => exact (sameSettings_serveWithin r.target.length s r).config
  | store step =>
    unfold take takeStore
    dsimp only
    split
    · rfl
    · split <;> rfl
  | addFault call failure => rfl
  | removeFault call => rfl

theorem config_run (s : Service) (steps : List Step) : (s.run steps).1.config = s.config := by
  induction steps generalizing s with
  | nil => rfl
  | cons step rest ih => exact (ih (s.take step).1).trans (s.config_take step)

/-- What a visit counts. -/
def visitMarks (s : Service) (r : Request) : Ledger :=
  match Routing.ofRequest s.config.isLocal r.verb (Target.path r.target) with
  | .found route => s.routeMarks route r
  | _ => []

/-- A service answers requests that are sent one after the other as it would answer each of them
alone. -/
def AnswersEach (s : Service) (rs : List Request) : Prop :=
  replies ((s.run (rs.map .request)).2.map (·.2)) = rs.map fun r => (s.serve r).2.2

/-- Visits are answered, and counted, by a service as by any other that is the same to visitors. -/
theorem run_visits {s s' : Service} (h : ∀ slug, SameFor slug s s') {rs : List Request}
    (hvisits : ∀ r ∈ rs, ∃ slug, Visits s.config r slug) :
    replies ((s'.run (rs.map .request)).2.map (·.2)) = rs.map (fun r => (s.serve r).2.2) ∧
      s'.metrics.Adds (s'.run (rs.map .request)).1.metrics Ledger.everyAccount
        (rs.flatMap s.visitMarks) := by
  induction rs generalizing s' with
  | nil => exact ⟨rfl, .refl _ _⟩
  | cons r rest ih =>
    obtain ⟨slug, route, hroute, hslug⟩ := hvisits r List.mem_cons_self
    obtain ⟨hreply, hmarks⟩ := (h slug).serve_eq hroute hslug
    have hroute' : Routing.ofRequest s'.config.isLocal r.verb (Target.path r.target) =
        .found route := by
      rw [(h slug).config]
      exact hroute
    have hadds := adds_serve_of_found hroute'
    have hvisit : s.visitMarks r = s.routeMarks route r := by
      unfold visitMarks
      rw [hroute]
    -- The rest goes on from a service that is still the same to visitors.
    obtain ⟨hreplies, hrest⟩ := @ih (s'.serve r).1
      (fun slug => (h slug).trans (s'.sameFor_serve r slug))
      fun r hr => hvisits r (List.mem_cons_of_mem _ hr)
    rw [List.map_cons, run_cons, List.flatMap_cons, hvisit, ← hmarks]
    refine ⟨?_, hadds.trans hrest⟩
    rw [List.map_cons, List.map_cons, ← hreply, ← hreplies]
    rfl

theorem visitMarks_sent (s : Service) (r : Request) : s.visitMarks r.sent = s.visitMarks r := by
  have hverb : r.sent.verb = r.verb := rfl
  have htarget : r.sent.target = r.target := rfl
  have hjson : r.sent.isJson = r.isJson := rfl
  have hbody : r.sent.body = r.body := rfl
  have hfollow : ∀ route, s.followMarks route r.sent = s.followMarks route r := by
    intro route
    unfold followMarks
    rw [hjson, hbody]
  unfold visitMarks routeMarks answerMarks
  simp only [hverb, htarget, hfollow, follow_sent]

/-- What visits come to in two orders. -/
structure SameInAnyOrder (s : Service) (rs rs' : List Request) : Prop where
  /-- In either order each request is answered as it would be answered alone. -/
  alone : s.AnswersEach rs ∧ s.AnswersEach rs'
  /-- A request is answered the same in both orders, but for the id that it gets. -/
  answers : ∀ r ∈ rs, ∀ r' ∈ rs', r'.sent = r.sent →
    (s.serve r').2.2.withoutId = (s.serve r).2.2.withoutId
  /-- In the end the same numbers have been counted. -/
  counts : (s.run (rs.map .request)).1.metrics.SameCounts (s.run (rs'.map .request)).1.metrics

theorem visits_sent {config : Config} {r : Request} {slug : String} :
    Visits config r.sent slug ↔ Visits config r slug :=
  Iff.rfl

/-- Services that are the same to visitors of a form answer a visit to it alike. -/
theorem SameFor.answer_eq {slug : String} {s s' : Service} (h : SameFor slug s s') {r r' : Request}
    (hvisits : Visits s.config r slug) (hsent : r'.sent = r.sent) :
    (s'.serve r').2.2.withoutId = (s.serve r).2.2.withoutId := by
  obtain ⟨route, hroute, hslug⟩ := hvisits
  obtain ⟨-, -, hreply⟩ := s'.serve_sent r
  obtain ⟨-, -, hreply'⟩ := s'.serve_sent r'
  rw [← hreply', hsent, hreply, (h.serve_eq hroute hslug).1]

/-- Visits come to the same in any order, for a service whose metrics tell a tally. -/
theorem sameInAnyOrder_of_perm {s : Service} {before : Ledger}
    (htally : s.metrics.Tallies Ledger.everyAccount before) {rs rs' : List Request}
    (hvisits : ∀ r ∈ rs, ∃ slug, Visits s.config r slug)
    (hperm : (rs'.map Request.sent).Perm (rs.map Request.sent)) : s.SameInAnyOrder rs rs' := by
  have hsame : ∀ slug, SameFor slug s s := fun slug => ⟨rfl, rfl, fun _ => rfl⟩
  have hvisits' : ∀ r' ∈ rs', ∃ slug, Visits s.config r' slug := by
    intro r' hr'
    obtain ⟨r, hr, hsent⟩ := List.mem_map.mp (hperm.mem_iff.mp (List.mem_map_of_mem hr'))
    obtain ⟨slug, hvisit⟩ := hvisits r hr
    rw [← visits_sent, hsent] at hvisit
    exact ⟨slug, hvisit⟩
  obtain ⟨hreplies, hadds⟩ := run_visits hsame hvisits
  obtain ⟨hreplies', hadds'⟩ := run_visits hsame hvisits'
  refine ⟨⟨hreplies, hreplies'⟩, fun r hr r' hr' hsent => ?_, ?_⟩
  · obtain ⟨slug, hvisit⟩ := hvisits r hr
    exact (hsame slug).answer_eq hvisit hsent
  · -- What the two orders count is the same but for its order.
    have hmarks : ∀ rs : List Request,
        rs.flatMap s.visitMarks = (rs.map Request.sent).flatMap s.visitMarks := by
      intro rs
      rw [List.flatMap_map]
      simp only [visitMarks_sent]
    refine (hadds before htally).sameCounts (hadds' before htally) ?_
    rw [hmarks rs, hmarks rs']
    exact (hperm.flatMap_right s.visitMarks).append_left before

/-- Whatever came before, two services with the same settings answer a visit to a form alike if their
stores have the same form under its slug, or both have none, and the same calls of the stores fail.
Visits that are made one after the other, with no other steps between them, are answered in every
order as each of them would be alone, and the same is counted. -/
theorem visits_leave_no_trace (config : Config) :
    (∀ (store store' : MemoryStore) (steps steps' : List Step) (slug : String) (r r' : Request),
      let s := ((start config store).run steps).1
      let s' := ((start config store').run steps').1
      Visits config r slug → r'.sent = r.sent →
      s'.store.get? slug = s.store.get? slug →
      (∀ call, s'.faults.lookup call = s.faults.lookup call) →
      (s'.serve r').2.2.withoutId = (s.serve r).2.2.withoutId) ∧
    ∀ (store : MemoryStore) (steps : List Step) (rs rs' : List Request),
      let s := ((start config store).run steps).1
      (∀ r ∈ rs, ∃ slug, Visits config r slug) →
      (rs'.map Request.sent).Perm (rs.map Request.sent) → s.SameInAnyOrder rs rs' := by
  constructor
  · intro store store' steps steps' slug r r' s s' hvisits hsent hstored hfaults
    have hconfig : s.config = config := (start config store).config_run steps
    have hconfig' : s'.config = config := (start config store').config_run steps'
    have hsame : SameFor slug s s' := ⟨hconfig'.trans hconfig.symm, hstored, hfaults⟩
    rw [← hconfig] at hvisits
    exact hsame.answer_eq hvisits hsent
  · intro store steps rs rs' s hvisits hperm
    have hconfig : s.config = config := (start config store).config_run steps
    obtain ⟨before, htally⟩ := exists_tally config store steps
    rw [← hconfig] at hvisits
    exact sameInAnyOrder_of_perm htally hvisits hperm

/-- A past of a service: a form that is removed, and two submissions to another one, the second of
which the store fails to keep. -/
def stockHistory : List Step := [
  .store (.remove "visit"),
  .request stockRequest,
  .addFault .recordSubmission (.service (.store "memory" "down" .null)),
  .request stockRequest,
  .removeFault .recordSubmission]

/-- A service that starts with both forms has the other one and no faults after this past. -/
theorem run_stockHistory (config : Config) :
    let s := ((start config (.ofForms [visitForm 1, stock] (some 1))).run
      stockHistory).1
    s.store.forms = [("stock", stock)] ∧ s.faults = [] := by
  have hremoved : ((start config (.ofForms [visitForm 1, stock] (some 1))).take
      (.store (.remove "visit"))).1 = start config (.ofForms [stock] (some 1)) := rfl
  have hadded : ∀ (s : Service) (call : StoreCall) (failure : Failure),
      (s.take (.addFault call failure)).1.store.forms = s.store.forms ∧
        (s.take (.addFault call failure)).1.faults = (call, failure) :: s.faults :=
    fun _ _ _ => ⟨rfl, rfl⟩
  have hgone : ∀ (s : Service) (call : StoreCall),
      (s.take (.removeFault call)).1.store.forms = s.store.forms ∧
        (s.take (.removeFault call)).1.faults = s.faults.filter (·.1 ≠ call) :=
    fun _ _ => ⟨rfl, rfl⟩
  have hend : ∀ s : Service, s.run [] = (s, []) := fun _ => rfl
  unfold stockHistory
  dsimp only
  rw [run_cons, run_cons, run_cons, run_cons, run_cons, hend, hremoved]
  constructor
  · rw [(hgone _ _).1, forms_take_request, (hadded _ _ _).1, forms_take_request]
    rfl
  · rw [(hgone _ _).2, faults_take_request, (hadded _ _ _).2, faults_take_request]
    rfl

/-- A visitor of the form cannot tell this past from none, and a submission, a look at the form and a
look at a form that is missing come to the same when the last one is made first. -/
theorem visits_leave_no_trace_stock :
    let config : Config :=
      ⟨"test", "INFO", "memory", "", none, 10, "Thank you", "routing", 8013, "0.0.0.0"⟩
    let store : MemoryStore := .ofForms [stock] none
    let store' : MemoryStore := .ofForms [visitForm 1, stock] (some 1)
    let look : Request := ⟨"GET", "/forms/stock", [], "", "2"⟩
    let again : Request := ⟨"GET", "/forms/stock", [], "", "3"⟩
    let miss : Request := ⟨"GET", "/forms/visit/integrity", [], "", "4"⟩
    let s := ((start config store).run []).1
    let s' := ((start config store').run stockHistory).1
    (s.serve look).2.2.status = 200 ∧
      (s'.serve again).2.2.withoutId = (s.serve look).2.2.withoutId ∧
      s'.SameInAnyOrder [stockRequest, look, miss] [miss, stockRequest, look] := by
  intro config store store' look again miss s s'
  have hlook : Visits config look "stock" := ⟨.form "stock", by decide +kernel, rfl⟩
  have hmiss : Visits config miss "visit" := ⟨.integrity "visit", by decide +kernel, rfl⟩
  have hsubmit : Visits config stockRequest "stock" := ⟨.submit "stock", by decide +kernel, rfl⟩
  obtain ⟨hforms, hnone⟩ := run_stockHistory config
  have hstored : s'.store.get? "stock" = s.store.get? "stock" := congrArg (List.lookup _) hforms
  have hfaults : ∀ call, s'.faults.lookup call = s.faults.lookup call :=
    fun call => congrArg (List.lookup call) hnone
  have hsent : again.sent = look.sent := rfl
  have hanswer := (visits_leave_no_trace config).1 store store' [] stockHistory "stock" look again
    hlook hsent hstored hfaults
  have horder := (visits_leave_no_trace config).2 store' stockHistory [stockRequest, look, miss]
    [miss, stockRequest, look]
  refine ⟨by decide +kernel, hanswer, horder ?_ ?_⟩
  · intro r hr
    simp only [List.mem_cons, List.not_mem_nil, or_false] at hr
    rcases hr with rfl | rfl | rfl
    · exact ⟨_, hsubmit⟩
    · exact ⟨_, hlook⟩
    · exact ⟨_, hmiss⟩
  · have hswap : ([miss.sent] ++ [stockRequest.sent, look.sent]).Perm
        ([stockRequest.sent, look.sent] ++ [miss.sent]) := List.perm_append_comm
    exact hswap

end Service

end FormRouting
