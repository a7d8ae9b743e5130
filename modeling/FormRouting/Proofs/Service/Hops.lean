import FormRouting.Proofs.Service.Recording
import FormRouting.Proofs.Service.Run

/-!
# Hops

Where a request is sent elsewhere, it is a request there too: it is served hop by hop, each with a
reply of its own (`Service.hopsWithin`), of which the last one is the reply to the request. The reply
of a hop has the id of the request, unless the hop fails in a way that nothing expects, and no other
hop has the status of such a failure (`Hop.Labelled`).
-/

namespace FormRouting

/-- A request and the reply to it, be it that the request is sent elsewhere. -/
structure Hop where
  request : Request
  reply : Reply

namespace Hop

/-- The id that the request sent, or the one that it got if it sent none. -/
def ownId (hop : Hop) : String :=
  (hop.request.header? "x-request-id").getD hop.request.freshId

/-- The hop fails in a way that nothing expects. -/
def Lost (hop : Hop) : Prop :=
  hop.reply.status = 500

instance (hop : Hop) : Decidable hop.Lost :=
  inferInstanceAs (Decidable (_ = _))

/-- The method, the path and the status of a hop. -/
def labels (hop : Hop) : List String :=
  [hop.request.verb, Target.countedPath (Target.path hop.request.target),
    toString hop.reply.status]

/-- The reply has the id of the request, unless the hop is lost; then it has none. -/
structure Labelled (hop : Hop) : Prop where
  answered : ¬hop.Lost → hop.reply.requestId = some hop.ownId
  lost : hop.Lost → hop.reply.requestId = none

/-- The labels of the hops that are not lost. -/
def keptLabels (hops : List Hop) : List (List String) :=
  (hops.filter fun hop => !decide hop.Lost).map labels

theorem keptLabels_append (hops later : List Hop) :
    keptLabels (hops ++ later) = keptLabels hops ++ keptLabels later := by
  unfold keptLabels
  rw [List.filter_append, List.map_append]

end Hop

namespace Service

/-! ## Statuses -/

/-- Nothing is answered with the status of a failure that nothing expects. -/
theorem status_ne_of_working {s s' : Service} {submits : Bool} {calls : List RecordCall}
    {answer : Answered} (h : s.Working submits calls s' (.ok answer)) : answer.1 ≠ 500 := by
  generalize hresult : (Except.ok answer : Except Failure Answered) = result at h
  cases h with
  | answered status hcode hstatus hlost hsame hmetrics =>
    obtain rfl := Except.ok.inj hresult
    exact hlost
  | failed submits hfailure => cases hresult
  | submitted hending =>
    -- What a submission results in is shown, and that is a success.
    obtain ⟨response, -, hshown⟩ := bind_eq_ok_iff.mp hresult.symm
    unfold shown at hshown
    split_ifs at hshown
    obtain rfl := Except.ok.inj hshown
    simp

theorem status_ne_of_work {s : Service} {r : Request} {answer : Answered}
    (h : (s.work r (Target.path r.target)).1.result = .ok answer) : answer.1 ≠ 500 := by
  have hworking := s.work_working r
  rw [h] at hworking
  exact status_ne_of_working hworking

/-- What is settled is answered with another status, too. -/
theorem status_ne_of_settle {s : Service} {result : Except Failure Answered} {answer : Answered}
    (hresult : ∀ given, result = .ok given → given.1 ≠ 500)
    (h : (s.settle result).2 = some answer) : answer.1 ≠ 500 := by
  unfold settle at h
  cases result with
  | ok given =>
    obtain rfl := Option.some.inj h
    exact hresult given rfl
  | error failure =>
    cases failure with
    | unforeseen message => cases h
    | service e =>
      dsimp only at h
      cases hcontent : errorContent? e with
      | none =>
        rw [hcontent] at h
        cases h
      | some content =>
        rw [hcontent] at h
        obtain rfl := Option.some.inj h
        show e.kind.status ≠ 500
        cases e.kind <;> decide

/-! ## Hops -/

/-- The hop of a request that is served once. -/
def hopOnce (s : Service) (r : Request) : Hop :=
  ⟨r, (s.serveOnce r).2.2.1⟩

/-- The hops of a request. -/
def hopsWithin : (fuel : ℕ) → Service → Request → List Hop
  | 0, s, r => [s.hopOnce r]
  | fuel + 1, s, r =>
    s.hopOnce r ::
      match s.serveOnce r with
      | (_, _, _, none) => []
      | (s, _, _, some target) => hopsWithin fuel s { r with target }

/-- The hops of a step: those of a request, and else none. -/
def stepHops (s : Service) : Step → List Hop
  | .request r => hopsWithin r.target.length s r
  | _ => []

/-- The hops of a run. -/
def hops (s : Service) : List Step → List Hop
  | [] => []
  | step :: rest => s.stepHops step ++ hops (s.take step).1 rest

/-- What a hop is answered with. -/
def hopAnswer (s : Service) (r : Request) : Option Answered :=
  let worked := (s.work r (Target.path r.target)).1
  (worked.service.settle worked.result).2

/-- A hop is lost exactly when nothing is answered, and is labelled in any case. -/
theorem hopOnce_labelled (s : Service) (r : Request) :
    (s.hopOnce r).reply.status = statusOf (s.hopAnswer r) ∧
      ((s.hopOnce r).Lost ↔ s.hopAnswer r = none) ∧ (s.hopOnce r).Labelled := by
  -- A hop is lost when settling the work on it leaves no answer.
  rcases hsettled : (s.work r (Target.path r.target)).1.service.settle
    (s.work r (Target.path r.target)).1.result with ⟨settled, _ | answer⟩
  · have hanswer : s.hopAnswer r = none := by
      rw [hopAnswer, hsettled]
    have hreply : (s.hopOnce r).reply = ⟨500, internalError, none, none⟩ := by
      unfold hopOnce serveOnce
      dsimp only
      rw [hsettled]
    have hlost : (s.hopOnce r).Lost := by
      rw [Hop.Lost, hreply]
    refine ⟨by rw [hanswer, hreply]; rfl, iff_of_true hlost hanswer, fun h => absurd hlost h, ?_⟩
    intro _
    rw [hreply]
  · have hanswer : s.hopAnswer r = some answer := by
      rw [hopAnswer, hsettled]
    have hne : answer.1 ≠ 500 := status_ne_of_settle (fun _ => status_ne_of_work) hanswer
    have hreply : ∃ content origin,
        (s.hopOnce r).reply = ⟨answer.1, content, some r.id, origin⟩ := by
      unfold hopOnce serveOnce
      dsimp only
      rw [hsettled]
      exact ⟨_, _, rfl⟩
    obtain ⟨content, origin, hreply⟩ := hreply
    have hkept : ¬(s.hopOnce r).Lost := by
      rw [Hop.Lost, hreply]
      exact hne
    refine ⟨by rw [hanswer, hreply]; rfl, iff_of_false hkept (by simp [hanswer]), ?_,
      fun h => absurd h hkept⟩
    intro _
    rw [hreply]
    rfl

/-- The reply to a request is that of one of its hops, the last one, and all of them are labelled. -/
theorem labelled_hopsWithin (fuel : ℕ) (s : Service) (r : Request) :
    ((hopsWithin fuel s r).map (·.reply)).getLast? = some (serveWithin fuel s r).2.2 ∧
      ∀ hop ∈ hopsWithin fuel s r, hop.Labelled := by
  induction fuel generalizing s r with
  | zero =>
    refine ⟨rfl, fun hop hhop => ?_⟩
    obtain rfl := List.mem_singleton.mp hhop
    exact (s.hopOnce_labelled r).2.2
  | succ fuel ih =>
    -- The reply is that of the last hop, which is this one unless the request is sent elsewhere.
    have hlabelled := (s.hopOnce_labelled r).2.2
    have hreply : (s.hopOnce r).reply = (s.serveOnce r).2.2.1 := rfl
    unfold hopsWithin serveWithin
    generalize s.serveOnce r = served at hreply
    obtain ⟨s', reports, reply, elsewhere⟩ := served
    cases elsewhere with
    | none =>
      refine ⟨congrArg some hreply, fun hop hhop => ?_⟩
      obtain rfl := List.mem_singleton.mp hhop
      exact hlabelled
    | some target =>
      obtain ⟨hlast, hrest⟩ := ih s' { r with target }
      refine ⟨?_, ?_⟩
      · rw [List.map_cons, List.getLast?_cons, hlast]
        rfl
      · rw [List.forall_mem_cons]
        exact ⟨hlabelled, hrest⟩

/-- The replies of a run are those of hops of it, and all of these are labelled. -/
theorem labelled_hops (s : Service) (steps : List Step) :
    (∀ reply ∈ replies ((s.run steps).2.map (·.2)), ∃ hop ∈ s.hops steps, hop.reply = reply) ∧
      ∀ hop ∈ s.hops steps, hop.Labelled := by
  induction steps generalizing s with
  | nil => exact ⟨by simp [run, replies], by simp [hops]⟩
  | cons step rest ih =>
    obtain ⟨hreplies, hlabelled⟩ := ih (s.take step).1
    have hstep : (∀ reply ∈ replies [(s.take step).2.2], ∃ hop ∈ s.stepHops step, hop.reply = reply) ∧
        ∀ hop ∈ s.stepHops step, hop.Labelled := by
      -- A step has hops only if it is a request, and then its reply is that of the last one.
      have hquiet := s.take_of_not_request step
      cases step with
      | request r =>
        obtain ⟨hlast, hall⟩ := labelled_hopsWithin r.target.length s r
        refine ⟨fun reply hreply => ?_, hall⟩
        obtain rfl := List.mem_singleton.mp hreply
        exact List.mem_map.mp (List.mem_of_getLast? hlast)
      | _ =>
        rw [(hquiet (by simp)).2.2]
        exact ⟨by simp, by simp [stepHops]⟩
    have hfirst : replies ((s.run (step :: rest)).2.map (·.2)) =
        replies [(s.take step).2.2] ++ replies (((s.take step).1.run rest).2.map (·.2)) := by
      rw [run_cons, ← List.singleton_append, List.map_append]
      exact List.filterMap_append
    rw [hfirst, hops]
    constructor
    · intro reply hreply
      rcases List.mem_append.mp hreply with hreply | hreply
      · obtain ⟨hop, hhop, rfl⟩ := hstep.1 reply hreply
        exact ⟨hop, List.mem_append_left _ hhop, rfl⟩
      · obtain ⟨hop, hhop, rfl⟩ := hreplies reply hreply
        exact ⟨hop, List.mem_append_right _ hhop, rfl⟩
    · exact List.forall_mem_append.mpr ⟨hstep.2, hlabelled⟩

end Service

end FormRouting
