import FormRouting.Service.Serve
import FormRouting.Store.Configured
import FormRouting.Store.Run

/-!
# Runs of the service

The steps of a run: requests, steps on the store from outside, and faults that come and go.
-/

namespace FormRouting

namespace Failure

/-- A failure that nothing expects, raised with the given arguments, which have to be written. -/
def ofArguments (arguments : List Value) : Except ReadError Failure :=
  .unforeseen <$> match arguments with
  | [] => .ok ""
  | [argument] => argument.readText
  | arguments => (Value.tuple arguments).readText

end Failure

namespace ServiceError

/-- A failure of a store with the given arguments: its name, a message and details. -/
def storeOfArguments? (arguments : List Value) : Option ServiceError :=
  let made (source message details : Value) := (storeOf source message details).toOption
  match arguments with
  | [source] => made source (.text usualMessage) .null
  | [source, message] => made source message .null
  | [source, message, details] => made source message details
  | _ => none

end ServiceError

namespace Service

/-- A step of a run. -/
inductive Step where
  | request (r : Request)
  | store (step : MemoryStore.Step)
  | addFault (call : StoreCall) (failure : Failure)
  | removeFault (call : StoreCall)

/-- Why a step on the store fails. -/
inductive StepError where
  | step (error : MemoryStore.StepError)
  | failure (failure : Failure)

/-- What comes of a step. -/
inductive StepResult where
  | reply (r : Reply)
  | store (result : Except StepError MemoryStore.StepResult)
  | done

/-- The calls of the store that a step makes. -/
def callsOf : MemoryStore.Step → List StoreCall
  | .put _ => [.putForm]
  | .remove _ => [.removeForm]
  | .get _ => [.getForm]
  | .record _ => [.recordSubmission]
  | .list _ => [.submissions]
  | .health => [.healthCheck]
  | .startStop => [.start, .stop]

/-- Takes a step on the store. -/
def takeStore (s : Service) (step : MemoryStore.Step) : Service × List LogEntry × StepResult :=
  let (store, reports, result) := s.store.take step
  match result with
  | .error e => (s, reports, .store (.error (.step e)))
  | .ok r =>
    match (callsOf step).findSome? fun call => s.faults.lookup call with
    | some failure => (s, reports, .store (.error (.failure failure)))
    | none => ({ s with store }, reports, .store (.ok r))

/-- Takes a step: the service afterwards, what was reported, and the result. -/
def take (s : Service) : Step → Service × List LogEntry × StepResult
  | .request r =>
    let (s, reports, reply) := s.serve r
    (s, reports, .reply reply)
  | .store step => s.takeStore step
  | .addFault call failure => (s.addFault call failure, [], .done)
  | .removeFault call => (s.removeFault call, [], .done)

/-- Takes steps one after the other: the service afterwards, and what each reported and resulted
in. -/
def run (s : Service) : List Step → Service × List (List LogEntry × StepResult)
  | [] => (s, [])
  | step :: rest =>
    let (s, reports, result) := s.take step
    let (s, later) := run s rest
    (s, (reports, result) :: later)

end Service

end FormRouting
