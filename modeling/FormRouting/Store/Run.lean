import FormRouting.Store.Memory

/-!
# Runs of the memory store

The steps that can be taken on a memory store from outside, and runs of them. A step that fails
leaves the store as it was.
-/

namespace FormRouting

namespace MemoryStore

/-- A step on a memory store. -/
inductive Step where
  /-- Puts the form of a definition. -/
  | put (definition : Value)
  | remove (slug : String)
  | get (slug : String)
  /-- Keeps the submission with the given fields. -/
  | record (fields : List (Value × Value))
  /-- Lists the submissions that arguments ask for. -/
  | list (arguments : List (Value × Value))
  | health
  | startStop

/-- The result of a step. -/
inductive StepResult where
  | done
  | flag (b : Bool)
  | form (found : Option Form)
  | submissions (listed : List Submission)

/-- Why a step fails. -/
inductive StepError where
  | definition (error : ReadError)
  | arguments (error : ArgumentError)

/-- Takes a step: the store afterwards, what was reported, and the result. -/
def take (store : MemoryStore) :
    Step → MemoryStore × List LogEntry × Except StepError StepResult
  | .put definition =>
    match Form.ofDefinition definition with
    | (reports, .ok form) => (store.put form, reports, .ok .done)
    | (reports, .error e) => (store, reports, .error (.definition e))
  | .remove slug => (store.remove slug, [], .ok (.flag (store.get? slug).isSome))
  | .get slug => (store, [], .ok (.form (store.get? slug)))
  | .record fields =>
    match Submission.ofArguments fields with
    | .ok s => (store.record s, [], .ok .done)
    | .error e => (store, [], .error (.arguments e))
  | .list arguments =>
    match store.listOfArguments arguments with
    | .ok listed => (store, [], .ok (.submissions listed))
    | .error e => (store, [], .error (.arguments e))
  | .health => (store, [], .ok (.flag true))
  | .startStop => (store, [], .ok .done)

/-- Takes steps one after the other: the store afterwards, what was reported, and the results. -/
def run (store : MemoryStore) :
    List Step → MemoryStore × List LogEntry × List (Except StepError StepResult)
  | [] => (store, [], [])
  | step :: rest =>
    let (store, reports, result) := store.take step
    let (store, later, results) := run store rest
    (store, reports ++ later, result :: results)

end MemoryStore

end FormRouting
