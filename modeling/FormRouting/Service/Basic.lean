import FormRouting.Config
import FormRouting.Form.Decision
import FormRouting.Http.Message
import FormRouting.ServiceError
import FormRouting.Store.Memory

/-!
# The service

The state of a running service over a memory store: its settings, its forms and submissions, and what
it has counted. Calls of the store can be made to fail.
-/

namespace FormRouting

/-- The calls of a store. -/
inductive StoreCall where
  | start
  | stop
  | getForm
  | recordSubmission
  | healthCheck
  | putForm
  | removeForm
  | submissions
deriving DecidableEq, Repr

/-- Why a call, or the work on a request, fails. -/
inductive Failure where
  | service (error : ServiceError)
  /-- A failure with a message that nothing in the service expects. -/
  | unforeseen (message : String)

/-- The message of a failure. -/
def Failure.text : Failure → String
  | .service e => e.text
  | .unforeseen message => message

/-- A running service. -/
structure Service where
  config : Config
  store : MemoryStore
  metrics : Metrics
  /-- The calls of the store that fail. -/
  faults : List (StoreCall × Failure)

namespace Service

/-- A service that has just been started. -/
def start (config : Config) (store : MemoryStore) : Service :=
  ⟨config, store, .ofService Metrics.routingService, []⟩

/-- Makes a call of the store fail from now on. -/
def addFault (s : Service) (call : StoreCall) (failure : Failure) : Service :=
  { s with faults := (call, failure) :: s.faults }

/-- Makes a call of the store work again. -/
def removeFault (s : Service) (call : StoreCall) : Service :=
  { s with faults := s.faults.filter (·.1 ≠ call) }

/-- The result of a call of the store, unless it fails. -/
def calling {α : Type} (s : Service) (call : StoreCall) (result : α) : Except Failure α :=
  match s.faults.lookup call with
  | some failure => .error failure
  | none => .ok result

/-- Counts with the service's metrics. -/
def count (s : Service) (update : Metrics → Metrics) : Service :=
  { s with metrics := update s.metrics }

/-- A call of the store to keep the record of a submission: the form and the decision that the
submission was handled with, the record, and whether the call returned. -/
structure RecordCall where
  form : Form
  decision : Decision
  record : Submission
  returned : Bool

/-- What comes of a piece of work: the state afterwards, what was reported, the calls of the store to
keep a record, and the result. -/
structure Worked (α : Type) where
  service : Service
  reports : List LogEntry
  calls : List RecordCall
  result : Except Failure α

namespace Worked

variable {α β : Type}

/-- Work that has its result at once. -/
def done (s : Service) (result : Except Failure α) : Worked α :=
  ⟨s, [], [], result⟩

/-- A piece of work and, unless it fails, the next one on what it results in. -/
def andThen (w : Worked α) (next : Service → α → Worked β) : Worked β :=
  match w.result with
  | .error failure => ⟨w.service, w.reports, w.calls, .error failure⟩
  | .ok a =>
    let later := next w.service a
    ⟨later.service, w.reports ++ later.reports, w.calls ++ later.calls, later.result⟩

end Worked

/-- The failure of what cannot be written. -/
def unwritable : Failure :=
  .unforeseen ReadError.unwritable.message

/-- Makes a report. One that is to be written and cannot be is a failure. -/
def tell (s : Service) (entry : LogEntry) (writable : Bool) : Worked Unit :=
  ⟨s, [entry], [], if s.config.writes entry.level && !writable then .error unwritable else .ok ()⟩

end Service

end FormRouting
