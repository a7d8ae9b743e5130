import FormRouting.Schema
import FormRouting.Trace
import FormRouting.Value.Arguments

/-!
# Service errors

The errors that the service answers a request with. Their parts are kept as they were given; the
answer has a schema, and an error that does not fit it cannot be answered.
-/

namespace FormRouting

/-- The kinds of errors. -/
inductive ErrorKind where
  | general
  /-- The answers of a submission are invalid. -/
  | validation
  /-- There is no such form, or it is not published. -/
  | notFound
  /-- The store of forms failed. -/
  | store
deriving DecidableEq, Repr

/-- The status that a kind of error is answered with. -/
def ErrorKind.status : ErrorKind → Nat
  | .general => 400
  | .validation => 422
  | .notFound => 404
  | .store => 503

/-- An error that the service answers a request with. -/
structure ServiceError where
  kind : ErrorKind
  code : Value
  message : Value
  details : Value
  /-- A status that takes the place of the kind's. -/
  ownStatus : Option Value

/-- The answer to a request that failed. -/
structure ErrorResponse where
  traceId : Option String
  code : String
  message : String
  details : List (Value × Value)

namespace ErrorResponse

def toValue (r : ErrorResponse) : Value :=
  Value.record [
    ("trace_id", (r.traceId.map Value.text).getD .null),
    ("code", .text r.code),
    ("message", .text r.message),
    ("details", .map r.details)]

end ErrorResponse

namespace ServiceError

def validationCode : String := "VALIDATION_ERROR"

def notFoundCode : String := "NOT_FOUND"

def storeCode : String := "STORE_ERROR"

/-- The details, which are an empty mapping when they do not count as true. -/
def detailsOf (details : Value) : Value :=
  details.orElse (.map [])

def validation (message details : Value) : ServiceError :=
  ⟨.validation, .text validationCode, message, detailsOf details, none⟩

def notFound (message details : Value) : ServiceError :=
  ⟨.notFound, .text notFoundCode, message, detailsOf details, none⟩

/-- A failure of a store, whose name begins the message. -/
def store (source message : String) (details : Value) : ServiceError :=
  ⟨.store, .text storeCode, .text (source ++ ": " ++ message), detailsOf details, none⟩

/-- The message of a failure of a store that says no more. -/
def usualMessage : String := "Store error"

/-- A failure of a store with the given arguments: its name and the message, which have to be
written, and details. -/
def storeOf (source message details : Value) : Except ReadError ServiceError := do
  return store (← source.readText) (← message.readText) details

/-- The error of a kind with the given arguments. -/
def ofArguments (kind : ErrorKind) (given : List (Value × Value)) :
    Except ArgumentError ServiceError :=
  let argument := Value.field given
  match kind with
  | .general => do
    Arguments.check ["code", "message"] ["details", "status_code"] given
    let status := argument "status_code"
    return ⟨.general, argument "code", argument "message", detailsOf (argument "details"),
      match status with
      | .null => none
      | status => some status⟩
  | .validation => do
    Arguments.check [] ["message", "details"] given
    return validation (Value.fieldOr given "message" (.text "Validation failed"))
      (argument "details")
  | .notFound => do
    Arguments.check [] ["message", "details"] given
    return notFound (Value.fieldOr given "message" (.text "Not found")) (argument "details")
  | .store => do
    Arguments.check ["store"] ["message", "details"] given
    (storeOf (argument "store") (Value.fieldOr given "message" (.text usualMessage))
      (argument "details")).mapError fun _ => .unwritable

/-- The status of the answer. -/
def status (e : ServiceError) : Value :=
  e.ownStatus.getD (.int e.kind.status)

/-- The error says that a store failed, and is answered as that. -/
def IsUnavailable (e : ServiceError) : Prop :=
  e.kind = .store ∧ e.code = .text storeCode ∧ e.status = .int 503

theorem isUnavailable_store (source message : String) (details : Value) :
    (store source message details).IsUnavailable :=
  ⟨rfl, rfl, rfl⟩

/-- The error in writing. -/
def text (e : ServiceError) : String :=
  e.message.toText

/-- The details of an answer: a mapping with text keys. -/
def details? (details : Value) : Option (List (Value × Value)) :=
  match details with
  | .map entries => if entries.all fun e => (Schema.text? e.1).isSome then some entries else none
  | _ => none

/-- The answer to a request that failed in this way, while the given span was current. -/
def response (e : ServiceError) (span : Option Span) : Except SchemaError ErrorResponse :=
  let code := Schema.text? e.code
  let message := Schema.text? e.message
  let details := details? e.details
  match code, message, details with
  | some code, some message, some details =>
    .ok ⟨span.bind (·.traceText?), code, message, details⟩
  | _, _, _ =>
    .error ⟨Schema.refused "code" code ++ Schema.refused "message" message ++
      Schema.refused "details" details⟩

end ServiceError

end FormRouting
