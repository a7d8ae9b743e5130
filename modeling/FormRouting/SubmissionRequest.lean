import FormRouting.Json.Reader
import FormRouting.Schema

/-!
# Submission requests

What a visitor sends: answers by question id, and perhaps an address and a name. An answer is null, a
text, a number, a truth value, or a list of such values without null. Nothing is converted, and other
fields are passed over.
-/

namespace FormRouting

/-- What a visitor sends. -/
structure SubmissionRequest where
  answers : List (Value × Value)
  email : Option String
  name : Option String

/-- Why the body of a request is no submission. -/
inductive BodyError where
  /-- The parts with the given paths do not fit the schema. -/
  | refused (paths : List (List String))
  /-- The body holds a number that is not read. -/
  | unreadable
deriving DecidableEq, Repr

namespace SubmissionRequest

/-- The name of the body in paths. -/
def root : String := "body"

/-- Whether a value can be an answer or an item of one. -/
def isScalar : Value → Bool
  | .text _ | .int _ | .real _ | .bool _ => true
  | _ => false

/-- Whether a value can be an answer. -/
def isAnswer : Value → Bool
  | .null => true
  | .list items => items.all isScalar
  | v => isScalar v

/-- The paths of the answers that are refused; the answers have to be a mapping. -/
def refusedAnswers (answers : Option Value) : List (List String) :=
  match answers with
  | some (.map entries) =>
    (entries.filter fun e => !isAnswer e.2).map fun e => [root, "answers", e.1.toText]
  | _ => [[root, "answers"]]

/-- A text field that may be missing or null. -/
def textField (entries : List (Value × Value)) (name : String) : Option (Option String) :=
  match Value.field entries name with
  | .null => some none
  | .text s => some (some s)
  | _ => none

/-- Whether a path comes first, part by part. -/
def pathLe : List String → List String → Bool
  | [], _ => true
  | _ :: _, [] => false
  | a :: as, b :: bs => if a = b then pathLe as bs else decide (a < b)

/-- The submission that a value is. -/
def ofValue (v : Value) : Except BodyError SubmissionRequest :=
  match v with
  | .map entries =>
    let answers := Value.lookup "answers" entries
    let email := textField entries "email"
    let name := textField entries "name"
    let paths := refusedAnswers answers ++
      (if email.isNone then [[root, "email"]] else []) ++
      (if name.isNone then [[root, "name"]] else [])
    match paths, answers, email, name with
    | [], some (.map answers), some email, some name => .ok ⟨answers, email, name⟩
    | paths, _, _, _ => .error (.refused (paths.mergeSort pathLe))
  | _ => .error (.refused [[root]])

/-- The text without the mark of its byte order. -/
def dropMark (text : String) : String :=
  match text.toList with
  | '\uFEFF' :: rest => String.ofList rest
  | _ => text

/-- The submission that a text in JSON is. -/
def ofText (text : String) : Except BodyError SubmissionRequest :=
  match Json.read (dropMark text) with
  | .ok v => ofValue v
  | .error .malformed => .error (.refused [[root]])
  | .error (.tooLong _) => .error .unreadable

/-- The submission in the body of a request, which has to be sent as JSON. -/
def ofBody (isJson : Bool) (text : String) : Except BodyError SubmissionRequest :=
  if isJson && !text.isEmpty then ofText text else .error (.refused [[root]])

end SubmissionRequest

end FormRouting
