import FormRouting.Form
import FormRouting.ServiceError
import FormRouting.Yaml.Document

/-!
# Definitions files

The forms that a definitions file holds: a list of definitions, alone or under the name `forms`.
-/

namespace FormRouting

/-- Why a definitions file yields no forms. -/
inductive DefinitionsError where
  /-- The file is missing or not well formed. -/
  | unreadable
  /-- The file is no text in UTF-8. -/
  | encoding
  /-- Some scalar of the file has no value. -/
  | scalar (error : Yaml.Error)
  | notAList
  /-- A definition is at fault. -/
  | definition (error : ReadError)
  /-- Reading a definition failed in a way that is not foreseen. -/
  | unforeseen (error : ReadError)

namespace DefinitionsError

/-- The error of a definition that cannot be read. -/
def ofRead (e : ReadError) : DefinitionsError :=
  if e.isDefinitionFault then .definition e else .unforeseen e

/-- The store that reports the errors of definitions files. -/
def source : String := "forms_file"

/-- The error as one of the service, for those that are foreseen. -/
def serviceError? (path : String) : DefinitionsError → Option ServiceError
  | .unreadable => some (failure ("cannot load " ++ path))
  | .notAList => some (failure (path ++ ": expected a list of forms"))
  | .definition e => some (failure (path ++ ": invalid form definition: " ++ e.message))
  | .encoding | .scalar _ | .unforeseen _ => none
where
  failure (message : String) : ServiceError :=
    .store source message .null

end DefinitionsError

namespace Definitions

/-- The document in a file, of which nothing may be there. -/
def document (contents : Option ByteArray) : Except DefinitionsError Value :=
  match contents with
  | none => .error .unreadable
  | some bytes =>
    match String.fromUTF8? bytes with
    | none => .error .encoding
    | some text =>
      match Yaml.read text with
      | .ok v => .ok v
      | .error (.fault .malformed) => .error .unreadable
      | .error e => .error (.scalar e)

/-- The definitions that a document lists. An empty document lists none. -/
def ofDocument? (document : Value) : Option (List Value) :=
  match document.orElse (.map []) with
  | .map entries =>
    match Value.fieldOr entries "forms" (.list []) with
    | .list definitions => some definitions
    | _ => none
  | .list definitions => some definitions
  | _ => none

/-- Builds the forms of definitions one after the other, with what was reported on the way. -/
def forms : List Value → List LogEntry × Except ReadError (List Form)
  | [] => ([], .ok [])
  | definition :: rest =>
    match Form.ofDefinition definition with
    | (reports, .error e) => (reports, .error e)
    | (reports, .ok form) =>
      let (later, forms) := forms rest
      (reports ++ later, forms.map (form :: ·))

/-- Builds the forms of a document. -/
def load (document : Value) : List LogEntry × Except DefinitionsError (List Form) :=
  match ofDocument? document with
  | none => ([], .error .notAList)
  | some definitions =>
    let (reports, result) := forms definitions
    (reports, result.mapError .ofRead)

/-- Builds the forms of a file. -/
def loadFile (contents : Option ByteArray) : List LogEntry × Except DefinitionsError (List Form) :=
  match document contents with
  | .error e => ([], .error e)
  | .ok d => load d

end Definitions

end FormRouting
