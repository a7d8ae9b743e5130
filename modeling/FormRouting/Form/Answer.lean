import FormRouting.Value.Reading

/-!
# Answers

The validated answers of a submission, keyed by question id. A question takes one text, or a set of
selected options when it is multi-valued.
-/

namespace FormRouting

/-- The answer to one question. -/
inductive Answer where
  | text (s : String)
  /-- The selected options. Only which ones they are matters, but for the joined text of a list
  that names one twice. -/
  | selections (options : List String)
deriving DecidableEq, Repr

/-- What joins the selected options in the text of an answer. -/
def Answer.separator : String := ", "

namespace Answer

/-- The selected options in the order of their characters. -/
def sorted (options : List String) : List String :=
  options.mergeSort fun a b => decide (a ≤ b)

/-- The answer as one text: the selected options sorted and joined. -/
def joined : Answer → String
  | .text s => s
  | .selections options => separator.intercalate (sorted options)

/-- The texts among values, when all of them are texts. -/
def texts? : List Value → Option (List String)
  | [] => some []
  | .text s :: rest => (texts? rest).map (s :: ·)
  | _ :: _ => none

/-- The answer that a value is: a text, or the texts of a collection. -/
def ofValue (v : Value) : Except ReadError Answer :=
  match v with
  | .text s => .ok (.text s)
  | v =>
    match v.items?.bind texts? with
    | some options => .ok (.selections options)
    | none => .error .notTexts

/-- The answer as a value: a text, or a set of texts. -/
def toValue : Answer → Value
  | .text s => .text s
  | .selections options => .set true ((sorted options).map .text)

end Answer

/-- Answers keyed by question id. An id occurs once and keeps the place where it first came. -/
structure AnswerSet (α : Type) where
  entries : List (String × α)

namespace AnswerSet

variable {α : Type}

def empty : AnswerSet α := ⟨[]⟩

/-- The answer to a question. -/
def get? (answers : AnswerSet α) (id : String) : Option α :=
  (answers.entries.find? (·.1 == id)).map (·.2)

/-- Whether a question is answered. -/
def contains (answers : AnswerSet α) (id : String) : Bool :=
  (answers.get? id).isSome

def size (answers : AnswerSet α) : Nat :=
  answers.entries.length

/-- Puts an entry into a list keyed by id. -/
def putInto (id : String) (answer : α) : List (String × α) → List (String × α)
  | [] => [(id, answer)]
  | e :: rest => if e.1 = id then (id, answer) :: rest else e :: putInto id answer rest

/-- Records the answer to a question; an earlier answer to it is replaced in its place. -/
def insert (answers : AnswerSet α) (id : String) (answer : α) : AnswerSet α :=
  ⟨putInto id answer answers.entries⟩

/-- The answers of a sequence of entries, the last one to a question winning. -/
def ofList (entries : List (String × α)) : AnswerSet α :=
  entries.foldl (fun answers e => answers.insert e.1 e.2) empty

/-- The answers as a value. -/
def toValue (answers : AnswerSet Value) : Value :=
  Value.record answers.entries

/-- The answers in writing. -/
def describe (answers : AnswerSet Value) : Except ReadError String := do
  return "AnswerSet(" ++ (← answers.toValue.readText) ++ ")"

end AnswerSet

end FormRouting
