import FormRouting.Definitions
import FormRouting.Submission

/-!
# The memory store

Forms by slug, and the most recent submissions. A form is replaced as a whole, and a submission that
would exceed the limit displaces the oldest one.
-/

namespace FormRouting

/-- A store of forms that keeps submissions. -/
structure MemoryStore where
  /-- The forms by slug. A slug occurs once and keeps its place. -/
  forms : List (String × Form)
  /-- The submissions that are kept, the newest first. -/
  submissions : List Submission
  /-- The number of submissions to keep, or no limit. -/
  limit : Option Nat

/-- Why a number of submissions to keep is refused. -/
inductive LimitError where
  | negative
  | tooLarge
  | notAnInteger
deriving DecidableEq, Repr

def LimitError.message : LimitError → String
  | .negative => "maxlen must be non-negative"
  | .tooLarge => "Python int too large to convert to C ssize_t"
  | .notAnInteger => "an integer is required"

namespace MemoryStore

/-- The limit when none is given. -/
def defaultLimit : Nat := 1000

/-- The greatest size of a collection. -/
def sizeLimit : Nat := Nat.pow 2 63

/-- The limit that a number is. -/
def limitOfInt (n : Int) : Except LimitError Nat :=
  if sizeLimit ≤ n.natAbs ∧ n ≠ -(sizeLimit : Int) then .error .tooLarge
  else if n < 0 then .error .negative
  else .ok n.toNat

/-- The limit that a value gives: null sets none. -/
def limitOfValue : Value → Except LimitError (Option Nat)
  | .null => .ok none
  | .bool b => .ok (some (if b then 1 else 0))
  | .int n => (limitOfInt n).map some
  | _ => .error .notAnInteger

/-- A store without forms. -/
def empty (limit : Option Nat) : MemoryStore := ⟨[], [], limit⟩

/-- The form under a slug. -/
def get? (store : MemoryStore) (slug : String) : Option Form :=
  store.forms.lookup slug

/-- Puts a form into a list by slug. -/
def putInto (slug : String) (form : Form) : List (String × Form) → List (String × Form)
  | [] => [(slug, form)]
  | e :: rest => if e.1 = slug then (slug, form) :: rest else e :: putInto slug form rest

/-- Puts a form under its slug, in place of another one. -/
def put (store : MemoryStore) (form : Form) : MemoryStore :=
  { store with forms := putInto form.slug.toText form store.forms }

/-- Removes the form under a slug. -/
def remove (store : MemoryStore) (slug : String) : MemoryStore :=
  { store with forms := store.forms.filter (·.1 != slug) }

/-- A store with the given forms. -/
def ofForms (forms : List Form) (limit : Option Nat) : MemoryStore :=
  forms.foldl put (empty limit)

/-- The most recent submissions, as many as the limit allows. -/
def keep (limit : Option Nat) (submissions : List Submission) : List Submission :=
  match limit with
  | some n => submissions.take n
  | none => submissions

/-- Keeps a submission. -/
def record (store : MemoryStore) (s : Submission) : MemoryStore :=
  { store with submissions := keep store.limit (s :: store.submissions) }

/-- The first items up to an end, which counts from behind when it is negative. -/
def takeUpTo {α : Type} (stop : Option Int) (items : List α) : List α :=
  match stop with
  | none => items
  | some n => if n < 0 then items.take (items.length - n.natAbs) else items.take n.toNat

/-- The number of submissions that are listed when none is asked for. -/
def listedByDefault : Int := 50

/-- The submissions of a form, or all for null, the newest first and up to an end. -/
def list (store : MemoryStore) (formId : Value) (stop : Option Int) : List Submission :=
  takeUpTo stop (store.submissions.filter fun s =>
    match formId with
    | .null => true
    | id => s.formId.same id)

/-- The submissions that arguments ask for. -/
def listOfArguments (store : MemoryStore) (given : List (Value × Value)) :
    Except ArgumentError (List Submission) := do
  Arguments.check [] ["routing_form_id", "limit"] given
  let list := store.list (Value.field given "routing_form_id")
  match Value.fieldOr given "limit" (.int listedByDefault) with
  | .null => return list none
  | .int n => return list (some n)
  | .bool b => return list (some (if b then 1 else 0))
  | _ => throw (.kind "limit")

/-- The report of forms that were loaded from a file. -/
def loaded (path : String) (count : Nat) : LogEntry :=
  ⟨.info, "Loaded routing forms", [("path", .text path), ("forms", .int count)]⟩

end MemoryStore

end FormRouting
