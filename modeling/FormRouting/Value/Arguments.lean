import FormRouting.Value.Basic

/-!
# Named arguments

Arguments that are given by name. Every argument has to be a known one, and those that are needed
have to be given.
-/

namespace FormRouting

/-- Why arguments do not fit what they are given to. -/
inductive ArgumentError where
  | unknown (name : String)
  | missing (name : String)
  /-- An argument is of a kind that it cannot have. -/
  | kind (name : String)
  /-- Arguments that are to be shown in a message cannot be written. -/
  | unwritable
deriving DecidableEq, Repr

namespace Arguments

/-- The first name that is given without being known. -/
def unknown? (known : List String) (given : List (Value × Value)) : Option String :=
  given.findSome? fun e =>
    match e.1 with
    | .text name => if known.contains name then none else some name
    | key => some key.kindName

/-- Checks that arguments fit: the needed ones are given, and nothing but them and the optional
ones. -/
def check (needed optional : List String) (given : List (Value × Value)) :
    Except ArgumentError Unit :=
  match unknown? (needed ++ optional) given with
  | some name => .error (.unknown name)
  | none =>
    match needed.find? fun name => (Value.lookup name given).isNone with
    | some name => .error (.missing name)
    | none => .ok ()

end Arguments

end FormRouting
