import FormRouting.Text.Lines
import FormRouting.Value.Equality
import FormRouting.Yaml.Scalar

/-!
# Documents

The value of a document. Sequences become lists; mappings and sets drop repeated keys, and a mapping
takes over the entries of those that are merged into it. Of several errors the one nearest to the
root is reported, and of those the first: a document's values are made level by level.
-/

namespace FormRouting.Yaml

/-- An error with its distance from the node that is looked at. -/
structure Located where
  depth : Nat
  error : Error

namespace Located

/-- The error one level further from the root. -/
def deeper (e : Located) : Located := { e with depth := e.depth + 1 }

/-- Joins two results; of two errors the one nearer to the root counts, and else the first. -/
def join {α β γ : Type} (f : α → β → γ) :
    Except Located α → Except Located β → Except Located γ
  | .ok a, .ok b => .ok (f a b)
  | .ok _, .error e => .error e
  | .error e, .ok _ => .error e
  | .error d, .error e => .error (if e.depth < d.depth then e else d)

/-- Joins the results of a list. -/
def joinAll {α : Type} (results : List (Except Located α)) : Except Located (List α) :=
  results.foldr (join (· :: ·)) (.ok [])

/-- Makes the outcome of a check an error at the place itself. -/
def here {α : Type} (r : Except Error α) : Except Located α :=
  r.mapError (⟨0, ·⟩)

/-- Makes an error of a part an error of the whole. -/
def within {α : Type} (r : Except Located α) : Except Located α :=
  r.mapError deeper

end Located

open Located (join joinAll here within)

/-- An entry of a mapping: the results for its key and its value. -/
abbrev Entry := Except Located (Value × Value)

namespace Node

/-- Whether the value of a node can be a key: those of collections cannot. -/
def isKey (node : Node) : Bool :=
  node.scalarValue?.isSome

/-- Joins the results for a key and a value. -/
def entry (keyNode : Node) (key value : Except Located Value) : Entry :=
  let checked := join (fun k _ => k) key
    (here (if keyNode.isKey then .ok () else .error .malformed))
  join Prod.mk checked value

/-- The error of a node that its tag does not fit. -/
def misplaced {α : Type} : Except Located α :=
  .error ⟨1, .malformed⟩

mutual

/-- The value of a node. -/
def toValue : Node → Except Located Value
  | .scalar tag text =>
    match scalarValue? (.scalar tag text) with
    | some r => here r
    | none => misplaced
  | .sequence tag items =>
    match scalarValue? (.sequence tag []) with
    | some r => here r
    | none =>
      if tag = .sequence then (within (joinAll (itemValues items))).map .list
      else if tag = .orderedMap ∨ tag = .pairs then
        (within (joinAll (pairValues items))).map fun ps =>
          .list (ps.map fun p => .tuple [p.1, p.2])
      else misplaced
  | .mapping tag entries =>
    match scalarValue? (.mapping tag entries) with
    | some r => here r
    | none =>
      let value := match entryValues entries with
        | .ok (merged, own) =>
          (within (joinAll (merged ++ own))).map fun es => Value.mapOfEntries es
        | .error e => within (here (.error e))
      if tag = .mapping then value
      else if tag = .set then
        value.map fun v => Value.setOfItems false (v.items?.getD [])
      else misplaced

/-- The values of the items of a sequence. -/
def itemValues : List Node → List (Except Located Value)
  | [] => []
  | item :: rest => toValue item :: itemValues rest

/-- The values of the pairs of a sequence in which every item is a mapping with one entry. -/
def pairValues : List Node → List (Except Located (Value × Value))
  | [] => []
  | .mapping _ [(key, value)] :: rest =>
    join Prod.mk (toValue key) (toValue value) :: pairValues rest
  | _ :: rest => .error ⟨0, .malformed⟩ :: pairValues rest

/-- The entries of a mapping: those that are merged into it, and its own. -/
def entryValues : List (Node × Node) → Except Error (List Entry × List Entry)
  | [] => .ok ([], [])
  | (key, value) :: rest =>
    if key.tag = .merge then do
      let front ← mergedEntries value
      let (merged, own) ← entryValues rest
      return (front ++ merged, own)
    else do
      let (merged, own) ← entryValues rest
      let keyValue := if key.tag = .value then here ((needScalar key).map .text) else toValue key
      return (merged, entry (if key.tag = .value then key.withTag .text else key) keyValue
        (toValue value) :: own)

/-- The entries that a merged node brings: those of a mapping, or those of the mappings in a
sequence, of which the first takes precedence and so comes last. -/
def mergedEntries : Node → Except Error (List Entry)
  | .scalar _ _ => .error .malformed
  | .mapping _ entries => do
    let (merged, own) ← entryValues entries
    return merged ++ own
  | .sequence _ items => mergedItems items

/-- The entries that a sequence of merged mappings brings. -/
def mergedItems : List Node → Except Error (List Entry)
  | [] => .ok []
  | .mapping _ entries :: rest => do
    let (merged, own) ← entryValues entries
    let later ← mergedItems rest
    return later ++ (merged ++ own)
  | _ :: _ => .error .malformed

end

end Node

/-- The value of the document in a text; an empty text holds null. -/
def read (text : String) : Except Error Value := do
  let cs := unifyLineEnds text.toList
  if !cs.all isDocumentChar then throw .malformed
  let tokens ← (Token.ofChars cs).mapError .fault
  match ← (Node.ofTokens? tokens).mapError .fault with
  | none => return .null
  | some node => node.toValue.mapError (·.error)

end FormRouting.Yaml
