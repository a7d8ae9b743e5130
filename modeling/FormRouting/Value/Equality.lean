import FormRouting.Value.Basic

/-!
# Equality of values

When two values count as the same: numbers by what they are worth, whatever their kind, with true
as one and false as zero; collections member by member; sets and mappings regardless of order.
Sameness decides which keys of a mapping and which members of a set fall together.
-/

namespace FormRouting

namespace Value

/-- What a number is worth. -/
inductive Quantity where
  | whole (n : Int)
  | real (x : Binary64)

/-- What the value is worth as a number. -/
def quantity? : Value → Option Quantity
  | .bool b => some (.whole (if b then 1 else 0))
  | .int n => some (.whole n)
  | .real x => some (.real x)
  | _ => none

/-- Equality of quantities, exact across kinds. -/
def Quantity.same : Quantity → Quantity → Bool
  | .whole m, .whole n => m == n
  | .whole m, .real y => y.sameInt m
  | .real x, .whole n => x.sameInt n
  | .real x, .real y => x.same y

mutual

/-- Whether two values count as the same. -/
def same : Value → Value → Bool
  | .null, .null => true
  | .bool b, w => sameQuantity (.whole (if b then 1 else 0)) w
  | .int n, w => sameQuantity (.whole n) w
  | .real x, w => sameQuantity (.real x) w
  | .text s, .text t => s == t
  | .bytes s, .bytes t => s == t
  | .date d, .date e => d == e
  | .moment m, .moment n => m == n
  | .list xs, .list ys => sameItems xs ys
  | .tuple xs, .tuple ys => sameItems xs ys
  | .set _ xs, .set _ ys => xs.length == ys.length && allAmong xs ys
  | .map xs, .map ys => xs.length == ys.length && allEntriesAmong xs ys
  | _, _ => false

/-- Whether a value is a number of the given worth. -/
def sameQuantity (q : Quantity) (w : Value) : Bool :=
  match w.quantity? with
  | some r => q.same r
  | none => false

/-- Whether lists agree item by item. -/
def sameItems : List Value → List Value → Bool
  | [], [] => true
  | x :: xs, y :: ys => same x y && sameItems xs ys
  | _, _ => false

/-- Whether every value of the first list is among the second. -/
def allAmong : List Value → List Value → Bool
  | [], _ => true
  | x :: xs, ys => ys.any (fun y => same x y) && allAmong xs ys

/-- Whether every entry of the first list is among the second. -/
def allEntriesAmong : List (Value × Value) → List (Value × Value) → Bool
  | [], _ => true
  | (k, v) :: rest, ys =>
    ys.any (fun e => same k e.1 && same v e.2) && allEntriesAmong rest ys

end

/-- Puts an entry into a mapping. A key that is there already keeps its place and its first form. -/
def putEntry (entries : List (Value × Value)) (key value : Value) : List (Value × Value) :=
  match entries with
  | [] => [(key, value)]
  | (k, v) :: rest =>
    if k.same key then (k, value) :: rest else (k, v) :: putEntry rest key value

/-- The mapping of a sequence of entries, the last value of a key winning. -/
def mapOfEntries (entries : List (Value × Value)) : Value :=
  .map (entries.foldl (fun m e => putEntry m e.1 e.2) [])

/-- The set of a sequence of values: of members that are the same the first is kept. -/
def setOfItems (frozen : Bool) (items : List Value) : Value :=
  .set frozen (items.foldl (fun kept v => if kept.any (·.same v) then kept else kept ++ [v]) [])

end Value

end FormRouting
