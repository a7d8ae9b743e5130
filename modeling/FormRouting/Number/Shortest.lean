import FormRouting.Number.Binary64

/-!
# The shortest decimal

The decimal with the fewest digits that reads back as a given floating-point number, and of those
the one nearest to it. For each count of digits there is a decimal grid at the number's size, and
only the two neighbours of the number on that grid need to be tried: the test is reading itself.
-/

namespace FormRouting

/-- A decimal: `digits * 10^exponent`. -/
structure Decimal where
  digits : Nat
  exponent : Int
deriving DecidableEq

namespace Decimal

/-- The power of ten at or below a magnitude of `units > 0`. -/
def leadingExponent (units : Nat) : Int :=
  if Binary64.unitsPerOne ≤ units then
    (Binary64.digitCount (units / Binary64.unitsPerOne) : Int) - 1
  else
    -(Binary64.digitCount ((Binary64.unitsPerOne + units - 1) / units - 1) : Int)

/-- The decimals next to a magnitude on the grid `10^exponent`, the nearer one first; at equal
distance the even one is first. A magnitude on the grid is its own neighbour. -/
def neighbours (units : Nat) (exponent : Int) : List Decimal :=
  let num := units * Nat.pow 10 (-exponent).toNat
  let den := Binary64.unitsPerOne * Nat.pow 10 exponent.toNat
  let below := num / den
  let rest := num % den
  let low : Decimal := ⟨below, exponent⟩
  let high : Decimal := ⟨below + 1, exponent⟩
  if rest = 0 then [low]
  else if 2 * rest < den ∨ (2 * rest = den ∧ below % 2 = 0) then [low, high]
  else [high, low]

/-- Whether the decimal reads back as the magnitude of the given rank. -/
def readsAs (d : Decimal) (rank : Nat) : Bool :=
  Binary64.ofDecimal false d.digits d.exponent == Binary64.ofRank false rank

/-- The first decimal that reads back on the grids from `count` digits on, for `fuel` grids. -/
def searchFrom (rank : Nat) (count fuel : Nat) : Option Decimal :=
  match fuel with
  | 0 => none
  | fuel + 1 =>
    let magnitude := Binary64.units rank
    let exponent := leadingExponent magnitude - (count : Int) + 1
    match (neighbours magnitude exponent).find? (·.readsAs rank) with
    | some d => some d
    | none => searchFrom rank (count + 1) fuel

/-- The exact decimal of a rank: with `k` the exponent of the unit, a unit is `5^k / 10^k`. -/
def exact (rank : Nat) : Decimal :=
  ⟨Binary64.units rank * Nat.pow 5 Binary64.unitExponent, -(Binary64.unitExponent : Int)⟩

/-- The shortest decimal of a rank. Seventeen digits tell all ranks apart; the exact decimal closes
the definition. -/
def shortest (rank : Nat) : Decimal :=
  if rank = 0 then ⟨0, 0⟩ else (searchFrom rank 1 17).getD (exact rank)

end Decimal

end FormRouting
