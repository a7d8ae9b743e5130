/-!
# Floating-point numbers

Binary floating-point numbers of 64 bits, as exact data: a finite number is a sign and the rank of
its magnitude among all finite magnitudes. Every finite magnitude is a whole number of *units*, of
`2^-1074` each, so comparing, rounding and reading are arithmetic of natural numbers. No operation
depends on the machine's own floating-point arithmetic.
-/

namespace FormRouting

/-- The number of magnitudes with one leading bit, and the number of magnitudes below the first of
them. -/
def Binary64.blockSize : Nat := Nat.pow 2 52

/-- The number of finite magnitudes: 2047 blocks. -/
def Binary64.finiteCount : Nat := 2047 * Binary64.blockSize

/-- A unit is two to the power of minus this. -/
@[irreducible] def Binary64.unitExponent : Nat := 1074

/-- The number of units in one. -/
@[irreducible] def Binary64.unitsPerOne : Nat := Nat.pow 2 Binary64.unitExponent

/-- A floating-point number. Zero has a sign, and there is one value that is not a number. -/
inductive Binary64 where
  | nan
  | infinite (negative : Bool)
  | finite (negative : Bool) (rank : Fin Binary64.finiteCount)
deriving DecidableEq

namespace Binary64

/-- The magnitude of a rank in units. The first two blocks are spaced by one unit; from there the
spacing doubles with each block. -/
def units (rank : Nat) : Nat :=
  let block := rank / blockSize
  if block = 0 then rank else (blockSize + rank % blockSize) * Nat.pow 2 (block - 1)

/-- The whole number nearest to `num / den`; a half goes to the even neighbour. -/
def roundHalfEven (num den : Nat) : Nat :=
  let quotient := num / den
  let twice := 2 * (num % den)
  if twice < den then quotient
  else if den < twice then quotient + 1
  else if quotient % 2 = 0 then quotient else quotient + 1

/-- The rank nearest to `num / den`, as if ranks went on without end. A magnitude of `b` bits in
units keeps its first 53 bits: the spacing at that size is `2^(b - 53)` units, and a rank grows by
`blockSize` each time the spacing doubles. -/
def nearestRank (num den : Nat) : Nat :=
  let scaled := num * unitsPerOne
  let spacing := (scaled / den).log2 - 52
  spacing * blockSize + roundHalfEven scaled (den * Nat.pow 2 spacing)

/-- The number with the given sign and rank; a rank past the last finite one is infinite. -/
def ofRank (negative : Bool) (rank : Nat) : Binary64 :=
  if h : rank < finiteCount then .finite negative ⟨rank, h⟩ else .infinite negative

/-- The number nearest to `num / den`, with the given sign. -/
def ofRatio (negative : Bool) (num den : Nat) : Binary64 :=
  ofRank negative (nearestRank num den)

/-- The number of decimal digits of a natural number, where zero has none. -/
def digitCount (n : Nat) : Nat :=
  if h : n = 0 then 0 else digitCount (n / 10) + 1
termination_by n
decreasing_by omega

/-- The number nearest to `digits * 10^exponent`. A number that is clearly out of range is settled
by its size alone, so that a huge exponent costs nothing. -/
def ofDecimal (negative : Bool) (digits : Nat) (exponent : Int) : Binary64 :=
  let size := digitCount digits + exponent
  if digits = 0 ∨ size < -330 then ofRank negative 0
  else if 330 < size then .infinite negative
  else if 0 ≤ exponent then ofRatio negative (digits * Nat.pow 10 exponent.toNat) 1
  else ofRatio negative digits (Nat.pow 10 (-exponent).toNat)

def zero : Binary64 := ofRank false 0

/-- The number nearest to an integer, or nothing when it is beyond the finite numbers. -/
def ofInt? (n : Int) : Option Binary64 :=
  match ofRatio (n < 0) n.natAbs 1 with
  | .infinite _ => none
  | x => some x

/-- A finite number in units, with its sign. -/
def signedUnits (negative : Bool) (rank : Nat) : Int :=
  if negative then -(units rank : Int) else units rank

/-- The number nearest to a signed quantity of units over `scale`; `zeroSign` is the sign that an
exact zero takes. -/
def ofSignedUnits (total : Int) (scale : Nat) (zeroSign : Bool) : Binary64 :=
  if total = 0 then ofRank zeroSign 0
  else ofRatio (total < 0) total.natAbs (unitsPerOne * scale)

/-- The sum, rounded to the nearest number. -/
def add : Binary64 → Binary64 → Binary64
  | .nan, _ => .nan
  | _, .nan => .nan
  | .infinite s, .infinite t => if s = t then .infinite s else .nan
  | .infinite s, .finite _ _ => .infinite s
  | .finite _ _, .infinite t => .infinite t
  | .finite s a, .finite t b =>
    ofSignedUnits (signedUnits s a + signedUnits t b) 1 (s && t)

/-- The product, rounded to the nearest number. -/
def mul : Binary64 → Binary64 → Binary64
  | .nan, _ => .nan
  | _, .nan => .nan
  | .infinite s, .infinite t => .infinite (s != t)
  | .infinite s, .finite t b => if b.val = 0 then .nan else .infinite (s != t)
  | .finite s a, .infinite t => if a.val = 0 then .nan else .infinite (s != t)
  | .finite s a, .finite t b =>
    ofSignedUnits (signedUnits s a * signedUnits t b) unitsPerOne (s != t)

/-- The number with the other sign. -/
def neg : Binary64 → Binary64
  | .nan => .nan
  | .infinite s => .infinite !s
  | .finite s a => .finite (!s) a

/-- Whether the number is a zero of either sign. -/
def isZero : Binary64 → Bool
  | .finite _ a => a.val == 0
  | _ => false

/-- Numerical equality: the two zeros are equal, and what is not a number equals nothing. -/
def same : Binary64 → Binary64 → Bool
  | .infinite s, .infinite t => s == t
  | .finite s a, .finite t b => a == b && (s == t || a.val == 0)
  | _, _ => false

/-- Numerical equality with an integer, which is exact. -/
def sameInt : Binary64 → Int → Bool
  | .finite s a, n => signedUnits s a == n * unitsPerOne
  | _, _ => false

/-- Numerical order; what is not a number is below nothing. -/
def lt : Binary64 → Binary64 → Bool
  | .nan, _ => false
  | _, .nan => false
  | .infinite s, .infinite t => s && !t
  | .infinite s, .finite _ _ => s
  | .finite _ _, .infinite t => !t
  | .finite s a, .finite t b => signedUnits s a < signedUnits t b

/-- The integer part of a finite number, toward zero. -/
def truncate (negative : Bool) (rank : Nat) : Int :=
  let whole : Int := (units rank / unitsPerOne : Nat)
  if negative then -whole else whole

/-- Whether a finite number is a whole number. -/
def isWhole (rank : Nat) : Bool :=
  units rank % unitsPerOne == 0

end Binary64

end FormRouting
