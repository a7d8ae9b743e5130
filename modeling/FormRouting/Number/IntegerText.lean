import FormRouting.Text.Digit

/-!
# Integers in text

The integer that a text names: blanks around it, a sign, and decimal digits of any script, where
single underscores may stand between digits.
-/

namespace FormRouting

namespace IntegerText

/-- Why a text is no integer. -/
inductive Error where
  | malformed
  /-- More digits than are ever converted. -/
  | tooLong (digitCount : Nat)
deriving DecidableEq, Repr

/-- The greatest number of digits that are converted, in either direction. -/
def digitLimit : Nat := 4300

/-- Whether an integer has a text: one with more digits than are ever converted has none. -/
def isWritable (n : Int) : Bool :=
  (Nat.toDigits 10 n.natAbs).length ≤ digitLimit

/-- The digits in front, with single underscores between them, and what follows. The flag tells
whether a digit must come next, as it must at the start and after an underscore. -/
def scanDigits : (digitNeeded : Bool) → List Char → Option (List Nat × List Char)
  | digitNeeded, [] => if digitNeeded then none else some ([], [])
  | digitNeeded, c :: rest =>
    if c = '_' then
      if digitNeeded then none else scanDigits true rest
    else
      match digitValue? c with
      | some d => (scanDigits false rest).map fun r => (d :: r.1, r.2)
      | none => if digitNeeded then none else some ([], c :: rest)

/-- The natural number with the given decimal digits. -/
def ofDigits (digits : List Nat) : Nat :=
  digits.foldl (fun n d => 10 * n + d) 0

/-- Splits a sign off. -/
def splitSign : List Char → Bool × List Char
  | '-' :: rest => (true, rest)
  | '+' :: rest => (false, rest)
  | cs => (false, cs)

/-- Reads an integer. The limit on digits is checked before what follows them. -/
def read (s : String) : Except Error Int :=
  let (negative, body) := splitSign (trimNumberBlanks s.toList)
  match scanDigits true body with
  | none => .error .malformed
  | some (digits, rest) =>
    if digitLimit < digits.length then .error (.tooLong digits.length)
    else if rest.isEmpty then
      .ok (if negative then -(ofDigits digits : Int) else ofDigits digits)
    else .error .malformed

/-! ## Other bases -/

/-- The value of a digit in a base beyond ten: a decimal digit of any script, or an ASCII letter. -/
def letterValue? (c : Char) : Option Nat :=
  let n := c.toNat
  match digitValue? c with
  | some d => some d
  | none =>
    if 0x61 ≤ n ∧ n ≤ 0x7A then some (n - 0x57)
    else if 0x41 ≤ n ∧ n ≤ 0x5A then some (n - 0x37)
    else none

/-- The letter that marks a base in front of a number. -/
def baseLetter (base : Nat) : Char :=
  if base = 2 then 'b' else if base = 8 then 'o' else 'x'

/-- The digits without a mark of the base in front of them. -/
def dropBaseMark (base : Nat) : List Char → List Char
  | '0' :: letter :: rest =>
    if letter.toLower = baseLetter base then rest else '0' :: letter :: rest
  | cs => cs

/-- Reads an integer to the base of two, eight or sixteen, written without underscores: blanks
around it, a sign, perhaps the mark of the base, and digits. -/
def readBase? (base : Nat) (s : String) : Option Int :=
  let (negative, body) := splitSign (trimNumberBlanks s.toList)
  match (dropBaseMark base body).mapM letterValue? with
  | none => none
  | some digits =>
    if digits.isEmpty ∨ digits.any (base ≤ ·) then none
    else
      let n := digits.foldl (fun n d => base * n + d) 0
      some (if negative then -(n : Int) else n)

end IntegerText

end FormRouting
