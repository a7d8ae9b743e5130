/-!
# Base 64

The reading of bytes that are written as ASCII text, six bits a character. Characters outside the
alphabet are passed over. Padding that completes a group of four ends the text.
-/

namespace FormRouting

namespace Base64

/-- The six bits that a character of the alphabet stands for. -/
def sextet? (c : Char) : Option Nat :=
  let n := c.toNat
  if 0x41 ≤ n ∧ n ≤ 0x5A then some (n - 0x41)
  else if 0x61 ≤ n ∧ n ≤ 0x7A then some (n - 0x61 + 26)
  else if 0x30 ≤ n ∧ n ≤ 0x39 then some (n - 0x30 + 52)
  else if c = '+' then some 62
  else if c = '/' then some 63
  else none

/-- Reads on in a group of four, of which some characters have been read; `held` are the bits that
do not make a byte yet, and `padding` is the number of padding characters since the last one. A text
that ends inside a group is refused. -/
def decodeFrom (position held padding : Nat) : List Char → Option (List UInt8)
  | [] => if position = 0 then some [] else none
  | c :: rest =>
    if c = '=' then
      if position < 2 then decodeFrom position held padding rest
      else if 4 ≤ position + padding + 1 then some []
      else decodeFrom position held (padding + 1) rest
    else
      match sextet? c with
      | none => decodeFrom position held padding rest
      | some n =>
        if position = 0 then decodeFrom 1 n 0 rest
        else
          let bits := held * 64 + n
          let kept := 6 - 2 * position
          let byte := UInt8.ofNat (bits / 2 ^ kept)
          (decodeFrom ((position + 1) % 4) (bits % 2 ^ kept) 0 rest).map (byte :: ·)

/-- The bytes that a text stands for. -/
def decode? (cs : List Char) : Option (List UInt8) :=
  decodeFrom 0 0 0 cs

end Base64

end FormRouting
