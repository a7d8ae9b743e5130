/-!
# Bytes as text

Bytes are read as text in UTF-8. Where they are none, a longest beginning of a character, or else a
single byte, is replaced.
-/

namespace FormRouting

namespace Utf8

/-- What stands for bytes that are no text. -/
def replacement : Char := '\uFFFD'

/-- The bytes that may follow the first byte of a character. -/
def continuation : Nat × Nat := (0x80, 0xBF)

/-- What a byte begins: the ranges of the bytes that have to follow, and the bits that it holds. A
byte that stands for itself needs none. -/
def lead? (b : Nat) : Option (List (Nat × Nat) × Nat) :=
  if b < 0x80 then some ([], b)
  else if 0xC2 ≤ b ∧ b ≤ 0xDF then some ([continuation], b - 0xC0)
  else if b = 0xE0 then some ([(0xA0, 0xBF), continuation], 0)
  else if b = 0xED then some ([(0x80, 0x9F), continuation], 0xD)
  else if 0xE1 ≤ b ∧ b ≤ 0xEF then some ([continuation, continuation], b - 0xE0)
  else if b = 0xF0 then some ([(0x90, 0xBF), continuation, continuation], 0)
  else if 0xF1 ≤ b ∧ b ≤ 0xF3 then some ([continuation, continuation, continuation], b - 0xF0)
  else if b = 0xF4 then some ([(0x80, 0x8F), continuation, continuation], 4)
  else none

/-- Reads on in a character, of which the given bytes have to follow and the given bits have been
read. -/
def decodeFrom : (pending : List (Nat × Nat)) → (bits : Nat) → List UInt8 → List Char
  | pending, _, [] => if pending.isEmpty then [] else [replacement]
  | pending, bits, b :: rest =>
    let n := b.toNat
    let start (front : List Char) : List Char :=
      match lead? n with
      | some ([], code) => front ++ Char.ofNat code :: decodeFrom [] 0 rest
      | some (more, bits) => front ++ decodeFrom more bits rest
      | none => front ++ replacement :: decodeFrom [] 0 rest
    match pending with
    | [] => start []
    | (least, most) :: more =>
      if least ≤ n ∧ n ≤ most then
        let bits := 64 * bits + n % 64
        if more.isEmpty then Char.ofNat bits :: decodeFrom [] 0 rest
        else decodeFrom more bits rest
      else start [replacement]

/-- The text that bytes are. -/
def decode (bytes : List UInt8) : List Char :=
  decodeFrom [] 0 bytes

/-- The bytes of a text. -/
def encode (cs : List Char) : List UInt8 :=
  cs.flatMap String.utf8EncodeChar

end Utf8

end FormRouting
