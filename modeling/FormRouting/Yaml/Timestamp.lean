import FormRouting.Calendar

/-!
# Timestamps

The written form of dates and moments in documents: year, month and day, and then a time of day with
an optional fraction of a second and an optional zone.
-/

namespace FormRouting.Yaml

/-- The parts of a written timestamp. -/
structure Timestamp where
  year : Nat
  month : Nat
  day : Nat
  /-- Whether month and day are written with two digits. -/
  isFull : Bool
  /-- Hour, minute, second and the digits of the fraction. -/
  time : Option (Nat × Nat × Nat × List Char)
  /-- The minutes that the zone is ahead of universal time. -/
  zone : Option Int
deriving DecidableEq, Repr

namespace Timestamp

/-- The number that ASCII digits name. -/
def natOfDigits (digits : List Char) : Nat :=
  digits.foldl (fun n d => 10 * n + (d.toNat - 0x30)) 0

/-- Splits off the digits in front, as many as allowed; there have to be enough of them. -/
def splitDigits (least most : Nat) (cs : List Char) : Option (List Char × List Char) :=
  let digits := (cs.take most).takeWhile Char.isDigit
  if digits.length < least then none else some (digits, cs.drop digits.length)

/-- The rest after a mark. -/
def after? (mark : Char) : List Char → Option (List Char)
  | c :: rest => if c = mark then some rest else none
  | [] => none

def isBlank (c : Char) : Bool :=
  c == ' ' || c == '\t'

/-- Reads a zone to the end: `Z`, or a sign with hours and perhaps minutes. -/
def zone? (cs : List Char) : Option Int :=
  match cs with
  | ['Z'] => some 0
  | sign :: rest =>
    if sign = '+' ∨ sign = '-' then do
      let (hours, rest) ← splitDigits 1 2 rest
      let minutes ← match rest with
        | [] => some 0
        | rest => do
          let (minutes, rest) ← splitDigits 2 2 (← after? ':' rest)
          if rest.isEmpty then some (natOfDigits minutes) else none
      let total : Int := (60 * natOfDigits hours + minutes : Nat)
      some (if sign = '-' then -total else total)
    else none
  | [] => none

/-- Reads the time of day and the zone to the end. -/
def time? (cs : List Char) : Option ((Nat × Nat × Nat × List Char) × Option Int) := do
  let (hour, rest) ← splitDigits 1 2 cs
  let (minute, rest) ← splitDigits 2 2 (← after? ':' rest)
  let (second, rest) ← splitDigits 2 2 (← after? ':' rest)
  let (fraction, rest) := match rest with
    | '.' :: digits => (digits.takeWhile Char.isDigit, digits.dropWhile Char.isDigit)
    | rest => ([], rest)
  let time := (natOfDigits hour, natOfDigits minute, natOfDigits second, fraction)
  if rest.isEmpty then some (time, none)
  else (zone? (rest.dropWhile isBlank)).map fun z => (time, some z)

/-- Reads a timestamp to the end. -/
def read? (cs : List Char) : Option Timestamp := do
  let (year, rest) ← splitDigits 4 4 cs
  let (month, rest) ← splitDigits 1 2 (← after? '-' rest)
  let (day, rest) ← splitDigits 1 2 (← after? '-' rest)
  let isFull := month.length == 2 && day.length == 2
  let (time, zone) ← match rest with
    | [] => some (none, none)
    | c :: tail =>
      let timePart :=
        if c = 'T' ∨ c = 't' then some tail
        else if isBlank c then some (tail.dropWhile isBlank)
        else none
      (timePart.bind time?).map fun r => (some r.1, r.2)
  some ⟨natOfDigits year, natOfDigits month, natOfDigits day, isFull, time, zone⟩

/-- Whether a timestamp is recognised without being marked as one: a date alone has to be written in
full. -/
def isRecognised (t : Timestamp) : Bool :=
  t.isFull || t.time.isSome

/-- The microseconds that the digits of a fraction name; further digits are cut off. -/
def microseconds (fraction : List Char) : Nat :=
  natOfDigits ((fraction ++ List.replicate 6 '0').take 6)

/-- The date that a timestamp without a time of day names. -/
def toDate (t : Timestamp) : Except CalendarError Date :=
  Date.ofParts t.year t.month t.day

/-- The moment that a timestamp with a time of day names. -/
def toMoment (t : Timestamp) (hour minute second : Nat) (fraction : List Char) :
    Except CalendarError Moment :=
  Moment.ofParts t.year t.month t.day hour minute second (microseconds fraction) t.zone

end Timestamp

end FormRouting.Yaml
