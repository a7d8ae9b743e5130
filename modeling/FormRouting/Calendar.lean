import FormRouting.Number.Layout

/-!
# Dates and times of day

Calendar dates, and moments with an optional offset from universal time. A date is checked part by
part, and the first part out of range is reported.
-/

namespace FormRouting

/-- A day of the calendar. -/
structure Date where
  year : Nat
  month : Nat
  day : Nat
deriving DecidableEq, Repr

/-- A day with a time of day, and the minutes by which its clock is ahead of universal time. -/
structure Moment where
  date : Date
  hour : Nat
  minute : Nat
  second : Nat
  microsecond : Nat
  offsetMinutes : Option Int
deriving DecidableEq, Repr

/-- Why parts do not make a date or a moment. -/
inductive CalendarError where
  | year (year : Nat)
  | month
  | day
  | hour
  | minute
  | second
  | offset (minutes : Int)
deriving DecidableEq, Repr

namespace Calendar

def isLeap (year : Nat) : Bool :=
  year % 4 == 0 && (year % 100 != 0 || year % 400 == 0)

def daysInMonth (year month : Nat) : Nat :=
  if month = 2 then (if isLeap year then 29 else 28)
  else if month = 4 ∨ month = 6 ∨ month = 9 ∨ month = 11 then 30
  else 31

/-- An offset as a number of days and of seconds within a day. -/
def offsetParts (minutes : Int) : Int × Int :=
  (Int.fdiv minutes 1440, Int.fmod minutes 1440 * 60)

/-- An offset in writing; a part that is zero is left out. -/
def offsetText (minutes : Int) : String :=
  let (days, seconds) := offsetParts minutes
  let parts := (if days = 0 then [] else ["days=" ++ toString days]) ++
    (if seconds = 0 then [] else ["seconds=" ++ toString seconds])
  "datetime.timedelta(" ++ (if parts.isEmpty then "0" else ", ".intercalate parts) ++ ")"

/-- Numbers of a fixed width joined by a mark. -/
def joined (mark : String) (parts : List (Nat × Nat)) : String :=
  mark.intercalate (parts.map fun p => NumberLayout.padded p.1 p.2)

end Calendar

namespace CalendarError

def message : CalendarError → String
  | .year y => "year " ++ toString y ++ " is out of range"
  | .month => "month must be in 1..12"
  | .day => "day is out of range for month"
  | .hour => "hour must be in 0..23"
  | .minute => "minute must be in 0..59"
  | .second => "second must be in 0..59"
  | .offset m =>
    "offset must be a timedelta strictly between -timedelta(hours=24) and timedelta(hours=24), not "
      ++ Calendar.offsetText m ++ "."

end CalendarError

namespace Date

/-- The date with the given parts. -/
def ofParts (year month day : Nat) : Except CalendarError Date :=
  if year < 1 ∨ 9999 < year then .error (.year year)
  else if month < 1 ∨ 12 < month then .error .month
  else if day < 1 ∨ Calendar.daysInMonth year month < day then .error .day
  else .ok ⟨year, month, day⟩

/-- Year, month and day, joined by hyphens. -/
def text (d : Date) : String :=
  Calendar.joined "-" [(4, d.year), (2, d.month), (2, d.day)]

/-- The date as it is shown inside a collection. -/
def literal (d : Date) : String :=
  "datetime.date(" ++ ", ".intercalate ([d.year, d.month, d.day].map toString) ++ ")"

end Date

namespace Moment

/-- The moment with the given parts. The offset, which stays below a day, is checked first. -/
def ofParts (year month day hour minute second microsecond : Nat) (offsetMinutes : Option Int) :
    Except CalendarError Moment := do
  if let some m := offsetMinutes then
    if m ≤ -1440 ∨ 1440 ≤ m then throw (.offset m)
  let date ← Date.ofParts year month day
  if 23 < hour then throw .hour
  if 59 < minute then throw .minute
  if 59 < second then throw .second
  return ⟨date, hour, minute, second, microsecond, offsetMinutes⟩

/-- The offset with its sign, in hours and minutes. -/
def offsetSuffix (minutes : Int) : String :=
  (if minutes < 0 then "-" else "+") ++
    Calendar.joined ":" [(2, minutes.natAbs / 60), (2, minutes.natAbs % 60)]

/-- The moment in writing, with the given mark between the date and the time of day. Microseconds
are written when there are any, and the offset when it is known. -/
def textWith (mark : String) (m : Moment) : String :=
  m.date.text ++ mark ++ Calendar.joined ":" [(2, m.hour), (2, m.minute), (2, m.second)] ++
    (if m.microsecond = 0 then "" else "." ++ NumberLayout.padded 6 m.microsecond) ++
    (m.offsetMinutes.map offsetSuffix).getD ""

/-- The moment as it is shown inside a collection. Seconds and microseconds are left out when they
are zero from the end. -/
def literal (m : Moment) : String :=
  let fine :=
    if m.microsecond = 0 then (if m.second = 0 then [] else [m.second])
    else [m.second, m.microsecond]
  let parts := [m.date.year, m.date.month, m.date.day, m.hour, m.minute] ++ fine
  let zone := match m.offsetMinutes with
    | none => ""
    | some 0 => ", tzinfo=datetime.timezone.utc"
    | some n => ", tzinfo=datetime.timezone(" ++ Calendar.offsetText n ++ ")"
  "datetime.datetime(" ++ ", ".intercalate (parts.map toString) ++ zone ++ ")"

end Moment

end FormRouting
