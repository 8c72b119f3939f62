/-!
# Dates and times

Dates of the proleptic Gregorian calendar, clock times to the microsecond, and their ISO 8601
texts.
-/

namespace TypeDraft

def isLeapYear (year : Nat) : Bool :=
  year % 4 == 0 && (year % 100 != 0 || year % 400 == 0)

def daysInMonth (year month : Nat) : Nat :=
  match month with
  | 2 => if isLeapYear year then 29 else 28
  | 4 | 6 | 9 | 11 => 30
  | _ => 31

structure Date where
  year : Nat
  month : Nat
  day : Nat
  deriving DecidableEq, Inhabited

structure Clock where
  hour : Nat
  minute : Nat
  second : Nat
  microsecond : Nat
  deriving DecidableEq, Inhabited

/-- A distance from universal time, in minutes. -/
abbrev Offset := Int

/-- A date, a time of day, or both; with both, the distance from universal time may be known. -/
inductive Moment where
  | date (d : Date)
  | time (c : Clock)
  | dateTime (d : Date) (c : Clock) (offset : Option Offset)
  deriving DecidableEq, Inhabited

inductive CalendarError where
  | yearOutOfRange (year : Nat)
  | monthOutOfRange
  | dayOutOfRange
  | hourOutOfRange
  | minuteOutOfRange
  | secondOutOfRange
  | offsetTooLarge (offset : Offset)
  deriving DecidableEq

/-- A length of time in days and seconds, the seconds never negative. -/
def Offset.lengthText (offset : Offset) : String :=
  let minutesPerDay : Int := 24 * 60
  let days := offset.fdiv minutesPerDay
  let seconds := offset.fmod minutesPerDay * 60
  let parts := (if days = 0 then [] else [s!"days={days}"]) ++
    (if seconds = 0 then [] else [s!"seconds={seconds}"])
  "datetime.timedelta(" ++ (if parts = [] then "0" else ", ".intercalate parts) ++ ")"

def CalendarError.message : CalendarError → String
  | yearOutOfRange year => s!"year {year} is out of range"
  | monthOutOfRange => "month must be in 1..12"
  | dayOutOfRange => "day is out of range for month"
  | hourOutOfRange => "hour must be in 0..23"
  | minuteOutOfRange => "minute must be in 0..59"
  | secondOutOfRange => "second must be in 0..59"
  | offsetTooLarge offset =>
    "offset must be a timedelta strictly between -timedelta(hours=24) and " ++
      "timedelta(hours=24), not " ++ offset.lengthText ++ "."

/-- A day of the calendar, in the years 1 to 9999. -/
def Date.ofParts (year month day : Nat) : Except CalendarError Date :=
  if year = 0 ∨ 9999 < year then .error (.yearOutOfRange year)
  else if month = 0 ∨ 12 < month then .error .monthOutOfRange
  else if day = 0 ∨ daysInMonth year month < day then .error .dayOutOfRange
  else .ok ⟨year, month, day⟩

def Clock.ofParts (hour minute second microsecond : Nat) : Except CalendarError Clock :=
  if 23 < hour then .error .hourOutOfRange
  else if 59 < minute then .error .minuteOutOfRange
  else if 59 < second then .error .secondOutOfRange
  else .ok ⟨hour, minute, second, microsecond⟩

/-- A distance of less than a day. -/
def Offset.ofMinutes (minutes : Int) : Except CalendarError Offset :=
  if minutes.natAbs < 24 * 60 then .ok minutes else .error (.offsetTooLarge minutes)

/-- How many days of the calendar have passed at the end of a day. -/
def Date.dayNumber (d : Date) : Nat :=
  let y := d.year - 1
  let months := (List.range (d.month - 1)).map fun m => daysInMonth d.year (m + 1)
  365 * y + y / 4 - y / 100 + y / 400 + months.foldl (· + ·) d.day

/-- Whether two moments name the same instant. Only those whose distance from universal time is
known can do so without being the same. -/
def Moment.alike (m n : Moment) : Bool :=
  match m, n with
  | dateTime d c (some o), dateTime d' c' (some o') =>
    let minutes (d : Date) (c : Clock) (o : Offset) : Int :=
      ((d.dayNumber * 24 + c.hour) * 60 + c.minute : Nat) - o
    minutes d c o == minutes d' c' o' && c.second == c'.second && c.microsecond == c'.microsecond
  | m, n => m == n

/-- The decimal digits of a number, padded with zeros to a least width. -/
def padded (width n : Nat) : String :=
  let digits := Nat.toDigits 10 n
  String.ofList (List.replicate (width - digits.length) '0' ++ digits)

def Date.iso (d : Date) : String :=
  padded 4 d.year ++ "-" ++ padded 2 d.month ++ "-" ++ padded 2 d.day

/-- Microseconds are written only where there are some. -/
def Clock.iso (c : Clock) : String :=
  padded 2 c.hour ++ ":" ++ padded 2 c.minute ++ ":" ++ padded 2 c.second ++
    (if c.microsecond = 0 then "" else "." ++ padded 6 c.microsecond)

def Offset.iso (offset : Offset) : String :=
  (if offset < 0 then "-" else "+") ++ padded 2 (offset.natAbs / 60) ++ ":" ++
    padded 2 (offset.natAbs % 60)

/-- The text of a moment, a date and a time being joined by `separator`. -/
def Moment.iso (separator : String) : Moment → String
  | date d => d.iso
  | time c => c.iso
  | dateTime d c offset => d.iso ++ separator ++ c.iso ++ (offset.map Offset.iso).getD ""

end TypeDraft
