/-!
# Days and moments

A day of the calendar, and a day with a time on it, which may say how far its clock is from standard
time. `Day.check` and `Moment.check` say why numbers are none. Both are written in the order from the
year down, so that their texts are in the order of time.
-/

namespace TextShell

/-- A day. -/
structure Day where
  year : Nat
  month : Nat
  day : Nat
deriving Repr, DecidableEq, Inhabited

/-- A time on a day. The offset is in minutes ahead of standard time; without one the clock is not
known. -/
structure Moment where
  day : Day
  hour : Nat
  minute : Nat
  second : Nat
  microsecond : Nat := 0
  offset : Option Int := none
deriving Repr, DecidableEq, Inhabited

/-- Why numbers are no day or no moment. -/
inductive CalendarError where
  | year (year : Nat)
  | month
  | day
  | hour
  | minute
  | second
  /-- An offset of a day or more. -/
  | offset (minutes : Int)
deriving Repr, DecidableEq, Inhabited

namespace Calendar

/-- A number with zeros before it. -/
def padded (width n : Nat) : String :=
  let digits := Nat.toDigits 10 n
  String.ofList (List.replicate (width - digits.length) '0' ++ digits)

/-- The minutes of a day. -/
def dayMinutes : Int := 1440

/-- A number of minutes, as messages give it: whole days, and the seconds beyond them. -/
def showSpan (minutes : Int) : String :=
  let days := minutes / dayMinutes
  let seconds := minutes % dayMinutes * 60
  let parts := (if days = 0 then [] else ["days=" ++ toString days]) ++
    (if seconds = 0 then [] else ["seconds=" ++ toString seconds])
  "datetime.timedelta(" ++ (if parts.isEmpty then "0" else ", ".intercalate parts) ++ ")"

/-- A year with a day more than others. -/
def isLeapYear (year : Nat) : Bool := year % 4 == 0 && (year % 100 != 0 || year % 400 == 0)

/-- The number of days of a month. -/
def monthLength (year month : Nat) : Nat :=
  if month == 2 then if isLeapYear year then 29 else 28
  else if [4, 6, 9, 11].contains month then 30
  else 31

/-- The number of days before a year, counted from the year one. -/
def daysBeforeYear (year : Nat) : Nat :=
  let past := year - 1
  past * 365 + past / 4 - past / 100 + past / 400

end Calendar

/-- The words of a refusal. -/
def CalendarError.message : CalendarError → String
  | .year n => "year " ++ toString n ++ " is out of range"
  | .month => "month must be in 1..12"
  | .day => "day is out of range for month"
  | .hour => "hour must be in 0..23"
  | .minute => "minute must be in 0..59"
  | .second => "second must be in 0..59"
  | .offset minutes =>
    "offset must be a timedelta strictly between -timedelta(hours=24) and timedelta(hours=24), not " ++
      Calendar.showSpan minutes ++ "."

namespace Day

/-- Why the numbers are no day, if they are none. -/
def check (d : Day) : Except CalendarError Unit :=
  if d.year == 0 || 9999 < d.year then .error (.year d.year)
  else if d.month == 0 || 12 < d.month then .error .month
  else if d.day == 0 || Calendar.monthLength d.year d.month < d.day then .error .day
  else .ok ()

/-- The number of the day, counted from the first day of the year one. -/
def number (d : Day) : Nat :=
  (List.range (d.month - 1)).foldl (fun days i => days + Calendar.monthLength d.year (i + 1))
    (Calendar.daysBeforeYear d.year + d.day)

/-- A day as text. -/
def text (d : Day) : String :=
  Calendar.padded 4 d.year ++ "-" ++ Calendar.padded 2 d.month ++ "-" ++ Calendar.padded 2 d.day

/-- The numbers of a day, as messages list them. -/
def numbers (d : Day) : List String := [toString d.year, toString d.month, toString d.day]

/-- A day inside a message. -/
def shown (d : Day) : String := "datetime.date(" ++ ", ".intercalate d.numbers ++ ")"

end Day

namespace Moment

/-- Why the numbers are no moment, if they are none. The offset is looked at first. -/
def check (m : Moment) : Except CalendarError Unit := do
  match m.offset with
  | some minutes =>
    if minutes ≤ -Calendar.dayMinutes || Calendar.dayMinutes ≤ minutes then .error (.offset minutes)
  | none => pure ()
  m.day.check
  if 23 < m.hour then .error .hour
  else if 59 < m.minute then .error .minute
  else if 59 < m.second then .error .second
  else .ok ()

/-- An offset as text. -/
def offsetText (minutes : Int) : String :=
  (if minutes < 0 then "-" else "+") ++ Calendar.padded 2 (minutes.natAbs / 60) ++ ":" ++
    Calendar.padded 2 (minutes.natAbs % 60)

/-- A moment as text. -/
def text (m : Moment) : String :=
  m.day.text ++ " " ++ Calendar.padded 2 m.hour ++ ":" ++ Calendar.padded 2 m.minute ++ ":" ++
    Calendar.padded 2 m.second ++
    (if m.microsecond = 0 then "" else "." ++ Calendar.padded 6 m.microsecond) ++
    (m.offset.map offsetText).getD ""

/-- A moment inside a message. Seconds and what is below them are left out where they are zero. -/
def shown (m : Moment) : String :=
  let fine :=
    if m.microsecond != 0 then [toString m.second, toString m.microsecond]
    else if m.second != 0 then [toString m.second]
    else []
  let zone := match m.offset with
    | none => []
    | some 0 => ["tzinfo=datetime.timezone.utc"]
    | some minutes => ["tzinfo=datetime.timezone(" ++ Calendar.showSpan minutes ++ ")"]
  "datetime.datetime(" ++
    ", ".intercalate (m.day.numbers ++ [toString m.hour, toString m.minute] ++ fine ++ zone) ++ ")"

/-- The microseconds from the start of the year one, in standard time where the offset is known. -/
def instant (m : Moment) : Int :=
  let minutes : Int := (m.day.number * 24 + m.hour) * 60 + m.minute - m.offset.getD 0
  (minutes * 60 + m.second) * 1000000 + m.microsecond

/-- Two moments are one: both of an unknown clock, or both of a known one, at the same instant. -/
def sameAs (a b : Moment) : Bool :=
  a.offset.isSome == b.offset.isSome && a.instant == b.instant

end Moment

end TextShell
