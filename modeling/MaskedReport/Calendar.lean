import MaskedReport.Number.Decimal
import MaskedReport.Text.Quoted

/-!
# Dates and times

Dates of the years 1 to 9999 and times of day with microseconds, with or without an offset from
universal time; their checks, order and texts.
-/

set_option autoImplicit false

namespace MaskedReport

/-- A calendar date. -/
structure Date where
  year : Nat
  month : Nat
  day : Nat
  deriving DecidableEq, Inhabited

/-- A date with a time of day. `offset` is the distance from universal time in seconds; a time
without one belongs to no zone. -/
structure DateTime where
  date : Date
  hour : Nat
  minute : Nat
  second : Nat
  micro : Nat
  offset : Option Int
  deriving DecidableEq, Inhabited

/-- The part of a date or time that lies outside its range. -/
inductive CalendarFault where
  | year (y : Nat)
  | month
  | day
  | hour
  | minute
  | second
  /-- An offset of a day or more, in seconds. -/
  | offset (seconds : Int)
  deriving DecidableEq

namespace Calendar

/-- A number written with at least `width` digits. -/
def padded (width n : Nat) : String :=
  let ds := Decimal.digitsOf n
  String.ofList (List.replicate (width - ds.length) '0' ++ ds)

/-- Whether a year has a leap day. -/
def isLeap (year : Nat) : Bool :=
  year % 4 == 0 && (year % 100 != 0 || year % 400 == 0)

/-- The number of days of a month. -/
def daysIn (year month : Nat) : Nat :=
  if month = 2 then if isLeap year then 29 else 28
  else if month ∈ [4, 6, 9, 11] then 30 else 31

/-- A date, if its parts are in range; the year is checked first, then the month. -/
def date (year month day : Nat) : Except CalendarFault Date :=
  if year = 0 ∨ 9999 < year then .error (.year year)
  else if month = 0 ∨ 12 < month then .error .month
  else if day = 0 ∨ daysIn year month < day then .error .day
  else .ok ⟨year, month, day⟩

/-- An offset, if it is shorter than a day either way. -/
def offset (seconds : Int) : Except CalendarFault Int :=
  if -86400 < seconds ∧ seconds < 86400 then .ok seconds else .error (.offset seconds)

/-- A date with a time of day, if the parts are in range. -/
def dateTime (year month day hour minute second micro : Nat) (zone : Option Int) :
    Except CalendarFault DateTime := do
  let d ← date year month day
  if 23 < hour then throw .hour
  if 59 < minute then throw .minute
  if 59 < second then throw .second
  return ⟨d, hour, minute, second, micro, zone⟩

/-- The days from the first day of the year 1 to a date. -/
def dayNumber (d : Date) : Nat :=
  let y := d.year - 1
  let before := (List.range (d.month - 1)).foldl (fun n m => n + daysIn d.year (m + 1)) 0
  y * 365 + y / 4 - y / 100 + y / 400 + before + d.day

/-- The month and the day of the month that a number of days into the months of a year gives. -/
def monthOfDay (year : Nat) : Nat → Nat → Nat → Nat × Nat
  | 0, month, days => (month, days + 1)
  | more + 1, month, days =>
    if days < daysIn year month then (month, days + 1)
    else monthOfDay year more (month + 1) (days - daysIn year month)

/-- The date that is a number of days after the first day of the year 1. -/
def dateOfDays (days : Nat) : Date :=
  let cycles := days / 146097
  let days := days % 146097
  let centuries := min (days / 36524) 3
  let days := days - centuries * 36524
  let leaps := days / 1461
  let days := days % 1461
  let years := min (days / 365) 3
  let year := cycles * 400 + centuries * 100 + leaps * 4 + years + 1
  let (month, day) := monthOfDay year 11 1 (days - years * 365)
  ⟨year, month, day⟩

/-- The days from the first day of the year 1 to the first day of 1970. -/
def epochDays : Nat := 719162

/-- The time that is a number of seconds and thousandths after the start of 1970. -/
def ofEpoch (seconds thousandths : Nat) : DateTime :=
  let second := seconds % 86400
  ⟨dateOfDays (epochDays + seconds / 86400), second / 3600, second / 60 % 60, second % 60,
    thousandths * 1000, none⟩

/-- A span of seconds as whole days and the seconds that remain, the latter never negative. -/
def daysAndSeconds (seconds : Int) : Int × Int := (seconds / 86400, seconds % 86400)

/-- The span as messages show it. -/
def spanShown (seconds : Int) : String :=
  let (d, s) := daysAndSeconds seconds
  let parts := (if d = 0 then [] else ["days=" ++ toString d]) ++
    (if s = 0 then [] else ["seconds=" ++ toString s])
  "datetime.timedelta(" ++ (if parts.isEmpty then "0" else ", ".intercalate parts) ++ ")"

end Calendar

namespace Date

/-- The text `YYYY-MM-DD`. -/
def text (d : Date) : String :=
  Calendar.padded 4 d.year ++ "-" ++ Calendar.padded 2 d.month ++ "-" ++ Calendar.padded 2 d.day

/-- The date as messages show it. -/
def shown (d : Date) : String :=
  "datetime.date(" ++ toString d.year ++ ", " ++ toString d.month ++ ", " ++ toString d.day ++ ")"

/-- How two dates compare. -/
def compare (a b : Date) : Ordering :=
  Ord.compare (Calendar.dayNumber a) (Calendar.dayNumber b)

end Date

namespace DateTime

/-- The offset as `+HH:MM`, with seconds only if there are any. -/
def offsetText (seconds : Int) : String :=
  let n := seconds.natAbs
  (if seconds < 0 then "-" else "+") ++ Calendar.padded 2 (n / 3600) ++ ":" ++
    Calendar.padded 2 (n / 60 % 60) ++
    (if n % 60 = 0 then "" else ":" ++ Calendar.padded 2 (n % 60))

/-- The text with the given separator between date and time. -/
def textWith (separator : String) (t : DateTime) : String :=
  t.date.text ++ separator ++ Calendar.padded 2 t.hour ++ ":" ++ Calendar.padded 2 t.minute ++
    ":" ++ Calendar.padded 2 t.second ++
    (if t.micro = 0 then "" else "." ++ Calendar.padded 6 t.micro) ++
    (match t.offset with
      | none => ""
      | some s => offsetText s)

/-- The text with thousandths of a second after a comma. -/
def stamp (t : DateTime) : String :=
  { t with micro := 0, offset := none }.textWith " " ++ "," ++
    Calendar.padded 3 (t.micro / 1000)

/-- The date and time as messages show it: seconds and microseconds only where they tell. -/
def shown (t : DateTime) : String :=
  let parts := [t.date.year, t.date.month, t.date.day, t.hour, t.minute] ++
    (if t.second = 0 ∧ t.micro = 0 then [] else [t.second]) ++
    (if t.micro = 0 then [] else [t.micro])
  "datetime.datetime(" ++ ", ".intercalate (parts.map toString) ++
    (match t.offset with
      | none => ""
      | some s =>
        ", tzinfo=" ++
          (if s = 0 then "datetime.timezone.utc"
           else "datetime.timezone(" ++ Calendar.spanShown s ++ ")")) ++ ")"

/-- Microseconds since the start of the calendar, less the offset. -/
def instant (t : DateTime) : Int :=
  (((Calendar.dayNumber t.date * 24 + t.hour) * 60 + t.minute) * 60 + t.second : Nat) * 1000000 +
    t.micro - t.offset.getD 0 * 1000000

/-- How two times compare, if both have an offset or neither has. -/
def compare? (a b : DateTime) : Option Ordering :=
  if a.offset.isSome = b.offset.isSome then some (compare a.instant b.instant) else none

end DateTime

namespace CalendarFault

/-- The message on parts of a date that are out of range. -/
def message : CalendarFault → String
  | year y => "year " ++ toString y ++ " is out of range"
  | month => "month must be in 1..12"
  | day => "day is out of range for month"
  | hour => "hour must be in 0..23"
  | minute => "minute must be in 0..59"
  | second => "second must be in 0..59"
  | offset s =>
    "offset must be a timedelta strictly between -timedelta(hours=24) and timedelta(hours=24), " ++
      "not " ++ Calendar.spanShown s ++ "."

end CalendarFault

end MaskedReport
