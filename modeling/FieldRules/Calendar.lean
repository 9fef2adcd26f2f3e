/-!
# Calendar dates and times of day

Dates of the years 1 to 9999 in the Gregorian calendar, and points in time that
join a date with a time of day to the microsecond and an optional offset from
universal time.  The parts are checked in a fixed order, from the year to the
second, and the first part out of range is named; an offset is checked before
them.
-/

set_option autoImplicit false

namespace FieldRules

/-- A calendar date. -/
structure Date where
  year : Nat
  month : Nat
  day : Nat
  deriving DecidableEq, Repr

/-- A date with a time of day and, where it is known, the offset from universal time in
minutes. -/
structure DateTime where
  date : Date
  hour : Nat
  minute : Nat
  second : Nat
  microsecond : Nat
  offset : Option Int
  deriving DecidableEq, Repr

/-- The part of a date or time that is out of range. -/
inductive CalendarFault where
  | offset (minutes : Int)
  | year (number : Nat)
  | month
  | day
  | hour
  | minute
  | second
  deriving DecidableEq, Repr

/-! ## Written forms -/

/-- A number padded with zeros to a width. -/
def padded (width number : Nat) : String :=
  let digits := Nat.toDigits 10 number
  String.ofList (List.replicate (width - digits.length) '0' ++ digits)

/-- A span of minutes as days, which may be negative, and seconds within a day. -/
def spanText (minutes : Int) : String :=
  let days := minutes / 1440
  let seconds := minutes % 1440 * 60
  let parts := (if days == 0 then [] else ["days=" ++ toString days])
    ++ (if seconds == 0 then [] else ["seconds=" ++ toString seconds])
  "datetime.timedelta(" ++ (if parts.isEmpty then "0" else ", ".intercalate parts) ++ ")"

/-- The wording for a part out of range. -/
def CalendarFault.message : CalendarFault → String
  | .offset minutes =>
    "offset must be a timedelta strictly between -timedelta(hours=24) and timedelta(hours=24), not "
      ++ spanText minutes ++ "."
  | .year number => "year " ++ toString number ++ " is out of range"
  | .month => "month must be in 1..12"
  | .day => "day is out of range for month"
  | .hour => "hour must be in 0..23"
  | .minute => "minute must be in 0..59"
  | .second => "second must be in 0..59"

/-! ## Dates -/

/-- A leap year is divisible by four, and by four hundred if by a hundred. -/
def isLeapYear (year : Nat) : Bool :=
  year % 4 == 0 && (year % 100 != 0 || year % 400 == 0)

/-- The number of days of a month. -/
def daysInMonth (year month : Nat) : Nat :=
  if month == 2 then if isLeapYear year then 29 else 28
  else if month == 4 || month == 6 || month == 9 || month == 11 then 30
  else 31

/-- The date with the given parts, each in its range. -/
def Date.ofParts (year month day : Nat) : Except CalendarFault Date :=
  if year == 0 || 9999 < year then .error (.year year)
  else if month == 0 || 12 < month then .error .month
  else if day == 0 || daysInMonth year month < day then .error .day
  else .ok ⟨year, month, day⟩

/-- The days of the years before a year. -/
def daysBeforeYear (year : Nat) : Nat :=
  let past := year - 1
  past * 365 + past / 4 - past / 100 + past / 400

/-- The number of a date, counted in days. -/
def Date.dayNumber (date : Date) : Nat :=
  let months := (List.range (date.month - 1)).map fun index => daysInMonth date.year (index + 1)
  daysBeforeYear date.year + months.foldl (· + ·) 0 + date.day

/-- Year, month and day with hyphens. -/
def Date.text (date : Date) : String :=
  padded 4 date.year ++ "-" ++ padded 2 date.month ++ "-" ++ padded 2 date.day

/-- The form of a date inside a container. -/
def Date.quoted (date : Date) : String :=
  "datetime.date(" ++ ", ".intercalate
    [toString date.year, toString date.month, toString date.day] ++ ")"

/-! ## Points in time -/

/-- The point in time with the given parts, each in its range. -/
def DateTime.ofParts (year month day hour minute second microsecond : Nat)
    (offset : Option Int) : Except CalendarFault DateTime := do
  if let some minutes := offset then
    if minutes ≤ -1440 || 1440 ≤ minutes then throw (.offset minutes)
  let date ← Date.ofParts year month day
  if 23 < hour then throw .hour
  if 59 < minute then throw .minute
  if 59 < second then throw .second
  return ⟨date, hour, minute, second, microsecond, offset⟩

/-- The microseconds that have passed at a point in time, in universal time if the offset is
known. -/
def DateTime.instant (time : DateTime) : Int :=
  let minutes := (time.date.dayNumber * 24 + time.hour) * 60 + time.minute
  ((minutes - time.offset.getD 0) * 60 + time.second) * 1000000 + time.microsecond

/-- Points in time are the same when they name the same instant; one with and one without an
offset never do. -/
def DateTime.same (left right : DateTime) : Bool :=
  left.offset.isSome == right.offset.isSome && left.instant == right.instant

/-- An offset as a sign, hours and minutes. -/
def offsetText (minutes : Int) : String :=
  (if minutes < 0 then "-" else "+")
    ++ padded 2 (minutes.natAbs / 60) ++ ":" ++ padded 2 (minutes.natAbs % 60)

/-- Date and time with a space between them; microseconds are left out when they are zero. -/
def DateTime.text (time : DateTime) : String :=
  time.date.text ++ " " ++ padded 2 time.hour ++ ":" ++ padded 2 time.minute ++ ":"
    ++ padded 2 time.second
    ++ (if time.microsecond == 0 then "" else "." ++ padded 6 time.microsecond)
    ++ (match time.offset with
      | some minutes => offsetText minutes
      | none => "")

/-- The form of a point in time inside a container: its parts in order, where seconds and
microseconds are left out if nothing but zeros would follow, and its offset. -/
def DateTime.quoted (time : DateTime) : String :=
  let clock :=
    if time.microsecond != 0 then [time.second, time.microsecond]
    else if time.second != 0 then [time.second]
    else []
  let parts := [time.date.year, time.date.month, time.date.day, time.hour, time.minute] ++ clock
  let zone := match time.offset with
    | none => []
    | some 0 => ["tzinfo=datetime.timezone.utc"]
    | some minutes => ["tzinfo=datetime.timezone(" ++ spanText minutes ++ ")"]
  "datetime.datetime(" ++ ", ".intercalate (parts.map toString ++ zone) ++ ")"

end FieldRules
