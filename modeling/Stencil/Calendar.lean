import Stencil.Number.Layout
import Stencil.Number.Numeral

/-!
# Dates and moments

A date is a day of the Gregorian calendar in the years 1 to 9999; a moment is a date with a time of
day and, if it is known, the offset from universal time.  `Date.make` and `Moment.make` build only
those that exist and otherwise name the first field at fault.
-/

namespace Stencil.Calendar

/-! ## Dates -/

/-- Why a date or a moment does not exist. -/
inductive Fault where
  | year (n : Nat)
  | month
  | day
  | hour
  | minute
  | second
  /-- The offset, in microseconds, reaches a full day. -/
  | offset (microseconds : Int)
deriving DecidableEq, Repr

/-- A day of the calendar. -/
structure Date where
  year : Nat
  month : Nat
  day : Nat
deriving DecidableEq, Repr, Inhabited

/-- Whether a year has a leap day. -/
def isLeap (year : Nat) : Bool := year % 4 = 0 && (year % 100 ≠ 0 || year % 400 = 0)

/-- The number of days of a month. -/
def daysInMonth (year month : Nat) : Nat :=
  if month = 2 then if isLeap year then 29 else 28
  else if month = 4 || month = 6 || month = 9 || month = 11 then 30
  else 31

/-- The date with the given fields, if it exists. -/
def Date.make (year month day : Nat) : Except Fault Date :=
  if year = 0 || 9999 < year then .error (.year year)
  else if month = 0 || 12 < month then .error .month
  else if day = 0 || daysInMonth year month < day then .error .day
  else .ok ⟨year, month, day⟩

/-- The first day of the calendar. -/
def Date.first : Date := ⟨1, 1, 1⟩

/-- The last day of the calendar. -/
def Date.last : Date := ⟨9999, 12, 31⟩

/-- A number in decimal with zeros before it up to a width. -/
def padded (width n : Nat) : Text := Number.Layout.padZeros width (Nat.toDigits 10 n)

/-- A date in the form 2024-02-29. -/
def Date.text (d : Date) : Text :=
  padded 4 d.year ++ "-" ++ padded 2 d.month ++ "-" ++ padded 2 d.day

/-- The number of days before a date, counted from the first day of the calendar. -/
def Date.ordinal (d : Date) : Nat :=
  let years := d.year - 1
  let days := years * 365 + years / 4 - years / 100 + years / 400
  (List.range (d.month - 1)).foldl (fun n m => n + daysInMonth d.year (m + 1)) days + d.day - 1

/-! ## Durations and offsets -/

/-- The microseconds of a second, and of a day. -/
def perSecond : Nat := 1000000

/-- The microseconds of a day. -/
def perDay : Nat := 86400 * perSecond

/-- A list of terms, with commas between them. -/
def listed (terms : List Text) : Text := Text.join ", " terms

/-- The days of a duration of so many microseconds; they may be negative. -/
def durationDays (microseconds : Int) : Int := microseconds.fdiv perDay

/-- The whole seconds of a duration beyond its days, which are never negative. -/
def durationSeconds (microseconds : Int) : Nat := (microseconds.fmod perDay).toNat / perSecond

/-- The microseconds of a duration beyond its seconds. -/
def durationMicroseconds (microseconds : Int) : Nat :=
  (microseconds.fmod perDay).toNat % perSecond

/-- The constructor form of a duration; terms that are zero are left out. -/
def durationForm (microseconds : Int) : Text :=
  let days := durationDays microseconds
  let seconds := durationSeconds microseconds
  let micros := durationMicroseconds microseconds
  let terms : List Text :=
    (if days = 0 then [] else ["days=" ++ Number.digits days])
      ++ (if seconds = 0 then [] else ["seconds=" ++ Nat.toDigits 10 seconds])
      ++ (if micros = 0 then [] else ["microseconds=" ++ Nat.toDigits 10 micros])
  "datetime.timedelta(" ++ (if terms.isEmpty then ("0" : Text) else listed terms) ++ ")"

/-- A duration in the form 2 days, 0:30:00, with microseconds only where there are some. -/
def durationText (microseconds : Int) : Text :=
  let days := durationDays microseconds
  let seconds := durationSeconds microseconds
  let micros := durationMicroseconds microseconds
  (if days = 0 then ([] : Text)
    else Number.digits days ++ (if days.natAbs = 1 then " day, " else " days, "))
    ++ Nat.toDigits 10 (seconds / 3600) ++ ":" ++ padded 2 (seconds / 60 % 60) ++ ":"
    ++ padded 2 (seconds % 60) ++ (if micros = 0 then [] else '.' :: padded 6 micros)

/-- The most days that a duration can have. -/
def greatestDays : Nat := 999999999

/-- The shortest duration. -/
def leastDuration : Int := -(greatestDays * perDay : Nat)

/-- The longest duration. -/
def greatestDuration : Int := ((greatestDays + 1) * perDay : Nat) - 1

/-- The greatest offset of a time zone: one minute less than a day. -/
def greatestOffset : Int := (perDay - 60 * perSecond : Nat)

/-- An offset in the form +05:30, with seconds and microseconds only where there are some. -/
def offsetText (microseconds : Int) : Text :=
  let magnitude := microseconds.natAbs
  let seconds := magnitude / perSecond
  let micros := magnitude % perSecond
  (if microseconds < 0 then ['-'] else ['+']) ++ padded 2 (seconds / 3600) ++ ":"
    ++ padded 2 (seconds / 60 % 60)
    ++ (if seconds % 60 = 0 && micros = 0 then [] else ':' :: padded 2 (seconds % 60))
    ++ (if micros = 0 then [] else '.' :: padded 6 micros)

/-- The name of the zone at an offset. -/
def zoneText (offset : Int) : Text := if offset = 0 then "UTC" else "UTC" ++ offsetText offset

/-- The constructor form of the zone at an offset. -/
def zoneForm (offset : Int) : Text :=
  if offset = 0 then "datetime.timezone.utc"
  else "datetime.timezone(" ++ durationForm offset ++ ")"

/-! ## Moments -/

/-- A date with a time of day and perhaps an offset from universal time, in microseconds. -/
structure Moment where
  date : Date
  hour : Nat
  minute : Nat
  second : Nat
  microsecond : Nat
  offset : Option Int
deriving DecidableEq, Repr, Inhabited

/-- Whether an offset is shorter than a day. -/
def checkOffset (offset : Int) : Except Fault Int :=
  if perDay ≤ offset.natAbs then .error (.offset offset) else .ok offset

/-- The moment with the given fields, if it exists.  The offset is looked at first, then the date,
then the time of day. -/
def Moment.make (year month day hour minute second microsecond : Nat) (offset : Option Int) :
    Except Fault Moment := do
  let offset ← offset.mapM checkOffset
  let date ← Date.make year month day
  if 24 ≤ hour then .error .hour
  else if 60 ≤ minute then .error .minute
  else if 60 ≤ second then .error .second
  else .ok ⟨date, hour, minute, second, microsecond, offset⟩

/-- The first moment of the calendar. -/
def Moment.first : Moment := ⟨.first, 0, 0, 0, 0, none⟩

/-- The last moment of the calendar. -/
def Moment.last : Moment := ⟨.last, 23, 59, 59, 999999, none⟩

/-- The time of day, with microseconds where there are some, and the offset where it is known. -/
def Moment.timeText (m : Moment) (offset : Int → Text) : Text :=
  padded 2 m.hour ++ ":" ++ padded 2 m.minute ++ ":" ++ padded 2 m.second
    ++ (if m.microsecond = 0 then [] else '.' :: padded 6 m.microsecond)
    ++ (m.offset.map offset).getD []

/-- A moment, with a mark between the date and the time of day. -/
def Moment.text (m : Moment) (mark : Char) : Text :=
  m.date.text ++ mark :: m.timeText offsetText

/-- The constructor form of a date. -/
def Date.form (d : Date) : Text :=
  "datetime.date(" ++ listed ([d.year, d.month, d.day].map (Nat.toDigits 10)) ++ ")"

/-- The constructor form of a moment: seconds and microseconds are left out when nothing follows
them but zeros. -/
def Moment.form (m : Moment) : Text :=
  let tail := if m.microsecond ≠ 0 then [m.second, m.microsecond]
    else if m.second ≠ 0 then [m.second] else []
  let fields := [m.date.year, m.date.month, m.date.day, m.hour, m.minute] ++ tail
  let zone := (m.offset.map fun o => ["tzinfo=" ++ zoneForm o]).getD []
  "datetime.datetime(" ++ listed (fields.map (Nat.toDigits 10) ++ zone) ++ ")"

/-- The microseconds from the beginning of the calendar, in universal time where the offset is
known. -/
def Moment.instant (m : Moment) : Int :=
  ((m.date.ordinal * 86400 + m.hour * 3600 + m.minute * 60 + m.second) * perSecond
    + m.microsecond : Nat) - m.offset.getD 0

/-- Whether two moments are the same instant.  One with and one without a known offset never
are. -/
def Moment.same (a b : Moment) : Bool := a.offset.isSome = b.offset.isSome && a.instant = b.instant

/-- The wording of a fault. -/
def Fault.message : Fault → Text
  | .year n => "year " ++ Nat.toDigits 10 n ++ " is out of range"
  | .month => "month must be in 1..12"
  | .day => "day is out of range for month"
  | .hour => "hour must be in 0..23"
  | .minute => "minute must be in 0..59"
  | .second => "second must be in 0..59"
  | .offset microseconds =>
    "offset must be a timedelta strictly between -timedelta(hours=24) and timedelta(hours=24), not "
      ++ durationForm microseconds ++ "."

/-! ## Reading -/

/-- Reads exactly `width` ASCII digits. -/
def takeDigits? (width : Nat) (t : Text) : Option (Nat × Text) :=
  let digits := t.take width
  if digits.length = width && digits.all Number.isAsciiDigit then
    some (Number.digitsValue digits, t.drop width)
  else none

/-- Reads a date in the form 2024-02-29. -/
def readDate? (t : Text) : Option (Date × Text) := do
  let (year, rest) ← takeDigits? 4 t
  let (month, rest) ← takeDigits? 2 (← Text.after? ['-'] rest)
  let (day, rest) ← takeDigits? 2 (← Text.after? ['-'] rest)
  return (← (Date.make year month day).toOption, rest)

/-- Reads a fraction of a second in microseconds; digits beyond the sixth are dropped. -/
def readFraction (t : Text) : Nat × Text :=
  match t with
  | '.' :: rest =>
    let digits := rest.takeWhile Number.isAsciiDigit
    (Number.digitsValue ((digits ++ List.replicate 6 '0').take 6),
      rest.dropWhile Number.isAsciiDigit)
  | rest => (0, rest)

/-- Reads a time of day, of which minutes and seconds may be missing: the hour, the minute, the
second and the microsecond. -/
def readTime? (t : Text) : Option (Nat × Nat × Nat × Nat × Text) := do
  let (hour, rest) ← takeDigits? 2 t
  match rest with
  | ':' :: rest =>
    let (minute, rest) ← takeDigits? 2 rest
    match rest with
    | ':' :: rest =>
      let (second, rest) ← takeDigits? 2 rest
      let (micros, rest) := readFraction rest
      return (hour, minute, second, micros, rest)
    | rest => return (hour, minute, 0, 0, rest)
  | rest => return (hour, 0, 0, 0, rest)

/-- Reads the offset at the end of a moment: nothing, a `Z`, or a signed time. -/
def readOffset? : Text → Option (Option Int)
  | [] => some none
  | ['Z'] => some (some 0)
  | sign :: rest => do
    let (hour, minute, second, micros, rest) ← readTime? rest
    guard (rest.isEmpty && (sign = '+' || sign = '-'))
    return some (Number.signed (sign = '-')
      ((hour * 3600 + minute * 60 + second) * perSecond + micros))

/-- Reads a moment: a date, any one character, a time of day and perhaps an offset.  The date
alone is its midnight. -/
def readMoment? (t : Text) : Option Moment := do
  let (date, rest) ← readDate? t
  match rest with
  | [] => return ⟨date, 0, 0, 0, 0, none⟩
  | _ :: rest =>
    let (hour, minute, second, micros, rest) ← readTime? rest
    let offset ← readOffset? rest
    (Moment.make date.year date.month date.day hour minute second micros offset).toOption

example : (readMoment? "2024-02-29T01:02:03+05:30".toList).map (Moment.text · ' ')
    = some "2024-02-29 01:02:03+05:30".toList := by decide +kernel

end Stencil.Calendar
