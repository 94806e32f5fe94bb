import FunctionSynthesis.Fault

/-!
# Days and times

Days of the calendar, times of the day and moments, which are both together and
may say how far they are from the universal time. As values they have only their
class and their texts.
-/

namespace FunctionSynthesis

structure Day where
  year : Nat
  month : Nat
  day : Nat
  deriving DecidableEq

/-- A time of the day, down to millionths of a second. -/
structure TimeOfDay where
  hour : Nat
  minute : Nat
  second : Nat
  micro : Nat
  deriving DecidableEq

/-- A number with at least so many digits. -/
def withDigits (width n : Nat) : String :=
  let digits := toString n
  String.ofList (List.replicate (width - digits.length) '0') ++ digits

namespace Day

def isLeapYear (year : Nat) : Bool :=
  year % 4 = 0 && (year % 100 != 0 || year % 400 = 0)

def daysIn (year month : Nat) : Nat :=
  if month = 2 then (if isLeapYear year then 29 else 28)
  else if [4, 6, 9, 11].contains month then 30
  else 31

/-- What is wrong with a day that is not in the calendar. -/
def complaint? (d : Day) : Option String :=
  if d.year = 0 then some s!"year {d.year} is out of range"
  else if d.month < 1 || 12 < d.month then some "month must be in 1..12"
  else if d.day < 1 || daysIn d.year d.month < d.day then
    some "day is out of range for month"
  else none

def text (d : Day) : String :=
  "-".intercalate [withDigits 4 d.year, withDigits 2 d.month, withDigits 2 d.day]

def toValue (d : Day) : Value :=
  .special "date" d.text s!"datetime.date({d.year}, {d.month}, {d.day})"

end Day

namespace TimeOfDay

/-- What is wrong with a time that no clock shows. -/
def complaint? (t : TimeOfDay) : Option String :=
  if 23 < t.hour then some "hour must be in 0..23"
  else if 59 < t.minute then some "minute must be in 0..59"
  else if 59 < t.second then some "second must be in 0..59"
  else none

/-- The time with a fraction of a second that is given by its digits. -/
def ofDigits (hour minute second : Nat) (fraction : List Char) : TimeOfDay :=
  let places := fraction.take 6
  let zeros := List.replicate (6 - places.length) '0'
  let micro := (places ++ zeros).foldl (fun n c => 10 * n + (c.toNat - 48)) 0
  ⟨hour, minute, second, micro⟩

def text (t : TimeOfDay) : String :=
  let whole := ":".intercalate
    [withDigits 2 t.hour, withDigits 2 t.minute, withDigits 2 t.second]
  if t.micro = 0 then whole else whole ++ "." ++ withDigits 6 t.micro

/-- The numbers of a time; seconds and smaller parts that are nothing are left
out. -/
def parts (t : TimeOfDay) : List String :=
  let small :=
    if t.micro != 0 then [t.second, t.micro]
    else if t.second != 0 then [t.second]
    else []
  ([t.hour, t.minute] ++ small).map toString

def toValue (t : TimeOfDay) : Value :=
  .special "time" t.text
    s!"datetime.time({Value.commaSeparated t.parts})"

end TimeOfDay

/-- A time on a day, with its distance from the universal time in minutes if
that is known. -/
structure Moment where
  day : Day
  time : TimeOfDay
  offset : Option Int
  deriving DecidableEq

namespace Moment

/-- The text of a duration in minutes, as days and seconds. -/
def durationText (minutes : Int) : String :=
  let days := minutes.fdiv 1440
  let seconds := minutes.fmod 1440 * 60
  let named := (if days = 0 then [] else [s!"days={days}"]) ++
    (if seconds = 0 then [] else [s!"seconds={seconds}"])
  s!"datetime.timedelta({Value.commaSeparated named})"

/-- What is wrong with a distance of a day or more. -/
def offsetComplaint? (minutes : Int) : Option String :=
  if minutes.natAbs < 1440 then none
  else some <| "offset must be a timedelta strictly between " ++
    "-timedelta(hours=24) and timedelta(hours=24), not " ++
    s!"{durationText minutes}."

private def offsetText (minutes : Int) : String :=
  let sign := if minutes < 0 then "-" else "+"
  let n := minutes.natAbs
  s!"{sign}{withDigits 2 (n / 60)}:{withDigits 2 (n % 60)}"

private def zoneText (minutes : Int) : String :=
  if minutes = 0 then "datetime.timezone.utc"
  else s!"datetime.timezone({durationText minutes})"

def toValue (m : Moment) : Value :=
  let date := [m.day.year, m.day.month, m.day.day].map toString
  let zone := m.offset.toList.map fun n => s!"tzinfo={zoneText n}"
  .special "datetime"
    (s!"{m.day.text} {m.time.text}" ++ m.offset.elim "" offsetText)
    s!"datetime.datetime({Value.commaSeparated (date ++ m.time.parts ++ zone)})"

end Moment

end FunctionSynthesis
