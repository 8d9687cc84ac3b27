import SchemaMigration.Text.Basic
import SchemaMigration.Text.Digit

/-!
# Dates and times

A configuration may hold a date, or a date with a time of day and the distance of that from
universal time.

## Main Definitions

* `Timestamp` - a date, perhaps with a time
* `Timestamp.fault?` - why no calendar or clock shows a timestamp
* `Timestamp.same` - whether two timestamps are the same moment
* `Timestamp.text`, `Timestamp.describe` - a timestamp as a text, and as messages show it
-/

namespace SchemaMigration

open Text

/-- A time of day, with its distance from universal time in minutes, if that is known. -/
structure TimeOfDay where
  hour : Nat
  minute : Nat
  second : Nat
  microsecond : Nat
  offset : Option Int
  deriving DecidableEq

/-- A date, perhaps with a time of day. -/
structure Timestamp where
  year : Nat
  month : Nat
  day : Nat
  time : Option TimeOfDay
  deriving DecidableEq

namespace Timestamp

/-- The number of days of a month. -/
def daysOfMonth (year month : Nat) : Nat :=
  if month = 2 then
    if year % 4 = 0 && (year % 100 != 0 || year % 400 = 0) then 29 else 28
  else if month = 4 || month = 6 || month = 9 || month = 11 then 30
  else 31

/-- A distance from universal time as messages show it, in days and seconds. -/
def describeDistance (minutes : Int) : Text :=
  let seconds := 60 * minutes
  let days := Int.fdiv seconds 86400
  let rest := Int.fmod seconds 86400
  let shown :=
    (if days = 0 then [] else ["days=".toList ++ ofInt days]) ++
    (if rest = 0 then [] else ["seconds=".toList ++ ofInt rest])
  "datetime.timedelta(" ++ (if shown.isEmpty then "0".toList else join ", " shown) ++ ")"

/-- Why no calendar or clock shows a timestamp, if none does. -/
def fault? (stamp : Timestamp) : Option Text :=
  let daysAway := fun (time : TimeOfDay) =>
    time.offset.bind fun minutes => if minutes.natAbs < 1440 then none else some minutes
  match stamp.time.bind daysAway with
  | some minutes => some ("offset must be a timedelta strictly between " ++
      "-timedelta(hours=24) and timedelta(hours=24), not ".toList ++ describeDistance minutes ++
      ".".toList)
  | none =>
    if stamp.year = 0 then some "year 0 is out of range"
    else if stamp.month < 1 || 12 < stamp.month then some "month must be in 1..12"
    else if stamp.day < 1 || daysOfMonth stamp.year stamp.month < stamp.day then
      some "day is out of range for month"
    else stamp.time.bind fun time =>
      if 23 < time.hour then some "hour must be in 0..23"
      else if 59 < time.minute then some "minute must be in 0..59"
      else if 59 < time.second then some "second must be in 0..59"
      else none

/-- The number of days in front of a date since the beginning of the calendar. -/
def dayNumber (stamp : Timestamp) : Nat :=
  let years := stamp.year - 1
  let months := (List.range (stamp.month - 1)).map (· + 1)
  let ofMonths := months.foldl (fun days month => days + daysOfMonth stamp.year month) 0
  365 * years + years / 4 - years / 100 + years / 400 + ofMonths + (stamp.day - 1)

/-- The microseconds in universal time since the beginning of the calendar, where the distance
from universal time is known. -/
def instant? (stamp : Timestamp) : Option Int := do
  let time ← stamp.time
  let offset ← time.offset
  let minutes : Int := 1440 * stamp.dayNumber + 60 * time.hour + time.minute
  return 1000000 * (60 * (minutes - offset) + time.second) + time.microsecond

/-- Whether two timestamps are the same moment. A date is no moment of that day, and a time
whose distance from universal time is known is none of those where it is not. -/
def same (a b : Timestamp) : Bool :=
  match a.instant?, b.instant? with
  | some m, some n => m == n
  | none, none => a == b
  | _, _ => false

/-- A number with zeros in front, so that it has at least so many digits. -/
def padded (width n : Nat) : Text :=
  List.replicate (width - (ofNat n).length) '0' ++ ofNat n

/-- A timestamp as a text. -/
def text (stamp : Timestamp) : Text :=
  let date := join "-" [padded 4 stamp.year, padded 2 stamp.month, padded 2 stamp.day]
  match stamp.time with
  | none => date
  | some time =>
    let fraction : Text :=
      if time.microsecond = 0 then [] else '.' :: padded 6 time.microsecond
    let offset : Text := match time.offset with
      | none => []
      | some minutes =>
        (if minutes < 0 then '-' else '+') :: padded 2 (minutes.natAbs / 60) ++
          ":".toList ++ padded 2 (minutes.natAbs % 60)
    date ++ " ".toList ++
      join ":" [padded 2 time.hour, padded 2 time.minute, padded 2 time.second] ++
      fraction ++ offset

/-- A timestamp as messages show it. -/
def describe (stamp : Timestamp) : Text :=
  let date := [stamp.year, stamp.month, stamp.day]
  match stamp.time with
  | none => "datetime.date(" ++ join ", " (date.map ofNat) ++ ")"
  | some time =>
    let fine :=
      if time.microsecond != 0 then [time.second, time.microsecond]
      else if time.second != 0 then [time.second]
      else []
    let zone := match time.offset with
      | none => []
      | some 0 => ["tzinfo=datetime.timezone.utc".toList]
      | some minutes => ["tzinfo=datetime.timezone(".toList ++ describeDistance minutes ++ ")"]
    "datetime.datetime(" ++
      join ", " ((date ++ [time.hour, time.minute] ++ fine).map ofNat ++ zone) ++ ")"

end Timestamp

end SchemaMigration
