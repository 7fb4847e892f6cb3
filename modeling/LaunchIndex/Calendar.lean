import LaunchIndex.Text

/-! Dates and times of day. Years are counted from one to 9999 in four digits; the checks come in
the order year, month, day, hour, minute, second, and the first that fails is the flaw. A
distance from universal time is less than a day. -/

namespace LaunchIndex.Calendar

/-- What keeps numbers from being a date and time. -/
inductive Flaw where
  | year (year : Nat)
  | month
  | day
  | hour
  | minute
  | second
  | offset (seconds : Int)
deriving DecidableEq, Repr

def isLeap (year : Nat) : Bool := year % 4 == 0 && (year % 100 != 0 || year % 400 == 0)

def daysIn (year month : Nat) : Nat :=
  if month = 2 then (if isLeap year then 29 else 28)
  else if month = 4 ∨ month = 6 ∨ month = 9 ∨ month = 11 then 30 else 31

structure Date where
  year : Nat
  month : Nat
  day : Nat
deriving DecidableEq, Repr

/-- A time of day, with its distance from universal time in seconds if that is known. -/
structure Time where
  hour : Nat
  minute : Nat
  second : Nat
  microsecond : Nat := 0
  offset : Option Int := none
deriving DecidableEq, Repr

def Date.flaw? (d : Date) : Option Flaw :=
  if d.year = 0 then some (.year d.year)
  else if d.month = 0 ∨ 12 < d.month then some .month
  else if d.day = 0 ∨ daysIn d.year d.month < d.day then some .day
  else none

def Time.flaw? (t : Time) : Option Flaw :=
  if 23 < t.hour then some .hour
  else if 59 < t.minute then some .minute
  else if 59 < t.second then some .second
  else none

def daySeconds : Int := 86400

/-- A date with a time of day, or a date alone. -/
structure Moment where
  date : Date
  time : Option Time := none
deriving DecidableEq, Repr

/-- The first flaw; the distance from universal time is looked at before everything else. -/
def Moment.flaw? (m : Moment) : Option Flaw :=
  match m.time with
  | none => m.date.flaw?
  | some t =>
    match t.offset with
    | some seconds =>
      if seconds.natAbs < daySeconds.natAbs then m.date.flaw?.or t.flaw?
      else some (.offset seconds)
    | none => m.date.flaw?.or t.flaw?

/-- The count of days from the first day of year one to a date. -/
def Date.ordinal (d : Date) : Nat :=
  let years := d.year - 1
  let months := (List.range (d.month - 1)).map fun m => daysIn d.year (m + 1)
  years * 365 + years / 4 - years / 100 + years / 400 + months.foldl (· + ·) 0 + d.day - 1

/-- The microseconds from the beginning of year one to a moment in universal time, if its distance
from that is known. -/
def Moment.instant? (m : Moment) : Option Int :=
  m.time.bind fun t => t.offset.map fun offset =>
    let seconds : Int := (m.date.ordinal * 24 + t.hour) * 3600 + t.minute * 60 + t.second
    (seconds - offset) * 1000000 + t.microsecond

/-- Whether two moments are the same: those whose distances from universal time are known if they
are the same instant, others if their numbers agree. -/
def Moment.isSame (m n : Moment) : Bool :=
  match m.instant?, n.instant? with
  | some i, some j => i == j
  | none, none => decide (m = n)
  | _, _ => false

/-! ### Text -/

/-- Named parts of a value, those that are zero left out. -/
def namedParts (parts : List (String × Int)) : Text :=
  Text.join ", " ((parts.filter fun p => p.2 != 0).map fun p =>
    Text.ofString p.1 ++ CodePoint.ofChar '=' :: Text.ofInt p.2)

/-- A length of time in days and seconds, the seconds not negative. -/
def durationText (seconds : Int) : Text :=
  let parts :=
    namedParts
      [("days", Int.fdiv seconds daySeconds), ("seconds", Int.fmod seconds daySeconds)]
  Text.ofString "datetime.timedelta(" ++ (if parts = [] then Text.ofString "0" else parts) ++
    Text.ofString ")"

def offsetText (seconds : Int) : Text :=
  if seconds = 0 then "datetime.timezone.utc"
  else Text.ofString "datetime.timezone(" ++ durationText seconds ++ Text.ofString ")"

/-- A time of day in numbers; seconds and parts of seconds are left out where nothing but zeros
would follow. -/
def Time.numbers (t : Time) : List Nat :=
  if t.microsecond = 0 then
    if t.second = 0 then [t.hour, t.minute] else [t.hour, t.minute, t.second]
  else [t.hour, t.minute, t.second, t.microsecond]

def Moment.quoted (m : Moment) : Text :=
  let numbers (ns : List Nat) : List Text := ns.map Text.ofNat
  let date := numbers [m.date.year, m.date.month, m.date.day]
  match m.time with
  | none => Text.ofString "datetime.date(" ++ Text.join ", " date ++ Text.ofString ")"
  | some t =>
    let zone :=
      match t.offset with
      | some seconds => [Text.ofString "tzinfo=" ++ offsetText seconds]
      | none => []
    Text.ofString "datetime.datetime(" ++ Text.join ", " (date ++ numbers t.numbers ++ zone) ++
      Text.ofString ")"

def Flaw.message : Flaw → Text
  | year y => Text.ofString "year " ++ Text.ofNat y ++ Text.ofString " is out of range"
  | month => "month must be in 1..12"
  | day => "day is out of range for month"
  | hour => "hour must be in 0..23"
  | minute => "minute must be in 0..59"
  | second => "second must be in 0..59"
  | offset seconds =>
    Text.ofString "offset must be a timedelta strictly between -timedelta(hours=24) and " ++
      Text.ofString "timedelta(hours=24), not " ++ durationText seconds ++ Text.ofString "."

end LaunchIndex.Calendar
