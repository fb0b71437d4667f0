import CommandShell.Calendar.Date
import CommandShell.Number.Arithmetic

/-! # Moments

A moment is a date and a time of day in universal time. `Moment.ofMillis` finds the one that lies so
many milliseconds after the start of 1970, for times from the second day of the year 1 to the end of
the year 9999. -/

namespace CommandShell

structure Moment where
  date : Date
  hour : Nat
  minute : Nat
  second : Nat
  micros : Nat
deriving DecidableEq, Repr

/-- Why a time is no moment: its year is out of range, its seconds do not fit into 64 bits, the
years do not fit into 32 bits, or the seconds are no finite number. -/
inductive MomentFault where
  | year (n : Int)
  | seconds
  | calendar
  | quotient
deriving DecidableEq, Repr

def MomentFault.message : MomentFault → String
  | .year n => s!"year {n} is out of range"
  | .seconds => "timestamp out of range for platform time_t"
  | .calendar => "[Errno 75] Value too large for defined data type"
  | .quotient => "integer division result too large for a float"

namespace Moment

def secondsPerDay : Int := 86400

/-- The second in which the first accepted moment lies, the start of the second day of the year 1. -/
def firstSecond : Int := -62135510400

/-- The last second of the year 9999. -/
def lastSecond : Int := 253402300799

/-- The seconds that milliseconds make up, as a floating-point number. -/
def quotient (millis : Int) : Binary64 := .nearest (millis < 0) millis.natAbs 1000

/-- The integer nearest to a fraction, a tie going to the even one. -/
def roundHalfEven (q : Rat) : Int :=
  let n : Int := roundDiv q.num.natAbs q.den
  if q < 0 then -n else n

/-- A number of seconds as whole seconds and microseconds. The places after the point are rounded to
microseconds, and what makes up a second there goes over to the whole ones. -/
def split? (seconds : Binary64) : Option (Int × Nat) := do
  let exact ← seconds.toRat?
  let whole ← seconds.truncate?
  let micros ← (Binary64.ofRat ((exact - whole) * 1000000)).toRat?
  let rounded := roundHalfEven micros
  return (whole + rounded / 1000000, (rounded % 1000000).toNat)

/-- The moment a number of seconds after the start of 1970. -/
def ofSeconds (seconds : Int) (micros : Nat) : Moment :=
  let time := (seconds % secondsPerDay).toNat
  { date := Date.ofDays (seconds / secondsPerDay)
    hour := time / 3600
    minute := time / 60 % 60
    second := time % 60
    micros }

/-- Seconds from this on, two to the power of 63, do not count. -/
def secondEnd : Int := 0x8000000000000000

/-- Why the moment of some milliseconds is out of range. -/
def faultOf (millis : Int) : MomentFault :=
  match (quotient millis).toRat? with
  | none => .quotient
  | some q =>
    let second := q.floor
    let whole := if q < 0 then -((-q).floor) else second
    if whole < -secondEnd ∨ secondEnd ≤ whole then .seconds
    else
      let year := (Date.ofDays (second / secondsPerDay)).year
      if 2147485547 < year ∨ year < -2147481748 then .calendar
      else if year < 1 ∨ 9999 < year then .year year
      else .year (Date.ofDays (second / secondsPerDay - 1)).year

/-- The moment `millis` milliseconds after the start of 1970. -/
def ofMillis (millis : Int) : Except MomentFault Moment :=
  match split? (quotient millis) with
  | some (seconds, micros) =>
    if firstSecond ≤ seconds ∧ seconds ≤ lastSecond then .ok (ofSeconds seconds micros)
    else .error (faultOf millis)
  | none => .error (faultOf millis)

/-- The seconds from the start of 1970. -/
def toSeconds (m : Moment) : Int :=
  m.date.toDays * secondsPerDay + (m.hour * 3600 + m.minute * 60 + m.second : Nat)

end Moment

end CommandShell
