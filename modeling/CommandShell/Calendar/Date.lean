/-! # Dates

The Gregorian calendar, extended to all years. `Date.ofDays` counts days from the first of January
1970. Years are taken to begin in March, so that the leap day is the last of its year, and 400 of
them, an era, always have as many days. -/

namespace CommandShell

structure Date where
  year : Int
  month : Nat
  day : Nat
deriving DecidableEq, Repr

namespace Date

def isLeap (year : Int) : Bool := year % 4 == 0 && (year % 100 != 0 || year % 400 == 0)

def daysInMonth (year : Int) (month : Nat) : Nat :=
  if month = 2 then if isLeap year then 29 else 28
  else if month = 4 ∨ month = 6 ∨ month = 9 ∨ month = 11 then 30
  else 31

/-- The days of an era. -/
def eraDays : Int := 146097

/-- The days from the first of March of the year zero to the first of January 1970. -/
def epochDays : Int := 719468

/-- The year within an era of a day within it. -/
def yearOfEra (day : Int) : Int := (day - day / 1460 + day / 36524 - day / 146096) / 365

/-- The days of an era before one of its years. -/
def daysBeforeYear (year : Int) : Int := 365 * year + year / 4 - year / 100

/-- The days of a year before one of its months, the first month being March. -/
def daysBeforeMonth (month : Int) : Int := (153 * month + 2) / 5

/-- The date `days` days after the first of January 1970. -/
def ofDays (days : Int) : Date :=
  let shifted := days + epochDays
  let era := shifted / eraDays
  let dayOfEra := shifted % eraDays
  let year := yearOfEra dayOfEra
  let dayOfYear := dayOfEra - daysBeforeYear year
  let month := (5 * dayOfYear + 2) / 153
  let day := dayOfYear - daysBeforeMonth month + 1
  let isNextYear := 10 ≤ month
  { year := era * 400 + year + if isNextYear then 1 else 0
    month := (if isNextYear then month - 9 else month + 3).toNat
    day := day.toNat }

/-- The days from the first of January 1970 to a date. -/
def toDays (d : Date) : Int :=
  let early := d.month ≤ 2
  let year := d.year - if early then 1 else 0
  let month : Int := if early then d.month + 9 else d.month - 3
  year / 400 * eraDays + daysBeforeYear (year % 400) + daysBeforeMonth month + (d.day - 1)
    - epochDays

/-- The day of the year, from one on. -/
def dayOfYear (d : Date) : Nat := (d.toDays - toDays ⟨d.year, 1, 1⟩ + 1).toNat

/-- The day of the week, from Sunday as zero on. -/
def weekday (d : Date) : Nat := ((d.toDays + 4) % 7).toNat

end Date

end CommandShell
