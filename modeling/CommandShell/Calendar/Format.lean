import CommandShell.Calendar.Moment
import CommandShell.Text.Case

/-! # Formats of moments

A format is a text in which a percent sign and a letter stand for a part of a moment. Between the two
there may be flags, a width, and a modifier that changes nothing. `Moment.format` writes a moment by
a format. -/

namespace CommandShell.Moment

def dayNames : List String :=
  ["Sunday", "Monday", "Tuesday", "Wednesday", "Thursday", "Friday", "Saturday"]

def monthNames : List String :=
  ["January", "February", "March", "April", "May", "June", "July", "August", "September", "October",
   "November", "December"]

/-- What stands between a percent sign and its letter. -/
structure Conversion where
  /-- the last of the flags that choose the filling -/
  fill : Option Char := none
  upper : Bool := false
  swap : Bool := false
  width : Option Nat := none
  modifier : Option Char := none
  letter : Option Char := none
  /-- the conversion as it is written -/
  written : List Char := []

/-- Flags choose the filling (underscore, dash, zero) or the case (caret, number sign). -/
def readFlags (c : Conversion) : List Char → Conversion × List Char
  | [] => (c, [])
  | d :: r =>
    if d == '_' || d == '-' || d == '0' then readFlags { c with fill := some d } r
    else if d == '^' then readFlags { c with upper := true } r
    else if d == '#' then readFlags { c with swap := true } r
    else (c, d :: r)

/-- The conversion from behind its percent sign, and what follows it. Widths are cut at `cap`. -/
def readConversion (cap : Nat) (cs : List Char) : Conversion × List Char :=
  let (c, r) := readFlags {} cs
  let digits := r.takeWhile Char.isDigit
  let width := digits.foldl (fun n d => min cap (10 * n + (d.toNat - 48))) 0
  let c := if digits.isEmpty then c else { c with width := some width }
  let r := r.drop digits.length
  let (c, r) := match r with
    | m :: r' => if m == 'E' || m == 'O' then ({ c with modifier := some m }, r') else (c, r)
    | [] => (c, r)
  let rest := r.drop 1
  let start : List Char := if r.head? == some '%' then [] else ['%']
  let tail := cs.take (cs.length - rest.length)
  ({ c with letter := r.head?, written := if start.isEmpty then ['%'] else start ++ tail }, rest)

/-- The text filled up to the width of the conversion. -/
def Conversion.text (c : Conversion) (cs : List Char) : List Char :=
  List.replicate (c.width.getD 0 - cs.length) (if c.fill == some '0' then '0' else ' ') ++ cs

/-- A name, in the case that the flags ask for. -/
def Conversion.name (c : Conversion) (s : String) (swapped : Char → Char) : List Char :=
  let cs := s.toList
  c.text (if c.swap then cs.map swapped else if c.upper then cs.map Text.upperChar else cs)

/-- A number of at least so many digits; without a flag zeros fill it, or spaces where `spaces`
says so. -/
def Conversion.number (c : Conversion) (digits : Nat) (spaces : Bool) (n : Int) : List Char :=
  let cs := (toString n).toList
  let fill := c.fill.getD (if spaces then '_' else '0')
  let least := if fill == '-' then 0 else digits
  let filler := if fill == '0' then '0' else ' '
  List.replicate (max least (c.width.getD 0) - cs.length) filler ++ cs

/-- The hours of a clock with twelve of them. -/
def hour12 (m : Moment) : Nat := if m.hour % 12 = 0 then 12 else m.hour % 12

/-- The day of the year from zero on. -/
def yearDay (m : Moment) : Int := m.date.dayOfYear - 1

/-- The days from the Monday of the first week of a year, which holds its first Thursday. -/
def isoDays (yearDay weekday : Int) : Int :=
  yearDay - (yearDay - weekday + 382) % 7 + 3

def yearLength (year : Int) : Int := if Date.isLeap year then 366 else 365

/-- The year that a moment's week belongs to, and the number of the week. -/
def isoWeek (m : Moment) : Int × Int :=
  let day := m.yearDay
  let weekday : Int := m.date.weekday
  let year := m.date.year
  let here := isoDays day weekday
  if here < 0 then (year - 1, isoDays (day + yearLength (year - 1)) weekday / 7 + 1)
  else
    let next := isoDays (day - yearLength year) weekday
    if 0 ≤ next then (year + 1, next / 7 + 1) else (year, here / 7 + 1)

/-- The formats that some letters stand for. -/
def composite? : Char → Option String
  | 'c' => some "%a %b %e %H:%M:%S %Y"
  | 'D' => some "%m/%d/%y"
  | 'x' => some "%m/%d/%y"
  | 'F' => some "%Y-%m-%d"
  | 'R' => some "%H:%M"
  | 'r' => some "%I:%M:%S %p"
  | 'T' => some "%H:%M:%S"
  | 'X' => some "%H:%M:%S"
  | _ => none

/-- The modifiers that a letter does not take. -/
def refuses : Char → List Char
  | 'x' | 'X' | 'c' | 'Y' => ['O']
  | 'n' | 't' | 'P' | 'p' | 'R' | 'r' | 's' | 'T' | 'u' | 'z' | 'Z' | 'C' | 'y' => []
  | '%' | 'a' | 'A' | 'D' | 'F' => ['E', 'O']
  | _ => ['E']

/-- The part of a moment that a letter stands for, and nothing for an unknown one. -/
def part? (m : Moment) (c : Conversion) (letter : Char) : Option (List Char) :=
  let weekday := m.date.weekday
  let day := dayNames.getD weekday ""
  let month := monthNames.getD (m.date.month - 1) ""
  let half := if 12 ≤ m.hour then "PM" else "AM"
  match letter with
  | '%' => some (c.text ['%'])
  | 'n' => some (c.text ['\n'])
  | 't' => some (c.text ['\t'])
  | 'a' => some (c.name (day.take 3).toString Text.upperChar)
  | 'A' => some (c.name day Text.upperChar)
  | 'b' | 'h' => some (c.name (month.take 3).toString Text.upperChar)
  | 'B' => some (c.name month Text.upperChar)
  | 'p' => some (c.name half Text.lowerChar)
  | 'P' => some (c.text (half.toList.map Text.lowerChar))
  | 'C' => some (c.number 1 false (m.date.year / 100))
  | 'd' => some (c.number 2 false m.date.day)
  | 'e' => some (c.number 2 true m.date.day)
  | 'H' => some (c.number 2 false m.hour)
  | 'I' => some (c.number 2 false m.hour12)
  | 'k' => some (c.number 2 true m.hour)
  | 'l' => some (c.number 2 true m.hour12)
  | 'j' => some (c.number 3 false m.date.dayOfYear)
  | 'M' => some (c.number 2 false m.minute)
  | 'm' => some (c.number 2 false m.date.month)
  | 'S' => some (c.number 2 false m.second)
  | 's' => some (c.number 1 true m.toSeconds)
  | 'u' => some (c.number 1 false (if weekday = 0 then 7 else weekday))
  | 'w' => some (c.number 1 false weekday)
  | 'U' => some (c.number 2 false ((m.yearDay - weekday + 7) / 7))
  | 'W' => some (c.number 2 false ((m.yearDay - (weekday + 6) % 7 + 7) / 7))
  | 'V' => some (c.number 2 false m.isoWeek.2)
  | 'G' => some (c.number 1 false m.isoWeek.1)
  | 'g' => some (c.number 2 false (m.isoWeek.1 % 100))
  | 'Y' => some (c.number 1 false m.date.year)
  | 'y' => some (c.number 2 false (m.date.year % 100))
  | 'Z' => some (if c.fill == some '-' then [] else c.text [])
  | 'z' => some []
  | _ => none

/-- Writes a format with the text of each conversion. A step uses up a character, so as many steps
as there are characters suffice. -/
def expand (cap : Nat) (convert : Conversion → List Char) : Nat → List Char → List Char
  | 0, _ => []
  | _ + 1, [] => []
  | fuel + 1, '%' :: r =>
    let (c, rest) := readConversion cap r
    convert c ++ expand cap convert fuel rest
  | fuel + 1, c :: r => c :: expand cap convert fuel r

/-- An unknown conversion stands for itself, in upper case when a flag asks for it; the number sign
does so only for the short names of months. -/
def Conversion.itself (c : Conversion) : List Char :=
  let upper := c.upper || (c.swap && (c.letter == some 'b' || c.letter == some 'h'))
  c.text (if upper then c.written.map Text.upperChar else c.written)

/-- The text of a conversion whose letter stands for no format. -/
def convertPart (m : Moment) (c : Conversion) : List Char :=
  match c.letter with
  | none => c.itself
  | some letter =>
    if c.modifier.any (refuses letter).contains then c.itself
    else (m.part? c letter).getD c.itself

/-- The text of a conversion. -/
def convert (cap : Nat) (m : Moment) (c : Conversion) : List Char :=
  match c.letter.bind fun l => if c.modifier.any (refuses l).contains then none else composite? l with
  | some format =>
    let cs := expand cap m.convertPart (format.length + 1) format.toList
    c.text (if c.upper then cs.map Text.upperChar else cs)
  | none => m.convertPart c

/-- Microseconds have six digits, and the names of zones are empty. A null character ends a
format. -/
def fillIn (micros : List Char) : List Char → List Char
  | '%' :: 'f' :: r => micros ++ fillIn micros r
  | '%' :: 'z' :: r => fillIn micros r
  | '%' :: 'Z' :: r => fillIn micros r
  | '%' :: c :: r => if c = '\x00' then ['%'] else '%' :: c :: fillIn micros r
  | c :: r => if c = '\x00' then [] else c :: fillIn micros r
  | [] => []

/-- A number with at least so many digits. -/
def zeroPadded (width n : Nat) : List Char :=
  let ds := Nat.toDigits 10 n
  List.replicate (width - ds.length) '0' ++ ds

/-- The text of a moment by a format. A text much longer than its format comes out empty. -/
def format (fmt : String) (m : Moment) : String :=
  let cs := fillIn (zeroPadded 6 m.micros) fmt.toList
  let cap := max 1024 (Nat.nextPowerOfTwo (256 * cs.length))
  let out := expand cap (m.convert cap) (cs.length + 1) cs
  String.ofList (if out.length < cap then out else [])

end CommandShell.Moment
