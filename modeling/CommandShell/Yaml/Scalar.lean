import CommandShell.Calendar.Date
import CommandShell.Json.Reader
import CommandShell.Number.Decimal
import CommandShell.Text.Case

/-! # The values of scalars

A plain scalar without a tag is a truth value, a number, a date, null or one of two special marks if
it is written like one, and a text otherwise. A tag asks for a value of its kind from any text. -/

namespace CommandShell.Yaml

/-- What a scalar is: one of the kinds that have values, the mark of a merge, or the mark of a
default value. -/
inductive ScalarKind where
  | null
  | bool
  | int
  | float
  | text
  | time
  | merge
  | default
deriving DecidableEq, Repr

/-- Why a text has no value of the kind that its tag asks for. -/
inductive ScalarFault where
  | numeral (fault : Numeral.Fault)
  | decimal (text : List Char)
  | bool (text : List Char)
  | blank
  | notTime
  | time (reason : String)
deriving DecidableEq, Repr

def ScalarFault.message : ScalarFault → String
  | .numeral fault => fault.message
  | .decimal text => Decimal.message text
  | .bool text => Text.quoted (String.ofList text)
  | .blank => "string index out of range"
  | .notTime => "'NoneType' object has no attribute 'groupdict'"
  | .time reason => reason

/-- The number that digits of a base stand for. -/
def digitsValue (base : Nat) (ds : List Char) : Nat :=
  ds.foldl (fun n c => base * n + (Json.hexDigit? c).getD 0) 0

def isDigitOf (base : Nat) (c : Char) : Bool := (Json.hexDigit? c).any (· < base)

def isNumberChar (c : Char) : Bool := c.isDigit || c == '_'

/-- A group of a number in base sixty: one digit, or two of which the first is at most five. -/
def isSixtieth : List Char → Bool
  | [c] => c.isDigit
  | [a, b] => isDigitOf 6 a && b.isDigit
  | _ => false

/-- Digits and, behind colons, at least one group of base sixty. -/
def isSexagesimal (first : Char → Bool) (cs : List Char) : Bool :=
  match cs.splitOn ':' with
  | head :: groups@(_ :: _) =>
    head.head?.any first && head.all isNumberChar && groups.all isSixtieth
  | _ => false

/-- The text is written like an integer: binary, octal, decimal, hexadecimal or in base sixty. -/
def isIntText (text : List Char) : Bool :=
  let body := (Numeral.signed text).2
  let inBase (base : Nat) (ds : List Char) : Bool :=
    !ds.isEmpty && ds.all fun c => isDigitOf base c || c == '_'
  match body with
  | ['0'] => true
  | '0' :: 'b' :: ds => inBase 2 ds
  | '0' :: 'x' :: ds => inBase 16 ds
  | '0' :: ds => inBase 8 ds
  | c :: ds => c.isDigit && (ds.all isNumberChar || isSexagesimal Char.isDigit body)
  | [] => false

/-- Nothing, or an exponent with a sign. -/
def isExponent : List Char → Bool
  | [] => true
  | e :: sign :: ds =>
    (e == 'e' || e == 'E') && (sign == '+' || sign == '-') && !ds.isEmpty && ds.all Char.isDigit
  | _ => false

/-- The text is written like a number with a point. -/
def isFloatText (text : List Char) : Bool :=
  let body := (Numeral.signed text).2
  let signed := body.length != text.length
  match body with
  | '.' :: r =>
    ["inf".toList, "Inf".toList, "INF".toList].contains r
      || (!signed && ["nan".toList, "NaN".toList, "NAN".toList].contains r)
      || (!signed && r.head?.any Char.isDigit && isExponent (r.dropWhile isNumberChar))
  | c :: _ =>
    match body.span (· != '.') with
    | (whole, '.' :: r) =>
      c.isDigit
        && ((whole.all isNumberChar && isExponent (r.dropWhile isNumberChar))
          || (isSexagesimal Char.isDigit whole && r.all isNumberChar))
    | _ => false
  | [] => false

/-- The parts of a moment as they are written. -/
structure Moment where
  date : Date
  /-- hour, minute, second and the places of the second -/
  time : Option (Nat × Nat × Nat × List Char) := none
  /-- hours and minutes from universal time, when they are given -/
  zone : Option (Bool × Nat × Nat) := none

/-- A number of at least `least` and at most `most` digits at the start of a text. -/
def number? (least most : Nat) (cs : List Char) : Option (Nat × List Char) :=
  let ds := (cs.take most).takeWhile Char.isDigit
  if ds.length < least then none else some (digitsValue 10 ds, cs.drop ds.length)

/-- The text from behind one character. -/
def behind? (c : Char) : List Char → Option (List Char)
  | d :: r => if d = c then some r else none
  | [] => none

def isSpaceOrTab (c : Char) : Bool := c == ' ' || c == '\t'

/-- The zone at the end of a moment. -/
def zone? (cs : List Char) : Option (Option (Bool × Nat × Nat)) :=
  match cs.dropWhile isSpaceOrTab with
  | [] => if cs.isEmpty then some none else none
  | ['Z'] => some (some (false, 0, 0))
  | sign :: r => do
    if sign != '+' && sign != '-' then none
    let (hours, r) ← number? 1 2 r
    let (minutes, r) ←
      match r with
      | ':' :: r => number? 2 2 r
      | _ => pure (0, r)
    if r.isEmpty then return some (sign == '-', hours, minutes) else none

/-- The moment that a text is written like. -/
def moment? (text : List Char) : Option Moment := do
  let (year, r) ← number? 4 4 text
  let (month, r) ← number? 1 2 (← behind? '-' r)
  let (day, r) ← number? 1 2 (← behind? '-' r)
  let date : Date := ⟨year, month, day⟩
  match r with
  | [] => if text.length = 10 then return { date } else none
  | c :: _ =>
    let r ←
      if c == 'T' || c == 't' then pure (r.drop 1)
      else if isSpaceOrTab c then pure (r.dropWhile isSpaceOrTab)
      else none
    let (hour, r) ← number? 1 2 r
    let (minute, r) ← number? 2 2 (← behind? ':' r)
    let (second, r) ← number? 2 2 (← behind? ':' r)
    let (places, r) := match r with
      | '.' :: r => (r.takeWhile Char.isDigit, r.dropWhile Char.isDigit)
      | _ => ([], r)
    return { date, time := some (hour, minute, second, places), zone := ← zone? r }

/-- The texts of the two truth values in lower case. -/
def boolTexts : List (String × Bool) :=
  [("yes", true), ("no", false), ("true", true), ("false", false), ("on", true), ("off", false)]

/-- The text is a word in lower case, in upper case, or with a capital. -/
def isWordIn (words : List String) (text : List Char) : Bool :=
  words.any fun w =>
    text = w.toList || text = w.toList.map Char.toUpper || text = w.capitalize.toList

/-- What a plain scalar without a tag is. -/
def kindOf (text : List Char) : ScalarKind :=
  if isWordIn (boolTexts.map (·.1)) text then .bool
  else if isFloatText text then .float
  else if isIntText text then .int
  else if text = ['<', '<'] then .merge
  else if text = [] ∨ text = ['~'] ∨ isWordIn ["null"] text then .null
  else if (moment? text).isSome then .time
  else if text = ['='] then .default
  else .text

/-- An integer in a base other than ten. -/
def inBase (base : Nat) (letters text : List Char) : Except ScalarFault Int :=
  let (negative, body) := Numeral.signed (Text.trim text)
  let ds := match body with
    | '0' :: c :: r => if letters.contains c then r else body
    | _ => body
  if ds.isEmpty || !ds.all (isDigitOf base) then
    .error (.numeral (.malformed base (String.ofList text)))
  else
    let n : Int := digitsValue base ds
    .ok (if negative then -n else n)

def readNumeral (text : List Char) : Except ScalarFault Int :=
  (Numeral.read (String.ofList text)).mapError .numeral

/-- The integer of a text. -/
def readInt (text : List Char) : Except ScalarFault Int := do
  let text := text.filter (· != '_')
  let (negative, body) := Numeral.signed text
  let n ←
    if text.isEmpty then throw .blank
    else
      match body with
      | ['0'] => pure 0
      | '0' :: 'b' :: ds => inBase 2 ['b', 'B'] ds
      | '0' :: 'x' :: ds => inBase 16 ['x', 'X'] ds
      | '0' :: _ => inBase 8 ['o', 'O'] body
      | [] => throw .blank
      | _ =>
        if body.contains ':' then
          let groups ← (body.splitOn ':').mapM readNumeral
          pure (groups.foldl (fun n g => 60 * n + g) 0)
        else readNumeral body
  return if negative then -n else n

def readDecimal (text : List Char) : Except ScalarFault Binary64 :=
  match Decimal.read? text with
  | some x => .ok x
  | none => .error (.decimal text)

/-- The floating-point number of a text. -/
def readFloat (text : List Char) : Except ScalarFault Binary64 := do
  let text := Text.lowerChars (text.filter (· != '_'))
  let (negative, body) := Numeral.signed text
  if text.isEmpty then throw .blank
  let x ←
    if body = ".inf".toList then pure (Binary64.infinite false)
    else if body = ".nan".toList then pure Binary64.notANumber
    else if body.contains ':' then do
      let groups ← (body.splitOn ':').mapM readDecimal
      let weighted := groups.reverse.zipIdx.map fun (g, i) => g.mul (.ofInt (Int.ofNat (Nat.pow 60 i)))
      pure (weighted.foldl Binary64.add (.ofInt 0))
    else readDecimal body
  return if negative then x.negate else x

def readBool (text : List Char) : Except ScalarFault Bool :=
  let low := Text.lowerChars text
  match boolTexts.lookup (String.ofList low) with
  | some b => .ok b
  | none => .error (.bool low)

/-- A number with at least `width` digits. -/
def padded (width n : Nat) : String :=
  let ds := toString n
  "".pushn '0' (width - ds.length) ++ ds

/-- The date or the moment of a text; parts that are out of range are refused. -/
def readTime (text : List Char) : Except ScalarFault Scalar := do
  let some m := moment? text | throw .notTime
  let refuse (b : Bool) (reason : String) : Except ScalarFault Unit :=
    if b then throw (.time reason) else pure ()
  let zone : Nat := m.zone.elim 0 fun z => 60 * z.2.1 + z.2.2
  refuse (24 * 60 ≤ zone) "offset must be a timedelta strictly between -timedelta(hours=24) and timedelta(hours=24)"
  refuse (m.date.year == 0) "year 0 is out of range"
  refuse (m.date.month == 0 || 12 < m.date.month) "month must be in 1..12"
  refuse (m.date.day == 0 || Date.daysInMonth m.date.year m.date.month < m.date.day)
    "day is out of range for month"
  let date := s!"{padded 4 m.date.year.toNat}-{padded 2 m.date.month}-{padded 2 m.date.day}"
  match m.time with
  | none => return .date date
  | some (hour, minute, second, places) =>
    refuse (23 < hour) "hour must be in 0..23"
    refuse (59 < minute) "minute must be in 0..59"
    refuse (59 < second) "second must be in 0..59"
    let micros := digitsValue 10 ((places ++ List.replicate 6 '0').take 6)
    let fraction := if micros = 0 then "" else s!".{padded 6 micros}"
    let offset := match m.zone with
      | none => ""
      | some (negative, _, _) =>
        (if negative && zone != 0 then "-" else "+")
          ++ s!"{padded 2 (zone / 60)}:{padded 2 (zone % 60)}"
    return .moment
      s!"{date} {padded 2 hour}:{padded 2 minute}:{padded 2 second}{fraction}{offset}"

/-- The value of a text as a scalar of a kind. The two marks have none. -/
def readScalar? (kind : ScalarKind) (text : List Char) : Option (Except ScalarFault Scalar) :=
  match kind with
  | .null => some (.ok .null)
  | .bool => some ((readBool text).map .bool)
  | .int => some ((readInt text).map .int)
  | .float => some ((readFloat text).map .float)
  | .text => some (.ok (.str (String.ofList text)))
  | .time => some (readTime text)
  | .merge => none
  | .default => none

end CommandShell.Yaml
