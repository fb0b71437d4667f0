import CommandShell.Number.Numeral
import CommandShell.Value

/-! # Reading JSON

`Json.read` reads one JSON document. Numbers with a point or an exponent are floating-point numbers
and all others integers; the three names for what is no finite number are accepted. A repeated key
keeps its first place and takes its last value. -/

namespace CommandShell.Json

inductive Fault where
  | malformed
  | numeral (fault : Numeral.Fault)
deriving DecidableEq, Repr

def isSpace (c : Char) : Bool := c == ' ' || c == '\t' || c == '\n' || c == '\r'

def skip (cs : List Char) : List Char := cs.dropWhile isSpace

def hexDigit? (c : Char) : Option Nat :=
  if c.isDigit then some (c.toNat - 48)
  else if 'a' ≤ c ∧ c ≤ 'f' then some (c.toNat - 87)
  else if 'A' ≤ c ∧ c ≤ 'F' then some (c.toNat - 55)
  else none

/-- The code unit of four hexadecimal digits. -/
def unit? (a b c d : Char) : Option Nat := do
  return 4096 * (← hexDigit? a) + 256 * (← hexDigit? b) + 16 * (← hexDigit? c) + (← hexDigit? d)

/-- A piece of a string: a character, or a code unit given by its number. -/
inductive Piece where
  | char (c : Char)
  | unit (n : Nat)

/-- A unit of the upper half and one of the lower half make one character; a half that stands alone
is shown as the replacement character. -/
def join : List Piece → List Char
  | [] => []
  | .char c :: r => c :: join r
  | .unit high :: .unit low :: r =>
    if 0xD800 ≤ high ∧ high < 0xDC00 ∧ 0xDC00 ≤ low ∧ low < 0xE000 then
      Char.ofNat (0x10000 + (high - 0xD800) * 1024 + (low - 0xDC00)) :: join r
    else alone high :: join (.unit low :: r)
  | .unit n :: r => alone n :: join r
where
  alone (n : Nat) : Char := if 0xD800 ≤ n ∧ n < 0xE000 then '\uFFFD' else Char.ofNat n

/-- The characters that a backslash and one character stand for. -/
def escaped? : Char → Option Char
  | '\x22' => some '\x22'
  | '\\' => some '\\'
  | '/' => some '/'
  | 'b' => some '\x08'
  | 'f' => some '\x0c'
  | 'n' => some '\n'
  | 'r' => some '\r'
  | 't' => some '\t'
  | _ => none

/-- A string from after its opening quote, and what follows its closing one. -/
def readPieces : List Char → Option (List Piece × List Char)
  | [] => none
  | '\x22' :: r => some ([], r)
  | '\\' :: 'u' :: a :: b :: c :: d :: r => do
    let n ← unit? a b c d
    let (ps, rest) ← readPieces r
    return (.unit n :: ps, rest)
  | '\\' :: c :: r => do
    let ch ← escaped? c
    let (ps, rest) ← readPieces r
    return (.char ch :: ps, rest)
  | c :: r =>
    if c.toNat < 32 then none
    else do
      let (ps, rest) ← readPieces r
      return (.char c :: ps, rest)

def readString (cs : List Char) : Option (String × List Char) :=
  (readPieces cs).map fun (ps, rest) => (String.ofList (join ps), rest)

/-- The digits of an exponent after its letter. -/
def readExponent? (cs : List Char) : Option (Int × List Char) :=
  let (negative, body) := Numeral.signed cs
  let ds := body.takeWhile Char.isDigit
  if ds.isEmpty then none
  else
    let n := Text.decimalValue 0 ds
    some (if negative then -n else n, body.dropWhile Char.isDigit)

/-- The places after the point, when there are any. -/
def readPlaces? : List Char → Option (List Char × List Char)
  | '.' :: r =>
    let ds := r.takeWhile Char.isDigit
    if ds.isEmpty then none else some (ds, r.dropWhile Char.isDigit)
  | _ => none

/-- A number from after its sign, with the longest reading that its grammar allows. -/
def readNumber (negative : Bool) (cs : List Char) : Except Fault (Value × List Char) :=
  let (whole, rest) := match cs with
    | '0' :: r => (['0'], r)
    | _ => (cs.takeWhile Char.isDigit, cs.dropWhile Char.isDigit)
  if whole.isEmpty then .error .malformed
  else
    let places := readPlaces? rest
    let afterPlaces := places.elim rest (·.2)
    let exponent := match afterPlaces with
      | c :: r => if c == 'e' || c == 'E' then readExponent? r else none
      | [] => none
    let tail := exponent.elim afterPlaces (·.2)
    if places.isNone && exponent.isNone then
      if Numeral.limit < whole.length then .error (.numeral (.tooLong whole.length))
      else
        let n := Text.decimalValue 0 whole
        .ok (.int (if negative then -n else n), tail)
    else
      let ds := places.elim [] (·.1)
      let power := exponent.elim 0 (·.1) - ds.length
      .ok (.float (.ofDecimal negative (Text.decimalValue 0 (whole ++ ds)) power), tail)

/-- The names that stand for values. -/
def literals : List (String × Value) :=
  [("null", .null), ("true", .bool true), ("false", .bool false), ("NaN", .float .notANumber),
   ("Infinity", .float (.infinite false)), ("-Infinity", .float (.infinite true))]

def readLiteral? (cs : List Char) : Option (Value × List Char) :=
  literals.findSome? fun (name, v) => (name.toList.isPrefixOf? cs).map (v, ·)

mutual

/-- One value, and what follows it. Every value uses up a character, so as many steps as there are
characters suffice. -/
def readValue : Nat → List Char → Except Fault (Value × List Char)
  | 0, _ => .error .malformed
  | fuel + 1, cs =>
    match cs with
    | '\x22' :: r =>
      match readString r with
      | some (s, rest) => .ok (.str s, rest)
      | none => .error .malformed
    | '[' :: r =>
      match skip r with
      | ']' :: rest => .ok (.list [], rest)
      | r' => do
        let (items, rest) ← readItems fuel r'
        return (.list items, rest)
    | '\x7b' :: r =>
      match skip r with
      | '\x7d' :: rest => .ok (.map [], rest)
      | r' => do
        let (entries, rest) ← readEntries fuel r'
        return (.map (Entries.ofList entries), rest)
    | _ =>
      match readLiteral? cs, cs with
      | some found, _ => .ok found
      | none, '-' :: r => readNumber true r
      | none, _ => readNumber false cs

/-- The items of a list up to its end. -/
def readItems : Nat → List Char → Except Fault (List Value × List Char)
  | 0, _ => .error .malformed
  | fuel + 1, cs => do
    let (item, rest) ← readValue fuel cs
    match skip rest with
    | ']' :: tail => return ([item], tail)
    | ',' :: tail =>
      let (items, tail) ← readItems fuel (skip tail)
      return (item :: items, tail)
    | _ => .error .malformed

/-- The entries of a mapping up to its end. -/
def readEntries : Nat → List Char → Except Fault (List (Scalar × Value) × List Char)
  | 0, _ => .error .malformed
  | fuel + 1, cs => do
    match cs with
    | '\x22' :: r =>
      match readString r with
      | none => .error .malformed
      | some (key, rest) =>
        match skip rest with
        | ':' :: rest =>
          let (value, rest) ← readValue fuel (skip rest)
          match skip rest with
          | '\x7d' :: tail => return ([(.str key, value)], tail)
          | ',' :: tail =>
            let (entries, tail) ← readEntries fuel (skip tail)
            return ((.str key, value) :: entries, tail)
          | _ => .error .malformed
        | _ => .error .malformed
    | _ => .error .malformed

end

/-- A document is one value with space around it. -/
def read (text : String) : Except Fault Value := do
  let cs := skip text.toList
  let (value, rest) ← readValue (2 * cs.length + 2) cs
  if (skip rest).isEmpty then return value else .error .malformed

end CommandShell.Json
