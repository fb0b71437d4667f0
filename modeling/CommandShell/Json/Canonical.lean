import CommandShell.Number.Numeral
import CommandShell.Value

/-! # Canonical JSON

One text for each configuration: keys in order of their code points, no spaces, characters above
ASCII as they are. Keys of one mapping that have no common order, dates, and integers with too many
digits have no such text. -/

namespace CommandShell.Json

inductive WriteFault where
  | unordered (later earlier : String)
  | badValue (typeName : String)
  | badKey (typeName : String)
  | tooLong
deriving DecidableEq, Repr

/-- The name of the kind of a fault. -/
def WriteFault.kind : WriteFault → String
  | .tooLong => "ValueError"
  | _ => "TypeError"

def WriteFault.message : WriteFault → String
  | .unordered later earlier =>
    s!"'<' not supported between instances of '{later}' and '{earlier}'"
  | .badValue typeName => s!"Object of type {typeName} is not JSON serializable"
  | .badKey typeName => s!"keys must be str, int, float, bool or None, not {typeName}"
  | .tooLong =>
    s!"Exceeds the limit ({Numeral.limit} digits) for integer string conversion; "
      ++ "use sys.set_int_max_str_digits() to increase the limit"

/-- How one character stands in a string: the quote, the backslash and control characters are
escaped. -/
def encodeChar (c : Char) : List Char :=
  if c = '\x22' then ['\\', '\x22']
  else if c = '\\' then ['\\', '\\']
  else if c = '\n' then ['\\', 'n']
  else if c = '\r' then ['\\', 'r']
  else if c = '\t' then ['\\', 't']
  else if c = '\x08' then ['\\', 'b']
  else if c = '\x0c' then ['\\', 'f']
  else if c.toNat < 32 then
    '\\' :: 'u' :: '0' :: '0' :: (if c.toNat < 16 then '0' else '1')
      :: Nat.toDigits 16 (c.toNat % 16)
  else [c]

def encodeString (cs : List Char) : List Char := '\x22' :: cs.flatMap encodeChar ++ ['\x22']

/-- The text of an integer, which has none with more digits than the limit. -/
def integerText (n : Int) : Except WriteFault String :=
  if Numeral.limit < (Nat.toDigits 10 n.natAbs).length then .error .tooLong else .ok (toString n)

/-- The text of a scalar as a value. -/
def encodeScalar : Scalar → Except WriteFault (List Char)
  | .null => .ok "null".toList
  | .bool b => .ok (if b then "true".toList else "false".toList)
  | .int n => (integerText n).map String.toList
  | .float x => .ok x.text.toList
  | .str s => .ok (encodeString s.toList)
  | s => .error (.badValue s.typeName)

/-- The text of a scalar as a key, before it is put between quotes. -/
def keyText : Scalar → Except WriteFault String
  | .null => .ok "null"
  | .bool b => .ok (if b then "true" else "false")
  | .int n => integerText n
  | .float x => .ok x.text
  | .str s => .ok s
  | s => .error (.badKey s.typeName)

/-- The order of two keys, when they have one: texts by code points, numbers by value. -/
def keyLess? (a b : Scalar) : Option Bool :=
  match a, b with
  | .str s, .str t => some (s < t)
  | .date s, .date t => some (s < t)
  | .moment s, .moment t => some (s < t)
  | a, b =>
    match a.number?, b.number? with
    | some (.inl m), some (.inl n) => some (m < n)
    | some (.inl m), some (.inr y) => some ((Binary64.ofInt m).less y)
    | some (.inr x), some (.inl n) => some (x.less (Binary64.ofInt n))
    | some (.inr x), some (.inr y) => some (x.less y)
    | _, _ => none

/-- Puts an entry behind those whose keys are not greater. -/
def insertSorted {α : Type} (entry : Scalar × α) : List (Scalar × α) → List (Scalar × α)
  | [] => [entry]
  | e :: rest =>
    if keyLess? entry.1 e.1 = some true then entry :: e :: rest else e :: insertSorted entry rest

/-- The entries in the order of their keys. -/
def sorted {α : Type} (entries : List (Scalar × α)) : List (Scalar × α) :=
  entries.foldl (fun es e => insertSorted e es) []

/-- The keys run straight up or straight down. -/
def isRun (keys : List Scalar) : Bool :=
  let steps := keys.zipWith (fun a b => keyLess? b a) (keys.drop 1)
  steps.all (· == some false) || steps.all (· == some true)

/-- The first key that has no order with the keys before it, together with the one it is compared
with: the last of them while they form a run, else the middle one in their order. -/
def unordered? : List Scalar → List Scalar → Option (Scalar × Scalar)
  | _, [] => none
  | [], key :: rest => unordered? [key] rest
  | first :: more, key :: rest =>
    let before := first :: more
    if (keyLess? key first).isNone then
      let met :=
        if isRun before then before.getLast?
        else ((sorted (before.map (·, ())))[before.length / 2]?).map (·.1)
      some (key, met.getD first)
    else unordered? (before ++ [key]) rest

/-- The parts of a list or a mapping with commas between them. -/
def commas : List (List Char) → List Char
  | [] => []
  | [part] => part
  | part :: rest => part ++ ',' :: commas rest

/-- A mapping from its keys and the texts of their values. -/
def assemble (entries : List (Scalar × Except WriteFault (List Char))) :
    Except WriteFault (List Char) :=
  match unordered? [] (entries.map (·.1)) with
  | some (later, earlier) => .error (.unordered later.typeName earlier.typeName)
  | none => do
    let parts ← (sorted entries).mapM fun (key, value) => do
      let k ← keyText key
      let v ← value
      return encodeString k.toList ++ ':' :: v
    return '\x7b' :: commas parts ++ ['\x7d']

mutual

/-- The canonical text of a value. -/
def encode : Value → Except WriteFault (List Char)
  | .scalar s => encodeScalar s
  | .list items => do
    let parts ← encodeItems items
    return '[' :: commas parts ++ [']']
  | .map entries => assemble (encodeEntries entries)

def encodeItems : List Value → Except WriteFault (List (List Char))
  | [] => .ok []
  | item :: rest => do
    let part ← encode item
    let parts ← encodeItems rest
    return part :: parts

def encodeEntries : List (Scalar × Value) → List (Scalar × Except WriteFault (List Char))
  | [] => []
  | (key, value) :: rest => (key, encode value) :: encodeEntries rest

end

/-- The canonical text of a value as a string. -/
def write (value : Value) : Except WriteFault String := (encode value).map String.ofList

end CommandShell.Json
