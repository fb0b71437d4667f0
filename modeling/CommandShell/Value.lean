import CommandShell.Number.Shortest

/-! # Values

A configuration is made of scalars, lists and mappings. A mapping keeps its entries in the order in
which their keys first came, and each key once; `Entries` are its operations. -/

namespace CommandShell

/-- A value without parts. A date is kept as its text. -/
inductive Scalar where
  | null
  | bool (b : Bool)
  | int (n : Int)
  | float (x : Binary64)
  | str (s : String)
  | date (text : String)
  | moment (text : String)
deriving DecidableEq, Repr, Inhabited

namespace Scalar

/-- The name of a scalar's type in messages. -/
def typeName : Scalar → String
  | .null => "NoneType"
  | .bool _ => "bool"
  | .int _ => "int"
  | .float _ => "float"
  | .str _ => "str"
  | .date _ => "date"
  | .moment _ => "datetime"

/-- Truth values count as the numbers one and zero. -/
def number? : Scalar → Option (Int ⊕ Binary64)
  | .bool b => some (.inl (if b then 1 else 0))
  | .int n => some (.inl n)
  | .float x => some (.inr x)
  | _ => none

/-- An integer and a floating-point number are the same number. -/
def sameAsInt (x : Binary64) (n : Int) : Bool :=
  x.toRat? == some (n : Rat)

/-- Two scalars are the same key: numbers by their value, all else by kind and content. What is not a
number is the same key as itself. -/
def sameKey (a b : Scalar) : Bool :=
  match a.number?, b.number? with
  | some (.inl m), some (.inl n) => m == n
  | some (.inl m), some (.inr y) => sameAsInt y m
  | some (.inr x), some (.inl n) => sameAsInt x n
  | some (.inr x), some (.inr y) => x == y || x.sameNumber y
  | none, none => a == b
  | _, _ => false

/-- A scalar as it stands in a message. -/
def text : Scalar → String
  | .null => "None"
  | .bool b => if b then "True" else "False"
  | .int n => toString n
  | .float x =>
    match x with
    | .notANumber => "nan"
    | .infinite negative => if negative then "-inf" else "inf"
    | x => x.text
  | .str s => s
  | .date t => t
  | .moment t => t

end Scalar

/-- A scalar, a list, or a mapping with its entries in order. -/
inductive Value where
  | scalar (s : Scalar)
  | list (items : List Value)
  | map (entries : List (Scalar × Value))
deriving Repr, Inhabited

/-- The entries of a mapping. -/
abbrev Entries := List (Scalar × Value)

namespace Entries

/-- The value at a key. -/
def get? (key : Scalar) : Entries → Option Value
  | [] => none
  | (k, v) :: rest => if k.sameKey key then some v else get? key rest

/-- A new key goes to the end, a known one keeps its place. -/
def put (key : Scalar) (value : Value) : Entries → Entries
  | [] => [(key, value)]
  | (k, v) :: rest => if k.sameKey key then (k, value) :: rest else (k, v) :: put key value rest

/-- The entries in order, each key at its first place with its last value. -/
def ofList (entries : List (Scalar × Value)) : Entries :=
  entries.foldl (fun es e => put e.1 e.2 es) []

def keys (entries : Entries) : List Scalar := entries.map (·.1)

end Entries

namespace Value

@[match_pattern] abbrev null : Value := .scalar .null
@[match_pattern] abbrev bool (b : Bool) : Value := .scalar (.bool b)
@[match_pattern] abbrev int (n : Int) : Value := .scalar (.int n)
@[match_pattern] abbrev float (x : Binary64) : Value := .scalar (.float x)
@[match_pattern] abbrev str (s : String) : Value := .scalar (.str s)

/-- A mapping from names. -/
def record (fields : List (String × Value)) : Value := .map (fields.map fun f => (.str f.1, f.2))

def ofOption (s : Option String) : Value := s.elim .null .str

/-- The name of a value's type in messages. -/
def typeName : Value → String
  | .scalar s => s.typeName
  | .list _ => "list"
  | .map _ => "dict"

def isNull : Value → Bool
  | .scalar .null => true
  | _ => false

/-- Null, false, zero and everything empty do not count as true. -/
def isTruthy : Value → Bool
  | .scalar .null => false
  | .scalar (.bool b) => b
  | .scalar (.int n) => n != 0
  | .scalar (.float x) => x.isNonzero
  | .scalar (.str s) => s != ""
  | .scalar (.date _) => true
  | .scalar (.moment _) => true
  | .list items => !items.isEmpty
  | .map entries => !entries.isEmpty

/-- The value at a name, when the value is a mapping that has it. -/
def field? (name : String) : Value → Option Value
  | .map entries => Entries.get? (.str name) entries
  | _ => none

end Value

end CommandShell
