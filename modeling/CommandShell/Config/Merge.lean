import CommandShell.Value

/-! # Merging configurations

`Config.merge` lays one configuration over another: mappings are merged key by key, and every other
value replaces the one under it. A value replaces only one of its own kind; null goes with every
kind. -/

namespace CommandShell.Config

/-- The kinds that do not replace each other. Integers and floating-point numbers are one kind. -/
inductive Kind where
  | mapping
  | list
  | bool
  | number
  | text
  | date
  | moment
deriving DecidableEq, Repr

/-- The kind of a value; null has none. -/
def kind? : Value → Option Kind
  | .scalar .null => none
  | .scalar (.bool _) => some .bool
  | .scalar (.int _) => some .number
  | .scalar (.float _) => some .number
  | .scalar (.str _) => some .text
  | .scalar (.date _) => some .date
  | .scalar (.moment _) => some .moment
  | .list _ => some .list
  | .map _ => some .mapping

/-- The two values are of one kind, or one of them is null. -/
def agree (a b : Value) : Bool :=
  match kind? a, kind? b with
  | some j, some k => j == k
  | _, _ => true

/-- Why two configurations do not merge: one is no mapping, or a key holds values of two kinds. -/
inductive Conflict where
  | roots (base override : String)
  | key (key : Scalar) (base override : String)
deriving DecidableEq, Repr

def Conflict.message : Conflict → String
  | .roots base override =>
    s!"Deep-merge requer dicts no nível raiz, recebido: {base} vs {override}"
  | .key place base override =>
    "Conflito de tipo na chave '" ++ place.text ++ s!"': {base} vs {override}"

mutual

/-- The value at a key once the override's value is laid over what is there. -/
def mergeValue (key : Scalar) (base : Option Value) : Value → Except Conflict Value
  | .map upper =>
    match base with
    | some (.map under) => (mergeEntries under upper).map .map
    | some under =>
      if agree under (.map upper) then .ok (.map upper)
      else .error (.key key under.typeName "dict")
    | none => .ok (.map upper)
  | .list items =>
    match base with
    | some under =>
      if agree under (.list items) then .ok (.list items)
      else .error (.key key under.typeName "list")
    | none => .ok (.list items)
  | .scalar s =>
    match base with
    | some under =>
      if agree under (.scalar s) then .ok (.scalar s)
      else .error (.key key under.typeName s.typeName)
    | none => .ok (.scalar s)

/-- Lays the entries of an override over those of a mapping, in order. -/
def mergeEntries (base : Entries) : List (Scalar × Value) → Except Conflict Entries
  | [] => .ok base
  | (key, value) :: rest => do
    let merged ← mergeValue key (base.get? key) value
    mergeEntries (base.put key merged) rest

end

/-- Lays one configuration over another. -/
def merge (base override : Value) : Except Conflict Value :=
  match base, override with
  | .map under, .map upper => (mergeEntries under upper).map .map
  | _, _ => .error (.roots base.typeName override.typeName)

end CommandShell.Config
