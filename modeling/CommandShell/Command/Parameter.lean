import CommandShell.Text.Quoted
import CommandShell.Value

/-! # Parameters of commands

A command declares its parameters in order: positional arguments and flags. A flag has a long name, a
short one if it likes, and a datatype, which its definition must not leave out. -/

namespace CommandShell

inductive ParameterKind where
  | positional
  | flag
deriving DecidableEq, Repr, Inhabited

def ParameterKind.all : List ParameterKind := [.positional, .flag]

def ParameterKind.name : ParameterKind → String
  | .positional => "positional"
  | .flag => "flag"

inductive Datatype where
  | string
  | number
  | boolean
deriving DecidableEq, Repr, Inhabited

def Datatype.all : List Datatype := [.string, .number, .boolean]

def Datatype.name : Datatype → String
  | .string => "string"
  | .number => "number"
  | .boolean => "boolean"

/-- A text that names none of the kinds that it should name one of. -/
structure UnknownName where
  text : String
  of : String
deriving DecidableEq, Repr

def UnknownName.message (u : UnknownName) : String :=
  Text.quoted u.text ++ s!" is not a valid {u.of}"

def ParameterKind.ofName (s : String) : Except UnknownName ParameterKind :=
  match all.find? fun k => k.name == s with
  | some k => .ok k
  | none => .error ⟨s, "ParamKind"⟩

def Datatype.ofName (s : String) : Except UnknownName Datatype :=
  match all.find? fun t => t.name == s with
  | some t => .ok t
  | none => .error ⟨s, "Datatype"⟩

/-- The name of the datatype of a value; values of no datatype have the name of their own type. -/
def runtimeType : Value → String
  | .scalar (.bool _) => Datatype.boolean.name
  | .scalar (.int _) => Datatype.number.name
  | .scalar (.float _) => Datatype.number.name
  | .scalar (.str _) => Datatype.string.name
  | v => v.typeName

/-- A positional argument or a flag. -/
structure Parameter where
  kind : ParameterKind
  name : String
  shortName : Option String := none
  required : Bool := false
  datatype : Option Datatype := none
  /-- the values that a positional argument may have -/
  allowed : Option (List String) := none
  /-- the value may come from the stage before; this only informs -/
  pipeableFrom : Option String := none
  default : Value := .null
  description : String := ""
deriving Repr, Inhabited

namespace Parameter

def isFlag (p : Parameter) : Bool := p.kind == .flag

/-- The keys under which a flag that is required is looked for. -/
def flagKeys (p : Parameter) : List String :=
  match p.shortName with
  | some s => if s = "" then [p.name] else [p.name, s]
  | none => [p.name]

/-- The key names the parameter. -/
def isNamed (p : Parameter) (key : String) : Bool := key == p.name || p.shortName == some key

/-- The parameter has a value of its own to fall back on, and that value is not of its datatype. -/
def hasWrongDefault (p : Parameter) (datatype : Datatype) : Bool :=
  !p.default.isNull && runtimeType p.default != datatype.name

end Parameter

end CommandShell
