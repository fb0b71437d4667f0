import CommandShell.Chain
import CommandShell.Command.Registry
import CommandShell.Number.Numeral
import CommandShell.Problem

/-! # Verifying invocations

Before a command runs, its arguments and flags are held against its parameters. The checks come in a
fixed order and the first one that fails decides. A flag written like an integer becomes one. A
defect of the definition itself takes the command out of the registered ones. -/

namespace CommandShell

/-- The flags of an invocation as they were accepted, or the problem with it. -/
inductive Verification where
  | accepted (flags : Flags)
  | refused (problem : Problem)
deriving Repr, Inhabited

/-- Why a flag is not accepted: a defect of its definition, a wrong value, or a numeral of too many
digits. -/
inductive FlagFault where
  | definition (problem : Problem)
  | value (problem : Problem)
  | numeral (fault : Numeral.Fault)
deriving Repr

/-- The problem with the arguments from a position on. -/
def checkArguments (command : String) (args : List String) :
    Nat → List Parameter → Option Problem
  | _, [] => none
  | position, p :: rest =>
    match args[position]? with
    | none =>
      if p.required then some (.missingArgument command p.name position)
      else checkArguments command args (position + 1) rest
    | some arg =>
      match p.allowed with
      | some allowed =>
        if allowed.contains arg then checkArguments command args (position + 1) rest
        else some (.invalidArgument command p.name (allowed.map .str) arg)
      | none => checkArguments command args (position + 1) rest

/-- The first required flag that is missing under all of its keys. -/
def missingFlag? (parameters : List Parameter) (flags : Flags) : Option Parameter :=
  parameters.find? fun p => p.required && !p.flagKeys.any fun k => flags.has k

/-- The value of a flag once a text that is written like an integer has become one. -/
def coerce (value : Value) : Except Numeral.Fault Value :=
  match value with
  | .str s => if Numeral.isPlain s.toList then (Numeral.read s).map .int else .ok value
  | _ => .ok value

/-- The accepted value of a flag of a command. -/
def checkFlag {η : Type} (command : String) (d : Definition η) (key : String) (value : Value) :
    Except FlagFault Value :=
  match d.findFlag? key with
  | none => .ok value
  | some p =>
    match p.datatype with
    | none => .error (.definition (.missingDatatype command p.name))
    | some datatype =>
      match coerce value with
      | .error fault => .error (.numeral fault)
      | .ok value =>
        if runtimeType value ≠ datatype.name then
          .error (.value (.invalidFlag command p.name datatype.name (runtimeType value)))
        else if p.hasWrongDefault datatype then
          .error (.definition (.invalidDefault command p.name))
        else .ok value

/-- The accepted values of flags, in order. -/
def checkFlags {η : Type} (command : String) (d : Definition η) : Flags → Except FlagFault Flags
  | [] => .ok []
  | (key, value) :: rest => do
    let v ← checkFlag command d key value
    let vs ← checkFlags command d rest
    return (key, v) :: vs

namespace Registry

variable {η : Type}

/-- Verifies an invocation. A numeral of too many digits is a fault of its own. -/
def verify (r : Registry η) (name : String) (args : List String) (flags : Flags) :
    Step η (Except Numeral.Fault Verification) :=
  let asked := [Service.registry.action s!"verify {name}"]
  let refuse (p : Problem) : Step η (Except Numeral.Fault Verification) :=
    ⟨r, asked, .ok (.refused p)⟩
  match r.definition? name with
  | none => refuse (.unknownCommand name)
  | some d =>
    if !r.isRegistered name then refuse (.unknownCommand name)
    else
      match checkArguments name args 0 d.positionals with
      | some p => refuse p
      | none =>
        match missingFlag? d.flags flags with
        | some p => refuse (.missingFlag name p.name)
        | none =>
          match checkFlags name d flags with
          | .ok accepted => ⟨r, asked, .ok (.accepted accepted)⟩
          | .error (.value p) => refuse p
          | .error (.numeral fault) => ⟨r, asked, .error fault⟩
          | .error (.definition p) =>
            let s := r.unregister name
            ⟨s.registry, asked ++ s.actions, .ok (.refused p)⟩

/-- The flags under the long names of their parameters. -/
def normalize (r : Registry η) (name : String) (flags : Flags) : Flags :=
  match r.definition? name with
  | none => flags
  | some d =>
    flags.foldl (fun out f => out.put ((d.findFlag? f.1).elim f.1 (·.name)) f.2) []

/-- Why a definition is not valid. -/
inductive SchemaFault where
  | unknown (command : UnknownCommand)
  | defect (problem : Problem)
deriving Repr

/-- Checks that every flag of a command has a datatype; a command of which one has none is taken out
of the registered ones. -/
def validate (r : Registry η) (name : String) : Step η (Except SchemaFault Unit) :=
  match r.definition? name with
  | none => r.unchanged (.error (.unknown ⟨"validate", name⟩))
  | some d =>
    match d.flags.find? fun p => p.datatype.isNone with
    | none => r.unchanged (.ok ())
    | some p =>
      let s := r.unregister name
      ⟨s.registry, s.actions, .error (.defect (.missingDatatype name p.name))⟩

end Registry

end CommandShell
