import CommandShell.Command.Registry
import CommandShell.Line
import CommandShell.Text.Case

/-! # Help on commands

The list of commands, and the lines that describe one of them. -/

namespace CommandShell

/-- What stands in for a missing description. -/
def noDescription : String := "No description available"

def orNoDescription (s : String) : String := if s = "" then noDescription else s

def yesNo (b : Bool) : String := if b then "Yes" else "No"

/-- The short name of a flag, unless it has none. -/
def Parameter.short? (p : Parameter) : Option String := p.shortName.filter (· ≠ "")

def Parameter.shortLabel (p : Parameter) : String :=
  match p.short? with
  | some s => s!"-{s}"
  | none => s!"--{p.name}"

def Parameter.longLabel (p : Parameter) : String :=
  match p.short? with
  | some s => s!"-{s}|--{p.name}"
  | none => s!"--{p.name}"

def Parameter.datatypeName (p : Parameter) : String := p.datatype.elim "?" (·.name)

/-- A part of a usage line; what may be left out stands in brackets. -/
def usagePart (required : Bool) (label : String) : String :=
  if required then s!" {label}" else s!" [{label}]"

namespace Definition

variable {η : Type}

def positionalUsage (d : Definition η) : String :=
  String.join (d.positionals.map fun p => if p.required then s!" <{p.name}>" else s!" [{p.name}]")

/-- How a command is called, with the short names of its flags. -/
def usage (d : Definition η) (name : String) : String :=
  s!"Usage: {name}{d.positionalUsage}"
    ++ String.join (d.flags.map fun p => usagePart p.required p.shortLabel)

/-- How a command is called, with all names and the datatypes of its flags. -/
def fullUsage (d : Definition η) (name : String) : String :=
  s!"Usage: {name}{d.positionalUsage}"
    ++ String.join (d.flags.map fun p =>
      usagePart p.required s!"{p.longLabel}=<{p.datatypeName}>")

/-- The line about the other name of a command. -/
def aliasLine (d : Definition η) : List String :=
  match d.aliasOf.filter (· ≠ ""), d.otherName? with
  | some group, _ => [s!"Alias of: {group}"]
  | none, some other => [s!"Alias: {other}"]
  | none, none => []

def positionalLines (p : Parameter) : List String :=
  [s!"{p.name}: {orNoDescription p.description}", "    Type: positional",
    s!"    Required: {yesNo p.required}"]
    ++ (match p.allowed with
      | some (v :: vs) => ["    Options: " ++ ", ".intercalate (v :: vs)]
      | _ => [])
    ++ [""]

def flagLines (p : Parameter) : List String :=
  [s!"{p.longLabel}: {orNoDescription p.description}", "    Type: flag",
    s!"    Datatype: {p.datatypeName}", s!"    Required: {yesNo p.required}", ""]

/-- All about a command. -/
def describe (d : Definition η) (name : String) : List String :=
  [d.fullUsage name, orNoDescription d.description] ++ d.aliasLine ++ [""]
    ++ d.positionals.flatMap positionalLines ++ d.flags.flatMap flagLines

end Definition

/-- The order of the list of commands: without regard to case first. -/
def listedBefore (a b : String) : Bool :=
  let x := Text.lower a
  let y := Text.lower b
  x < y || (x == y && !(b < a))

namespace Registry

variable {η : Type}

/-- How a command stands in the list. -/
def listEntry (r : Registry η) (withAliases : Bool) (name : String) : String :=
  match if withAliases then r.aliasesOf name else [] with
  | [] => name
  | others => s!"{name} (" ++ ", ".intercalate others ++ ")"

/-- The commands that can be run, without hidden ones and other names. -/
def listed (r : Registry η) : List String :=
  r.registeredNames.filter fun name =>
    (r.definition? name).any fun d => (d.aliasOf.filter (· ≠ "")).isNone && !d.hidden

/-- The list of commands. -/
def listCommands (r : Registry η) (withAliases : Bool) : List String :=
  (r.listed.map (r.listEntry withAliases)).mergeSort listedBefore

end Registry

end CommandShell
