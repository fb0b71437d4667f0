import CommandShell.Command.Definition
import CommandShell.Service
import CommandShell.Table
import CommandShell.Text.Blank

/-! # The registry of commands

The registry holds the definitions of commands and knows which of them are registered, that is, can
be run. A command and its other name are one group, which is registered as a whole. While the
registry is disabled no command can be seen. -/

namespace CommandShell

structure Registry (η : Type) where
  life : Lifecycle := {}
  definitions : Table (Definition η) := []
  /-- the group that each name belongs to, given by the command's own name -/
  groups : Table String := []
  registered : List String := []

/-- Why a command cannot be defined. -/
inductive DefineFault where
  | blankName
  | duplicate (name : String)
deriving DecidableEq, Repr

def DefineFault.message : DefineFault → String
  | .blankName => "command name must be a non-empty string"
  | .duplicate name => s!"Duplicate command name: \"{name}\""

/-- An operation asks for a name that no command has. -/
structure UnknownCommand where
  verb : String
  name : String
deriving DecidableEq, Repr

def UnknownCommand.message (u : UnknownCommand) : String :=
  s!"Cannot {u.verb} unknown command: \"{u.name}\""

namespace Registry

variable {η : Type}

/-- What an operation leaves behind: the registry, what was recorded, and its result. -/
structure Step (η ρ : Type) where
  registry : Registry η
  actions : List String
  result : ρ

/-- Nothing has changed. -/
def unchanged {ρ : Type} (r : Registry η) (result : ρ) : Step η ρ := ⟨r, [], result⟩

/-- A definition at work: what it has written before it fails is not taken back. -/
abbrev Defining (η : Type) := ExceptT DefineFault (StateM (Registry η))

/-- Fails at the first of the names that is already defined. -/
def checkFree : List String → Defining η Unit
  | [] => pure ()
  | name :: names => do
    if (← get).definitions.has name then throw (.duplicate name)
    checkFree names

/-- Enters a definition under a name of a group. -/
def enter (name group : String) (d : Definition η) (r : Registry η) : Registry η :=
  { r with definitions := r.definitions.put name d, groups := r.groups.put name group }

/-- Checks the names of a command, and enters it, and under its other name a copy of it. -/
def defining (d : Definition η) : Defining η Unit := do
  if d.name.toList.all Text.isBlank then throw .blankName
  checkFree (d.name :: d.otherName?.toList)
  modify (enter d.name d.name d)
  match d.otherName? with
  | none => pure ()
  | some other => modify (enter other d.name (d.renamed other))

/-- Defines a command. -/
def define (r : Registry η) (d : Definition η) : Except DefineFault (Registry η) :=
  match (defining d).run.run r with
  | (.ok (), r) => .ok r
  | (.error fault, _) => .error fault

/-- The definition of a name, registered or not. -/
def definition? (r : Registry η) (name : String) : Option (Definition η) := r.definitions.get? name

/-- The names that are other names for the command that `name` belongs to. -/
def aliasesOf (r : Registry η) (name : String) : List String :=
  match r.groups.get? name with
  | none => []
  | some group => (r.definitions.filter fun d => d.2.aliasOf == some group).map (·.1)

/-- Registers the group of a name. -/
def register (r : Registry η) (name : String) : Step η (Except UnknownCommand Unit) :=
  match r.groups.get? name with
  | none => r.unchanged (.error ⟨"register", name⟩)
  | some group =>
    if group ∈ r.registered then r.unchanged (.ok ())
    else ⟨{ r with registered := r.registered ++ [group] },
      [Service.registry.action s!"register {name}"], .ok ()⟩

/-- Takes the group of a name out of the registered ones. -/
def unregister (r : Registry η) (name : String) : Step η (Except UnknownCommand Unit) :=
  match r.groups.get? name with
  | none => r.unchanged (.error ⟨"unregister", name⟩)
  | some group =>
    if group ∈ r.registered then
      ⟨{ r with registered := r.registered.filter (· ≠ group) },
        [Service.registry.action s!"unregister {name}"], .ok ()⟩
    else r.unchanged (.ok ())

/-- Does one operation for each name in order, up to the first that fails. -/
def forEach (op : Registry η → String → Step η (Except UnknownCommand Unit)) (r : Registry η) :
    List String → Step η (Except UnknownCommand Unit)
  | [] => r.unchanged (.ok ())
  | name :: rest =>
    let one := op r name
    match one.result with
    | .error fault => ⟨one.registry, one.actions, .error fault⟩
    | .ok () =>
      let more := forEach op one.registry rest
      ⟨more.registry, one.actions ++ more.actions, more.result⟩

/-- An operation for all names, recorded when none of them fails. -/
def bulk (op : Registry η → String → Step η (Except UnknownCommand Unit)) (what : String)
    (r : Registry η) (names : List String) : Step η (Except UnknownCommand Unit) :=
  let s := forEach op r names
  match s.result with
  | .error _ => s
  | .ok () =>
    { s with actions := s.actions ++ [Service.registry.action (s!"{what} " ++ "_".intercalate names)] }

def bulkRegister (r : Registry η) (names : List String) : Step η (Except UnknownCommand Unit) :=
  bulk register "bulkRegister" r names

def bulkUnregister (r : Registry η) (names : List String) : Step η (Except UnknownCommand Unit) :=
  bulk unregister "bulkUnregister" r names

/-- The name can be run. -/
def isRegistered (r : Registry η) (name : String) : Bool :=
  r.life.enabled && (r.groups.get? name).any (r.registered.contains ·)

/-- The names that can be run, in the order of their definitions. -/
def registeredNames (r : Registry η) : List String := r.definitions.names.filter r.isRegistered

/-- The registered groups, in the order of their definitions. -/
def registeredGroups (r : Registry η) : List String :=
  r.definitions.names.filter (r.registered.contains ·)

/-- The definition of a name that can be run. -/
def lookup (r : Registry η) (name : String) : Step η (Option (Definition η)) :=
  match r.definitions.get? name with
  | some d =>
    if r.isRegistered name then ⟨r, [Service.registry.action s!"get {name}"], some d⟩
    else r.unchanged none
  | none => r.unchanged none

end Registry

end CommandShell
