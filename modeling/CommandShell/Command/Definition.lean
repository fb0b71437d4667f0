import CommandShell.Command.Parameter

/-! # Definitions of commands -/

namespace CommandShell

/-- A command with handlers of type `η`. -/
structure Definition (η : Type) where
  name : String
  handler : η
  description : String := ""
  schema : List Parameter := []
  /-- left out of the list of commands -/
  hidden : Bool := false
  /-- another name for the command -/
  otherName : Option String := none
  /-- the command that this one is another name for -/
  aliasOf : Option String := none

namespace Definition

variable {η : Type}

/-- The other name, when there is one. -/
def otherName? (d : Definition η) : Option String := d.otherName.filter (· ≠ "")

/-- The name of the command that this is one of the names of. -/
def canonicalName (d : Definition η) : String := (d.aliasOf.filter (· ≠ "")).getD d.name

def positionals (d : Definition η) : List Parameter := d.schema.filter fun p => !p.isFlag

def flags (d : Definition η) : List Parameter := d.schema.filter Parameter.isFlag

/-- The first flag that a key names. -/
def findFlag? (d : Definition η) (key : String) : Option Parameter :=
  d.flags.find? fun p => p.isNamed key

/-- The same command under another name. -/
def renamed (d : Definition η) (other : String) : Definition η :=
  { d with name := other, otherName := none, aliasOf := some d.name }

end Definition

end CommandShell
