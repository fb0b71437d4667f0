import CommandShell.Table
import CommandShell.Value

/-! # Chains of commands

A fragment is one invocation: the name of a command, its positional arguments, and its flags. A chain
is a sequence of at least one fragment, each of which hands its output to the next. -/

namespace CommandShell

/-- The flags of an invocation, by name. -/
abbrev Flags := Table Value

/-- One invocation of a command. -/
structure Fragment where
  name : String
  args : List String := []
  flags : Flags := []
deriving Repr, Inhabited

/-- A sequence of at least one fragment. -/
structure Chain where
  fragments : List Fragment
  nonempty : fragments ≠ []

namespace Chain

/-- The message about a chain without fragments. -/
def emptyMessage : String := "CommandChain requer ao menos um fragmento"

def ofList? (fragments : List Fragment) : Option Chain :=
  if h : fragments ≠ [] then some ⟨fragments, h⟩ else none

/-- The chain of one command without arguments. -/
def single (name : String) : Chain := ⟨[{ name }], by simp⟩

/-- The names of the fragments with underscores between them. -/
def label (chain : Chain) : String := "_".intercalate (chain.fragments.map (·.name))

def length (chain : Chain) : Nat := chain.fragments.length

end Chain

end CommandShell
