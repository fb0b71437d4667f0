import CommandShell.Failure

/-! # Cancellation

Every running chain has a token. Cancelling it cannot be undone and calls the hooks that wait for it,
each once, in the order in which they came. A hook that comes later is called at once. One that fails
does not keep the others from being called: its fault goes to whoever takes reports, and without one
the first fault is what cancelling ends with. -/

namespace CommandShell

/-- A program that is called when a chain is cancelled. It may have effects of type `ε`, add further
hooks, cancel again, and fail. -/
inductive Hook (ε : Type) where
  | stop
  | fail (fault : Fault)
  | effect (e : ε) (rest : Hook ε)
  | add (hook : Hook ε) (rest : Hook ε)
  | cancel (reason : Option String) (rest : Hook ε)
deriving Repr, Inhabited

/-- What hooks have brought about: an effect, or the report of a fault. -/
inductive Deed (ε : Type) where
  | effect (e : ε)
  | report (fault : Fault)
deriving Repr

/-- What hooks did, in order, and the fault that they end with. -/
structure Calls (ε : Type) where
  deeds : List (Deed ε) := []
  fault : Option Fault := none
deriving Repr

namespace Calls

variable {ε : Type}

/-- The fault that calls end with is reported, when reports are taken. -/
def reported (reports : Bool) (c : Calls ε) : Calls ε :=
  match c.fault with
  | some f => if reports then ⟨c.deeds ++ [.report f], none⟩ else c
  | none => c

end Calls

namespace Hook

variable {ε : Type}

/-- Calls a hook after the cancellation. A hook that it adds is called there and then, and if that
one ends with a fault, so does this one. -/
def call (reports : Bool) : Hook ε → Calls ε
  | .stop => {}
  | .fail f => { fault := some f }
  | .effect e rest =>
    let c := rest.call reports
    { c with deeds := .effect e :: c.deeds }
  | .add hook rest =>
    let one := (hook.call reports).reported reports
    match one.fault with
    | some _ => one
    | none =>
      let c := rest.call reports
      { c with deeds := one.deeds ++ c.deeds }
  | .cancel _ rest => rest.call reports

/-- Calls hooks in order. Without reports the first fault is the one they end with. -/
def callAll (reports : Bool) : List (Hook ε) → Calls ε
  | [] => {}
  | hook :: hooks =>
    let one := (hook.call reports).reported reports
    let more := callAll reports hooks
    ⟨one.deeds ++ more.deeds, one.fault.or more.fault⟩

end Hook

/-- The token of a chain. -/
structure Token (ε : Type) where
  /-- faults of hooks are reported -/
  reports : Bool
  /-- the reason of the cancellation, once there was one -/
  reason : Option (Option String) := none
  hooks : List (Hook ε) := []
deriving Repr, Inhabited

namespace Token

variable {ε : Type}

def isCancelled (t : Token ε) : Bool := t.reason.isSome

/-- The interruption that a cancelled token stands for. -/
def interruption? (t : Token ε) : Option Refusal := t.reason.map Refusal.interruption

/-- Cancels a token; a second time changes nothing. -/
def cancel (t : Token ε) (reason : Option String) : Token ε × Calls ε :=
  if t.isCancelled then (t, {})
  else ({ t with reason := some reason, hooks := [] }, Hook.callAll t.reports t.hooks)

/-- Adds a hook, which is called at once when the token is cancelled already. -/
def addHook (t : Token ε) (hook : Hook ε) : Token ε × Calls ε :=
  if t.isCancelled then (t, Hook.callAll t.reports [hook])
  else ({ t with hooks := t.hooks ++ [hook] }, {})

end Token

end CommandShell
