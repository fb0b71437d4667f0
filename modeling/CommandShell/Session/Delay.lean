import CommandShell.Failure
import CommandShell.Number.Arithmetic

/-! # Delays

A delay in the settings is a number of milliseconds. It is looked at only when it is needed, so a
setting that is no number comes to light as a fault at that time. -/

namespace CommandShell

/-- How long to wait. -/
inductive Delay where
  | none
  | millis (q : Rat)
  | forever
deriving DecidableEq, Repr

namespace Delay

/-- A positive number of milliseconds, as far as there are so many seconds. -/
def ofInt (n : Int) : Except Fault Delay :=
  if n ≤ 0 then .ok .none
  else
    match Binary64.ofRat (mkRat n 1000) with
    | .finite _ _ _ => .ok (.millis n)
    | _ => .error (.overflow "integer division result too large for a float")

def ofFloat (x : Binary64) : Delay :=
  if !x.isPositive then .none else x.toRat?.elim .forever .millis

/-- The delay of a number, and nothing for other values. -/
def ofNumber? : Value → Option (Except Fault Delay)
  | .bool b => some (ofInt (if b then 1 else 0))
  | .int n => some (ofInt n)
  | .float x => some (.ok (ofFloat x))
  | _ => Option.none

/-- The delay after a chain. -/
def afterChain (v : Value) : Except Fault Delay :=
  (ofNumber? v).getD (.error (.type
    s!"\x27>\x27 not supported between instances of \x27{v.typeName}\x27 and \x27int\x27"))

end Delay

end CommandShell
