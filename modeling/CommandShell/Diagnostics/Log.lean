import CommandShell.Calendar.Format
import CommandShell.Diagnostics.Compression
import CommandShell.Service
import CommandShell.Value

/-! # The diagnostics log

What the services did and when, in order. While the log is disabled nothing is added to it. For
display every entry becomes a line that starts with its time. -/

namespace CommandShell

/-- A clock that shows the given times first and then advances by equal steps. -/
structure Clock where
  ticks : List Int := []
  next : Int := 0
  step : Int := 0
deriving DecidableEq, Repr, Inhabited

/-- The time on a clock, and the clock afterwards. -/
def Clock.read (c : Clock) : Int × Clock :=
  match c.ticks with
  | t :: rest => (t, { c with ticks := rest })
  | [] => (c.next, { c with next := c.next + c.step })

namespace Diagnostics

/-- The format of times unless another one is asked for. -/
def defaultFormat : String := "%d/%m/%Y %H:%M:%S"

/-- Why a time cannot be shown: it is out of range, or the format is no text. -/
inductive StampFault where
  | moment (fault : MomentFault)
  | format (typeName : String)
deriving DecidableEq, Repr

def StampFault.message : StampFault → String
  | .moment fault => fault.message
  | .format typeName => s!"strftime() argument 1 must be str, not {typeName}"

/-- A time by a format, followed by its milliseconds. -/
def stamp (format : Value) (millis : Int) : Except StampFault String :=
  match Moment.ofMillis millis with
  | .error fault => .error (.moment fault)
  | .ok m =>
    match format with
    | .str fmt =>
      .ok (m.format fmt ++ "." ++ String.ofList (Moment.zeroPadded 3 (millis % 1000).toNat))
    | .null => .error (.format "None")
    | v => .error (.format v.typeName)

structure Entry where
  action : String
  millis : Int
deriving DecidableEq, Repr

/-- The log of a session with the clock that gives its times. -/
structure Log where
  life : Lifecycle := {}
  clock : Clock := {}
  entries : List Entry := []
deriving Repr, Inhabited

namespace Log

/-- Adds an action at the time that the clock shows. -/
def record (log : Log) (action : String) : Log :=
  if log.life.enabled then
    let (now, clock) := log.clock.read
    { log with clock, entries := log.entries ++ [⟨action, now⟩] }
  else log

def recordAll (log : Log) (actions : List String) : Log := actions.foldl record log

/-- Changes the state of the log itself, which is an action too. -/
def change (log : Log) (step : Lifecycle → Lifecycle) : Log :=
  let after := step log.life
  { log with life := after }.recordAll (log.life.changes Service.diagnostics.title after)

def clear (log : Log) : Log := { log with entries := [] }

/-- The entries as lines. -/
def lines (log : Log) (format : Value) : Except StampFault (List String) :=
  log.entries.mapM fun e => return s!"[{← stamp format e.millis}] {e.action}"

/-- The lines, compressed and with repeated times left blank. -/
def dump (log : Log) (format : Value) : Except StampFault (List String) :=
  (log.lines format).map fun ls => blankRepeated (compress ls)

end Log

end Diagnostics

end CommandShell
