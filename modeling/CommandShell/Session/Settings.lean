import CommandShell.Config.Defaults
import CommandShell.Config.Fingerprint
import CommandShell.Context
import CommandShell.Number.Numeral

/-! # Settings

A session takes its settings from a configuration, in which nearly everything may be missing. What a
setting cannot be ends the building of the session; the delays are looked at only when they are
needed. -/

namespace CommandShell

/-- The configuration as far as a session uses it. -/
structure Settings where
  config : Value
  fingerprint : String
  eventLimit : Option Nat
  stepDelay : Value
  historyLimit : Option Nat
  interval : Value
  /-- the services that the watchdog looks after -/
  critical : List Value
  transcriptLimit : Int
  diagnostics : Bool
  watchdog : Bool
  /-- the commands that are registered at the start -/
  registered : List Value
deriving Repr, Inhabited

namespace Settings

/-- The whole number that a value stands for; what does not count as true stands for zero. -/
def wholeNumber (v : Value) : Except Fault Int :=
  if !v.isTruthy then .ok 0
  else
    match v with
    | .bool _ => .ok 1
    | .int n => .ok n
    | .float x =>
      match x with
      | .notANumber => .error (.value "cannot convert float NaN to integer")
      | x =>
        match x.truncate? with
        | some n => .ok n
        | none => .error (.overflow "cannot convert float infinity to integer")
    | .str s => (Numeral.read s).mapError fun f => .value f.message
    | v => .error (.type
        ("int() argument must be a string, a bytes-like object or a real number, not "
          ++ s!"\x27{v.typeName}\x27"))

/-- The greatest limit that a list can have. -/
def greatestLimit : Int := 0x7FFFFFFFFFFFFFFF

/-- The limit that a number sets; zero sets none. -/
def limitOf (n : Int) : Except Fault (Option Nat) :=
  if n < 0 then .error (.value "maxlen must be non-negative")
  else if greatestLimit < n then
    .error (.overflow "Python int too large to convert to C ssize_t")
  else .ok (if n = 0 then none else some n.toNat)

/-- The items of a value: those of a list, the characters of a text, the keys of a mapping. -/
def itemsOf (v : Value) : Except Fault (List Value) :=
  match v with
  | .list vs => .ok vs
  | .str s => .ok (s.toList.map fun c => .str (String.singleton c))
  | .map es => .ok (es.map fun e => .scalar e.1)
  | v => .error (.type s!"\x27{v.typeName}\x27 object is not iterable")

/-- The value of a key in a section that has to be a mapping, if it is there and not empty. -/
def strictSetting (config : Value) (part key : String) (fallback : Value) : Except Fault Value :=
  match (config.field? part).filter Value.isTruthy with
  | none => .ok fallback
  | some (.map es) => .ok ((Entries.get? (.str key) es).getD fallback)
  | some v => .error ⟨"AttributeError", s!"\x27{v.typeName}\x27 object has no attribute \x27get\x27"⟩

/-- The settings in a configuration. The first that is none decides what is wrong. -/
def read (config : Value) : Except Fault Settings := do
  let fingerprint ← (Config.fingerprint config).mapError fun f => Fault.mk f.kind f.message
  let eventLimit ← limitOf (← wholeNumber (← strictSetting config "shell" "event_limit" (.int 0)))
  let historyLimit ← limitOf (← wholeNumber (config.setting "engine" "history_limit" (.int 0)))
  let critical ← itemsOf (config.setting "watchdog" "critical_services"
    (.list [.str "commandexec", .str "commands"]))
  let transcriptLimit ← wholeNumber (config.setting "shell" "transcript_limit" (.int 0))
  let registered ← itemsOf (config.setting "commands" "registered"
    (.list (Config.defaultCommands.map .str)))
  return {
    config, fingerprint, eventLimit, historyLimit, critical, transcriptLimit, registered
    stepDelay := config.setting "engine" "step_delay_ms" (.int 50)
    interval := config.setting "watchdog" "interval_ms" (.int 100)
    diagnostics := (config.setting "diagnostics" "enabled" (.bool true)).isTruthy
    watchdog := (config.setting "watchdog" "enabled" (.bool true)).isTruthy }

end Settings

end CommandShell
