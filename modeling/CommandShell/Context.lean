import CommandShell.Failure

/-! # The context of a session

What the parts of a session share: its configuration, a log of structured events, and warnings by
their source. The log may be limited, and then drops its oldest events. -/

namespace CommandShell

/-- An event: its fields in order. -/
abbrev Event := Table Value

/-- The field of an event is this text. -/
def Event.isText (event : Event) (field text : String) : Bool :=
  match event.get? field with
  | some (.str s) => s == text
  | _ => false

/-- How serious an event is. -/
inductive Level where
  | info
  | warning
  | error
deriving DecidableEq, Repr

def Level.name : Level → String
  | .info => "INFO"
  | .warning => "WARNING"
  | .error => "ERROR"

structure Context where
  session : String
  config : Value
  /-- the most events that are kept, if there is a limit -/
  eventLimit : Option Nat := none
  events : List Event := []
  warnings : Table (List String) := []
deriving Repr, Inhabited

/-- The last items of a list, as many as a limit allows. -/
def lastOf {α : Type} (limit : Option Nat) (xs : List α) : List α :=
  match limit with
  | none => xs
  | some n => xs.drop (xs.length - n)

/-- The event of a session. Further fields may replace the first ones. -/
def Event.of (session source level message : String) (more : Table Value) : Event :=
  let first : Event := [("session_id", .str session), ("source", .str source),
    ("level", .str level), ("message", .str message)]
  more.foldl (fun e f => e.put f.1 f.2) first

namespace Context

/-- Adds an event. -/
def log (c : Context) (source level message : String) (more : Table Value) : Context :=
  let event := Event.of c.session source level message more
  { c with events := lastOf c.eventLimit (c.events ++ [event]) }

def warn (c : Context) (source message : String) : Context :=
  { c with warnings := c.warnings.put source ((c.warnings.get? source).getD [] ++ [message]) }

/-- The events of a level, from one source or from all. -/
def eventsAt (c : Context) (level : String) (source : Option String) : List Event :=
  c.events.filter fun e => Event.isText e "level" level && source.all (Event.isText e "source")

end Context

/-- The setting of a key in a section of a configuration, or what it is without one. -/
def Value.setting (config : Value) (section_ key : String) (fallback : Value) : Value :=
  (((config.field? section_).bind (·.field? key))).getD fallback

end CommandShell
