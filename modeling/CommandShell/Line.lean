/-! # Lines of output

What commands produce and the presenter shows: lines of four kinds, of which two carry a label that
says where the line belongs. -/

namespace CommandShell

inductive LineKind where
  | line
  | error
  | status
  | markup
deriving DecidableEq, Repr, Inhabited

namespace LineKind

def all : List LineKind := [.line, .error, .status, .markup]

def name : LineKind → String
  | .line => "line"
  | .error => "error"
  | .status => "status"
  | .markup => "markup"

def ofName? (s : String) : Option LineKind := all.find? fun k => k.name == s

end LineKind

/-- A line of output. A `markup` line holds escaped text with marks. -/
structure Line where
  kind : LineKind
  content : String
  label : String
deriving DecidableEq, Repr, Inhabited

namespace Line

def plain (content : String) (label : String := "") : Line := ⟨.line, content, label⟩
def error (content : String) : Line := ⟨.error, content, ""⟩
def status (content : String) : Line := ⟨.status, content, ""⟩
def markup (content : String) (label : String := "") : Line := ⟨.markup, content, label⟩

/-- The line as it is displayed: errors and status lines stand without a label. -/
def displayed (l : Line) : Line :=
  match l.kind with
  | .line | .markup => l
  | .error | .status => { l with label := "" }

end Line

/-- What one stage of a chain hands to the next: no lines at all, or a list of them. -/
abbrev Pipe := Option (List Line)

end CommandShell
