import CommandShell.Chain
import CommandShell.Text.Blank

/-! # Reading a line of input

A line is read in two steps. Bars outside quotes divide it into stages, and blanks outside quotes
divide a stage into words; the first word names the command, and the others are its arguments and
flags. `Chain.read?` joins the two. -/

namespace CommandShell

/-- Which quote is open. -/
inductive Quote where
  | outside
  | single
  | double
deriving DecidableEq, Repr

namespace Quote

/-- What is open behind a character: inside one kind of quotes the other kind is an ordinary
character. -/
def after (q : Quote) (c : Char) : Quote :=
  match q with
  | .outside => if c = '\x22' then .double else if c = '\x27' then .single else .outside
  | .single => if c = '\x27' then .outside else .single
  | .double => if c = '\x22' then .outside else .double

/-- The character opens or closes the quotes. -/
def turnsAt (q : Quote) (c : Char) : Bool := q.after c != q

end Quote

namespace Stage

/-- Puts characters in front of the first of the pieces. -/
def extend (cs : List Char) : List (List Char) → List (List Char)
  | [] => [cs]
  | p :: ps => (cs ++ p) :: ps

/-- The text between the bars that stand outside quotes. A backslash protects the character behind
it, and both stay in the piece. -/
def pieces (q : Quote) : List Char → List (List Char)
  | [] => [[]]
  | ['\\'] => [['\\']]
  | '\\' :: c :: r => extend ['\\', c] (pieces q r)
  | c :: r =>
    if c = '|' ∧ q = .outside then [] :: pieces q r else extend [c] (pieces (q.after c) r)

/-- The stages of a line: its pieces without the blanks at their ends; empty ones are left out. -/
def ofText (cs : List Char) : List (List Char) :=
  ((pieces .outside cs).map Text.trim).filter (· ≠ [])

end Stage

/-- A word of a stage without its quotes. It is `quoted` when a quote opened in front of its first
character. -/
structure Word where
  text : List Char
  quoted : Bool
deriving DecidableEq, Repr

namespace Word

/-- The characters that a backslash makes ordinary. In front of any other it is itself ordinary. -/
def isEscapable (c : Char) : Bool := c == ' ' || c == '\x22' || c == '\x27' || c == '\\'

/-- The word read so far, when it has characters. -/
def close (current : List Char) (quoted : Bool) : List Word :=
  if current.isEmpty then [] else [⟨current, quoted⟩]

/-- The words from a place on, given the open quote, the characters of the current word, and whether
a quote opened in front of them. -/
def scan (q : Quote) (current : List Char) (quoted : Bool) : List Char → List Word
  | [] => close current quoted
  | ['\\'] => close (current ++ ['\\']) quoted
  | '\\' :: c :: r =>
    if isEscapable c then scan q (current ++ [c]) quoted r
    else scan q (current ++ ['\\']) quoted (c :: r)
  | c :: r =>
    if q.turnsAt c then scan (q.after c) current (quoted || (q == .outside && current.isEmpty)) r
    else if Text.isBlank c && q == .outside then
      if current.isEmpty then scan q [] quoted r else ⟨current, quoted⟩ :: scan q [] false r
    else scan q (current ++ [c]) quoted r

/-- The words of a text. -/
def ofText (cs : List Char) : List Word := scan .outside [] false cs

/-- What stands before the first equals sign, and behind it when there is one. -/
def assignment (cs : List Char) : String × Value :=
  let key := String.ofList (cs.takeWhile (· ≠ '='))
  match cs.dropWhile (· ≠ '=') with
  | [] => (key, .bool true)
  | _ :: value => (key, .str (String.ofList value))

/-- The name and the value of the flag that a word stands for. A quoted word, and a lone dash, are
arguments. -/
def flag? (w : Word) : Option (String × Value) :=
  if w.quoted then none
  else
    match w.text with
    | '-' :: '-' :: r => some (assignment r)
    | '-' :: c :: r => some (assignment (c :: r))
    | _ => none

/-- The argument that a word stands for, unless it is a flag. -/
def argument? (w : Word) : Option String :=
  if w.flag?.isSome then none else some (String.ofList w.text)

end Word

namespace Fragment

/-- The first word is the name, and the others are arguments and flags. -/
def ofWords : List Word → Fragment
  | [] => { name := "" }
  | w :: ws =>
    { name := String.ofList w.text
      args := ws.filterMap Word.argument?
      flags := Table.ofList (ws.filterMap Word.flag?) }

/-- Reads one stage. -/
def ofText (cs : List Char) : Fragment := ofWords (Word.ofText cs)

end Fragment

/-- Reads a line; a line without commands is no chain. -/
def Chain.read? (text : String) : Option Chain :=
  Chain.ofList? (((Stage.ofText text.toList).map Fragment.ofText).filter (·.name ≠ ""))

end CommandShell
