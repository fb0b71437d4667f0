/-! # A place in a text

The characters still to be read, together with the number of those before them, the line and the
column. -/

namespace CommandShell.Yaml

/-- Line breaks. -/
def isBreak (c : Char) : Bool :=
  c == '\n' || c == '\r' || c == '\x85' || c == '\u2028' || c == '\u2029'

/-- The line ends here. -/
def endsLine : Option Char → Bool
  | none => true
  | some c => isBreak c

/-- A space, the end of the line, or the end of the text. -/
def endsName : Option Char → Bool
  | some ' ' => true
  | c => endsLine c

/-- A space, a tab, the end of the line, or the end of the text. -/
def endsWord : Option Char → Bool
  | some '\t' => true
  | c => endsName c

structure Cursor where
  rest : List Char
  index : Nat := 0
  line : Nat := 0
  column : Nat := 0

namespace Cursor

def peek (cur : Cursor) (ahead : Nat := 0) : Option Char := cur.rest[ahead]?

/-- Goes past one character. -/
def step (cur : Cursor) : Cursor :=
  match cur.rest with
  | [] => cur
  | c :: r =>
    let index := cur.index + 1
    if isBreak c && !(c == '\r' && r.head? == some '\n') then ⟨r, index, cur.line + 1, 0⟩
    else if c == '\uFEFF' then ⟨r, index, cur.line, cur.column⟩
    else ⟨r, index, cur.line, cur.column + 1⟩

/-- Goes past `n` characters. -/
def skip : Nat → Cursor → Cursor
  | 0, cur => cur
  | n + 1, cur => skip n cur.step

/-- Goes past the characters that satisfy `p`. -/
def skipWhile (p : Char → Bool) (cur : Cursor) : Cursor := cur.skip (cur.rest.takeWhile p).length

/-- Goes past one line break and gives what it counts as. -/
def lineBreak (cur : Cursor) : List Char × Cursor :=
  match cur.rest with
  | '\r' :: '\n' :: _ => (['\n'], cur.skip 2)
  | c :: _ =>
    if c == '\u2028' || c == '\u2029' then ([c], cur.step)
    else if isBreak c then (['\n'], cur.step)
    else ([], cur)
  | [] => ([], cur)

/-- Three dashes or three points that stand alone. -/
def atSeparator (cur : Cursor) : Bool :=
  (cur.rest.take 3 == ['-', '-', '-'] || cur.rest.take 3 == ['.', '.', '.'])
    && endsWord (cur.peek 3)

end Cursor

end CommandShell.Yaml
