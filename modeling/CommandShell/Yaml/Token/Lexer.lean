import CommandShell.Yaml.Token.Names
import CommandShell.Yaml.Token.Scalars

/-! # The tokens of a document

Structure comes from marks and, outside brackets, from indentation: a token further right than the
structure it stands in opens a new one, and one further left closes those it has left. A key of a
mapping is recognised only at the colon behind it, so its mark is put in afterwards. -/

namespace CommandShell.Yaml

/-- A place at which a key may have started. It has to be one when it stands at the indentation of
its structure. -/
structure PossibleKey where
  place : Nat
  required : Bool
  index : Nat
  line : Nat
  column : Nat

structure Lexer where
  cur : Cursor
  /-- the tokens so far, the last one first -/
  tokens : List Token := []
  count : Nat := 0
  /-- the indentation of the innermost structure, and those around it -/
  indent : Int := -1
  outer : List Int := []
  mayStartKey : Bool := true
  /-- for each bracket that is open, and for the text outside, the possible key in it -/
  keys : List (Option PossibleKey) := [none]

namespace Lexer

def inFlow (l : Lexer) : Bool := 1 < l.keys.length

def emit (t : Token) (l : Lexer) : Lexer := { l with tokens := t :: l.tokens, count := l.count + 1 }

/-- Puts a token in at the place of an earlier one. -/
def insertAt (place : Nat) (t : Token) (l : Lexer) : Lexer :=
  let later := l.count - place
  { l with
    tokens := l.tokens.take later ++ t :: l.tokens.drop later
    count := l.count + 1 }

/-- Spaces, comments and line ends; outside brackets a key may start on a new line. -/
def toNextToken : Nat → Lexer → Lexer
  | 0, l => l
  | fuel + 1, l =>
    let cur := l.cur.skipWhile (· == ' ')
    let cur := if cur.peek == some '#' then cur.skipWhile fun c => !isBreak c else cur
    if cur.peek.any isBreak then
      toNextToken fuel
        { l with cur := cur.lineBreak.2, mayStartKey := l.mayStartKey || !l.inFlow }
    else { l with cur }

/-- A key ends on the line on which it starts, and after at most 1024 characters. -/
def PossibleKey.isStale (k : PossibleKey) (cur : Cursor) : Bool :=
  k.line != cur.line || 1024 < cur.index - k.index

/-- Gives up the possible keys that can be keys no more. -/
def dropStale (l : Lexer) : Option Lexer :=
  let stale (k : Option PossibleKey) : Bool := k.any (PossibleKey.isStale · l.cur)
  if l.keys.any fun k => stale k && k.any (·.required) then none
  else some { l with keys := l.keys.map fun k => if stale k then none else k }

/-- Gives up the possible key of the innermost bracket. -/
def dropKey (l : Lexer) : Option Lexer :=
  match l.keys with
  | some k :: rest => if k.required then none else some { l with keys := none :: rest }
  | _ => some l

/-- Notes that a key may start here. -/
def saveKey (l : Lexer) : Option Lexer :=
  if l.mayStartKey then do
    let l ← l.dropKey
    let key : PossibleKey :=
      { place := l.count, required := !l.inFlow && l.indent == l.cur.column
        index := l.cur.index, line := l.cur.line, column := l.cur.column }
    return { l with keys := some key :: l.keys.drop 1 }
  else some l

/-- Closes the structures that are indented further than a column. -/
def unwindTo (column : Int) : List Int → Lexer → Lexer
  | [], l => l
  | i :: outer, l =>
    if column < l.indent then unwindTo column outer { l.emit .blockEnd with indent := i, outer }
    else l

def unwind (column : Int) (l : Lexer) : Lexer := if l.inFlow then l else unwindTo column l.outer l

/-- Opens a structure at a column when it lies further right than the innermost one. -/
def openBlock (column : Nat) (place : Nat) (t : Token) (l : Lexer) : Lexer :=
  if l.indent < column then
    { l.insertAt place t with indent := column, outer := l.indent :: l.outer }
  else l

/-- Goes past a mark of `n` characters. -/
def mark (n : Nat) (t : Token) (l : Lexer) : Lexer := { l.emit t with cur := l.cur.skip n }

/-- Closes all structures in front of a directive or a separator of documents. -/
def closeAll (l : Lexer) : Option Lexer := do
  let l ← (l.unwind (-1)).dropKey
  return { l with mayStartKey := false }

def openBracket (t : Token) (l : Lexer) : Option Lexer := do
  let l ← l.saveKey
  return { l.mark 1 t with keys := none :: l.keys, mayStartKey := true }

def closeBracket (t : Token) (l : Lexer) : Option Lexer := do
  let l ← l.dropKey
  if !l.inFlow then none
  return { l.mark 1 t with keys := l.keys.drop 1, mayStartKey := false }

/-- The dash of a list, or the question mark of a key. -/
def blockMark (start t : Token) (keyFollows : Bool) (l : Lexer) : Option Lexer := do
  let l ←
    if l.inFlow then pure l
    else if l.mayStartKey then pure (l.openBlock l.cur.column l.count start)
    else none
  let l ← { l with mayStartKey := keyFollows }.dropKey
  return l.mark 1 t

/-- A colon: what stands before it is a key if a key may have started there. -/
def valueMark (l : Lexer) : Option Lexer :=
  match l.keys with
  | some k :: rest =>
    let l := { l with keys := none :: rest, mayStartKey := false }
    let l := l.insertAt k.place .key
    let l := if l.inFlow then l else l.openBlock k.column k.place .blockMapStart
    some (l.mark 1 .value)
  | _ => do
    let l ←
      if l.inFlow then pure l
      else if l.mayStartKey then pure (l.openBlock l.cur.column l.count .blockMapStart)
      else none
    let l ← { l with mayStartKey := !l.inFlow }.dropKey
    return l.mark 1 .value

/-- A scalar or a name that may be a key. -/
def withKey (read : Cursor → Option (Token × Cursor)) (l : Lexer) : Option Lexer := do
  let l ← l.saveKey
  let (t, cur) ← read l.cur
  return { l.emit t with cur, mayStartKey := false }

def plain (l : Lexer) : Option Lexer := do
  let l ← l.saveKey
  let (text, broke, cur) := plainText l.inFlow (l.indent + 1) (l.cur.rest.length + 1) [] false l.cur
  return { l.emit (.scalar text true) with cur, mayStartKey := broke }

def block (folded : Bool) (l : Lexer) : Option Lexer := do
  let l ← { l with mayStartKey := true }.dropKey
  let (text, cur) ← blockScalar folded l.indent l.cur
  return { l.emit (.scalar text false) with cur }

/-- A plain scalar may start with this character, given the one behind it. -/
def startsPlain (inFlow : Bool) (c : Char) (next : Option Char) : Bool :=
  !(endsWord (some c) || "-?:,[]\x7b\x7d#&*!|>'\"%@\x60".contains c)
    || (!endsWord next && (c == '-' || (!inFlow && (c == '?' || c == ':'))))

/-- One token from its first character. -/
def next (c : Char) (l : Lexer) : Option Lexer :=
  let following := l.cur.peek 1
  let atStart := l.cur.column == 0
  let name (make : List Char → Token) (cur : Cursor) : Option (Token × Cursor) :=
    (anchorName cur.step).map fun (n, cur) => (make n, cur)
  let quotes (double : Bool) (cur : Cursor) : Option (Token × Cursor) :=
    (quotedText double (cur.rest.length + 1) cur.step).map fun (t, cur) => (.scalar t false, cur)
  if c == '%' && atStart then do
    let l ← l.closeAll
    let (d, cur) ← directive l.cur.step
    return { l.emit (.directive d) with cur }
  else if c == '-' && atStart && l.cur.atSeparator then l.closeAll.map (mark 3 .documentStart)
  else if c == '.' && atStart && l.cur.atSeparator then l.closeAll.map (mark 3 .documentEnd)
  else if c == '[' then l.openBracket .flowListStart
  else if c == '\x7b' then l.openBracket .flowMapStart
  else if c == ']' then l.closeBracket .flowListEnd
  else if c == '\x7d' then l.closeBracket .flowMapEnd
  else if c == ',' then ({ l with mayStartKey := true }.dropKey).map (mark 1 .flowEntry)
  else if c == '-' && endsWord following then l.blockMark .blockListStart .entry true
  else if c == '?' && (l.inFlow || endsWord following) then
    l.blockMark .blockMapStart .key (!l.inFlow)
  else if c == ':' && (l.inFlow || endsWord following) then l.valueMark
  else if c == '*' then l.withKey (name .alias)
  else if c == '&' then l.withKey (name .anchor)
  else if c == '!' then l.withKey fun cur => (tag cur).map fun (t, cur) => (.tag t, cur)
  else if c == '|' && !l.inFlow then l.block false
  else if c == '>' && !l.inFlow then l.block true
  else if c == '\x27' then l.withKey (quotes false)
  else if c == '\x22' then l.withKey (quotes true)
  else if startsPlain l.inFlow c following then l.plain
  else none

/-- All tokens from a place on. Every token has a character, so one step more than there are
characters suffices. -/
def run : Nat → Lexer → Option (List Token)
  | 0, _ => none
  | fuel + 1, l => do
    let l ← (l.toNextToken (l.cur.rest.length + 1)).dropStale
    let l := l.unwind l.cur.column
    match l.cur.peek with
    | none =>
      let l ← l.closeAll
      return l.tokens.reverse
    | some c => run fuel (← l.next c)

end Lexer

/-- The characters that a document may hold. -/
def isAllowed (c : Char) : Bool :=
  let n := c.toNat
  n == 9 || n == 10 || n == 13 || (32 ≤ n && n ≤ 126) || n == 0x85 || (0xA0 ≤ n && n ≤ 0xD7FF)
    || (0xE000 ≤ n && n ≤ 0xFFFD) || 0x10000 ≤ n

/-- The tokens of a text. -/
def tokens? (text : List Char) : Option (List Token) :=
  if text.all isAllowed then
    let cur : Cursor := { rest := text }
    let cur := if cur.peek == some '\uFEFF' then cur.step else cur
    Lexer.run (text.length + 2) { cur }
  else none

end CommandShell.Yaml
