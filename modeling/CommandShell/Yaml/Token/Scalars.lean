import CommandShell.Json.Reader
import CommandShell.Yaml.Cursor

/-! # Scalars in a document

The four ways to write a scalar besides the plain one: between single or double quotes, and as a
literal or a folded block; and the plain one. Each function starts at the scalar and gives its text
and the place behind it, or nothing when it is malformed. -/

namespace CommandShell.Yaml

/-- What a backslash and one character stand for between double quotes. -/
def escape? : Char → Option Char
  | '0' => some '\x00'
  | 'a' => some '\x07'
  | 'b' => some '\x08'
  | 't' => some '\t'
  | '\t' => some '\t'
  | 'n' => some '\n'
  | 'v' => some '\x0b'
  | 'f' => some '\x0c'
  | 'r' => some '\r'
  | 'e' => some '\x1b'
  | ' ' => some ' '
  | '\x22' => some '\x22'
  | '\\' => some '\\'
  | '/' => some '/'
  | 'N' => some '\x85'
  | '_' => some '\xa0'
  | 'L' => some '\u2028'
  | 'P' => some '\u2029'
  | _ => none

/-- The number of hexadecimal digits after an escape. -/
def escapeDigits? : Char → Option Nat
  | 'x' => some 2
  | 'u' => some 4
  | 'U' => some 8
  | _ => none

/-- The character whose number the hexadecimal digits give. -/
def hexChar? (ds : List Char) : Option Char := do
  let n ← ds.foldlM (fun n c => (Json.hexDigit? c).map (16 * n + ·)) 0
  if n < 0x110000 then some (Char.ofNat n) else none

/-- Line breaks and the blanks around them between quotes; a separator of documents may not start a
line there. -/
def quotedBreaks : Nat → Cursor → Option (List Char × Cursor)
  | 0, _ => none
  | fuel + 1, cur =>
    if cur.atSeparator then none
    else
      let cur := cur.skipWhile fun c => c == ' ' || c == '\t'
      if cur.peek.any isBreak then do
        let (b, cur) := cur.lineBreak
        let (bs, cur) ← quotedBreaks fuel cur
        return (b ++ bs, cur)
      else some ([], cur)

/-- The text up to the closing quote. A single line break is a space, further ones are kept. -/
def quotedText (double : Bool) : Nat → Cursor → Option (List Char × Cursor)
  | 0, _ => none
  | fuel + 1, cur => do
    let c ← cur.peek
    if c == (if double then '\x22' else '\x27') && !(!double && cur.peek 1 == some '\x27') then
      return ([], cur.step)
    else if !double && c == '\x27' then
      let (t, cur) ← quotedText double fuel (cur.skip 2)
      return ('\x27' :: t, cur)
    else if double && c == '\\' then
      let e ← cur.peek 1
      match escape? e, escapeDigits? e with
      | some ch, _ =>
        let (t, cur) ← quotedText double fuel (cur.skip 2)
        return (ch :: t, cur)
      | none, some n =>
        let ds := (cur.rest.drop 2).take n
        if ds.length < n then none
        else
          let ch ← hexChar? ds
          let (t, cur) ← quotedText double fuel (cur.skip (n + 2))
          return (ch :: t, cur)
      | none, none =>
        if isBreak e then
          let (bs, cur) ← quotedBreaks fuel cur.step.lineBreak.2
          let (t, cur) ← quotedText double fuel cur
          return (bs ++ t, cur)
        else none
    else if c == ' ' || c == '\t' || isBreak c then
      let blanks := cur.rest.takeWhile fun c => c == ' ' || c == '\t'
      let cur := cur.skip blanks.length
      let next ← cur.peek
      if isBreak next then
        let (b, cur) := cur.lineBreak
        let (bs, cur) ← quotedBreaks fuel cur
        let first := if b != ['\n'] then b else if bs.isEmpty then [' '] else []
        let (t, cur) ← quotedText double fuel cur
        return (first ++ bs ++ t, cur)
      else
        let (t, cur) ← quotedText double fuel cur
        return (blanks ++ t, cur)
    else
      let (t, cur) ← quotedText double fuel cur.step
      return (c :: t, cur)

/-- The empty lines and the indentation in front of a line of a block. -/
def blockBreaks (indent : Nat) : Nat → Cursor → List Char × Cursor
  | 0, cur => ([], cur)
  | fuel + 1, cur =>
    let spaces := (cur.rest.takeWhile (· == ' ')).length
    let cur := cur.skip (min spaces (indent - cur.column))
    if cur.peek.any isBreak then
      let (b, cur) := cur.lineBreak
      let (bs, cur) := blockBreaks indent fuel cur
      (b ++ bs, cur)
    else ([], cur)

/-- The empty lines in front of a block without a given indentation, and the widest of them. -/
def blockStart : Nat → Cursor → List Char × Nat × Cursor
  | 0, cur => ([], 0, cur)
  | fuel + 1, cur =>
    match cur.peek with
    | some ' ' =>
      let (bs, widest, next) := blockStart fuel cur.step
      (bs, max widest cur.step.column, next)
    | some c =>
      if isBreak c then
        let (b, cur) := cur.lineBreak
        let (bs, widest, next) := blockStart fuel cur
        (b ++ bs, widest, next)
      else ([], 0, cur)
    | none => ([], 0, cur)

/-- The lines of a block: its text, the break after the last line, and the empty lines after it. -/
def blockLines (folded : Bool) (indent : Nat) :
    Nat → List Char → Cursor → List Char × List Char × List Char × Cursor
  | 0, breaks, cur => ([], [], breaks, cur)
  | fuel + 1, breaks, cur =>
    let flush := !(cur.peek == some ' ' || cur.peek == some '\t')
    let text := cur.rest.takeWhile fun c => !isBreak c
    let (b, cur) := (cur.skip text.length).lineBreak
    let (bs, cur) := blockBreaks indent (cur.rest.length + 1) cur
    if cur.column == indent && cur.peek.isSome then
      let joint :=
        if folded && b == ['\n'] && flush && !(cur.peek == some ' ' || cur.peek == some '\t') then
          if bs.isEmpty then [' '] else []
        else b
      let (more, last, tail, cur) := blockLines folded indent fuel bs cur
      (breaks ++ text ++ joint ++ more, last, tail, cur)
    else (breaks ++ text, b, bs, cur)

/-- What is kept of the line breaks at the end of a block. -/
inductive Chomping where
  | clip
  | strip
  | keep
deriving DecidableEq

/-- The sign and the digit after the mark of a block, in either order. -/
def blockHeader (cur : Cursor) : Option (Chomping × Option Nat × Cursor) := do
  let sign? (c : Option Char) : Option Chomping :=
    if c == some '+' then some .keep else if c == some '-' then some .strip else none
  let width? (c : Option Char) : Option (Option Nat) :=
    match c with
    | some d => if d == '0' then none else if d.isDigit then some (some (d.toNat - 48)) else some none
    | none => some none
  match sign? cur.peek with
  | some chomping =>
    match ← width? (cur.peek 1) with
    | some w => return (chomping, some w, cur.skip 2)
    | none => return (chomping, none, cur.step)
  | none =>
    match ← width? cur.peek with
    | some w =>
      match sign? (cur.peek 1) with
      | some chomping => return (chomping, some w, cur.skip 2)
      | none => return (.clip, some w, cur.step)
    | none => return (.clip, none, cur)

/-- Spaces and a comment up to the end of the line, and the line break. -/
def restOfLine (cur : Cursor) : Option Cursor :=
  let cur := cur.skipWhile (· == ' ')
  let cur := if cur.peek == some '#' then cur.skipWhile fun c => !isBreak c else cur
  if endsLine cur.peek then some cur.lineBreak.2 else none

/-- A literal or folded block inside a structure that is indented by `outer` columns. -/
def blockScalar (folded : Bool) (outer : Int) (cur : Cursor) : Option (List Char × Cursor) := do
  let (chomping, width, cur) ← blockHeader cur.step
  if !endsName cur.peek then none
  let cur ← restOfLine cur
  let least := (max (outer + 1) 1).toNat
  let (indent, breaks, cur) := match width with
    | none =>
      let (bs, widest, cur) := blockStart (cur.rest.length + 1) cur
      (max least widest, bs, cur)
    | some w =>
      let indent := least + w - 1
      let (bs, cur) := blockBreaks indent (cur.rest.length + 1) cur
      (indent, bs, cur)
  let (text, last, tail, cur) :=
    if cur.column == indent && cur.peek.isSome then
      blockLines folded indent (cur.rest.length + 1) breaks cur
    else ([], [], breaks, cur)
  match chomping with
  | .strip => return (text, cur)
  | .clip => return (text ++ last, cur)
  | .keep => return (text ++ last ++ tail, cur)

/-- The plain scalar ends before this character, given the one behind it. -/
def endsPlain (inFlow : Bool) (c : Char) (next : Option Char) : Bool :=
  endsWord (some c)
    || (c == ':' && (endsWord next || (inFlow && next.any fun d => ",[]\x7b\x7d".contains d)))
    || (inFlow && ",?[]\x7b\x7d".contains c)

/-- The characters of a plain scalar up to where it ends or a blank stands. -/
def plainChunk (inFlow : Bool) : List Char → List Char
  | [] => []
  | c :: r => if endsPlain inFlow c r.head? then [] else c :: plainChunk inFlow r

/-- The empty lines inside a plain scalar; nothing where a separator of documents starts a line. -/
def plainBreaks : Nat → Cursor → Option (List Char) × Cursor
  | 0, cur => (some [], cur)
  | fuel + 1, cur =>
    match cur.peek with
    | some ' ' => plainBreaks fuel cur.step
    | some c =>
      if isBreak c then
        let (b, cur) := cur.lineBreak
        if cur.atSeparator then (none, cur)
        else
          let (bs, cur) := plainBreaks fuel cur
          (bs.map (b ++ ·), cur)
      else (some [], cur)
    | none => (some [], cur)

/-- What stands between two chunks of a plain scalar, and whether a line break is part of it. -/
def plainGap (cur : Cursor) : List Char × Bool × Cursor :=
  let spaces := cur.rest.takeWhile (· == ' ')
  let cur := cur.skip spaces.length
  if cur.peek.any isBreak then
    let (b, cur) := cur.lineBreak
    if cur.atSeparator then ([], true, cur)
    else
      match plainBreaks (cur.rest.length + 1) cur with
      | (none, cur) => ([], true, cur)
      | (some bs, cur) =>
        let first := if b != ['\n'] then b else if bs.isEmpty then [' '] else []
        (first ++ bs, true, cur)
  else (spaces, false, cur)

/-- A plain scalar from the gap in front of its next chunk. Besides the text it tells whether it ran
past the end of a line. -/
def plainText (inFlow : Bool) (indent : Int) :
    Nat → List Char → Bool → Cursor → List Char × Bool × Cursor
  | 0, _, lines, cur => ([], lines, cur)
  | fuel + 1, gap, lines, cur =>
    if cur.peek == some '#' then ([], lines, cur)
    else
      let chunk := plainChunk inFlow cur.rest
      if chunk.isEmpty then ([], lines, cur)
      else
        let (gap', broke, cur) := plainGap (cur.skip chunk.length)
        if gap'.isEmpty || cur.peek == some '#' || (!inFlow && (cur.column : Int) < indent) then
          (gap ++ chunk, broke, cur)
        else
          let (more, broke, cur) := plainText inFlow indent fuel gap' broke cur
          (gap ++ chunk ++ more, broke, cur)

end CommandShell.Yaml
