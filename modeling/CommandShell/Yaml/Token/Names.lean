import CommandShell.Json.Reader
import CommandShell.Yaml.Cursor
import CommandShell.Yaml.Token

/-! # Names in a document

Anchors, aliases, tags and directives. Each function starts at the name and gives it with the place
behind it, or nothing when it is malformed. -/

namespace CommandShell.Yaml

def isNameChar (c : Char) : Bool := c.isAlphanum || c == '-' || c == '_'

/-- The name of an anchor or an alias, from behind its mark. -/
def anchorName (cur : Cursor) : Option (List Char × Cursor) :=
  let name := cur.rest.takeWhile isNameChar
  let cur := cur.skip name.length
  if name.isEmpty then none
  else if endsWord cur.peek || cur.peek.any (fun c => "?:,]\x7d%@\x60".contains c) then
    some (name, cur)
  else none

/-- The characters of a tag that stand for themselves. -/
def isTagChar (c : Char) : Bool := c.isAlphanum || "-;/?:@&=+$,_.!~*'()[]".contains c

/-- The bytes that percent signs and pairs of hexadecimal digits stand for, and what follows. -/
def percentBytes : List Char → Option (List UInt8 × List Char)
  | '%' :: a :: b :: r => do
    let n := 16 * (← Json.hexDigit? a) + (← Json.hexDigit? b)
    let (bytes, rest) ← percentBytes r
    return (UInt8.ofNat n :: bytes, rest)
  | '%' :: _ => none
  | cs => some ([], cs)

/-- The text of a tag, with escaped bytes decoded. -/
def tagText : Nat → Cursor → Option (List Char × Cursor)
  | 0, _ => none
  | fuel + 1, cur => do
    let chunk := cur.rest.takeWhile isTagChar
    let cur := cur.skip chunk.length
    if cur.peek == some '%' then
      let (bytes, rest) ← percentBytes cur.rest
      let decoded ← String.fromUTF8? ⟨bytes.toArray⟩
      let (more, next) ← tagText fuel (cur.skip (cur.rest.length - rest.length))
      return (chunk ++ decoded.toList ++ more, next)
    else return (chunk, cur)

/-- The text of a tag, which may not be empty. -/
def tagText? (cur : Cursor) : Option (List Char × Cursor) := do
  let (text, next) ← tagText (cur.rest.length + 1) cur
  if next.index == cur.index then none else return (text, next)

/-- The short form of a tag: an exclamation mark, alone or with a name and a second one. -/
def tagHandle (cur : Cursor) : Option (List Char × Cursor) :=
  match cur.rest with
  | '!' :: ' ' :: _ => some (['!'], cur.step)
  | '!' :: r =>
    let name := r.takeWhile isNameChar
    if r[name.length]? == some '!' then
      some ('!' :: name ++ ['!'], cur.skip (name.length + 2))
    else none
  | _ => none

/-- A tag in the text. -/
def tag (cur : Cursor) : Option (TagText × Cursor) := do
  let (t, cur) ←
    match cur.peek 1 with
    | some '<' => do
      let (text, cur) ← tagText? (cur.skip 2)
      if cur.peek != some '>' then none
      pure (TagText.complete text, cur.step)
    | c =>
      if endsWord c then pure (TagText.complete ['!'], cur.step)
      else
        let word := (cur.rest.drop 1).takeWhile fun c => !endsName (some c)
        if word.contains '!' then do
          let (handle, cur) ← tagHandle cur
          let (text, cur) ← tagText? cur
          pure (TagText.short handle text, cur)
        else do
          let (text, cur) ← tagText? cur.step
          pure (TagText.short ['!'] text, cur)
  if endsName cur.peek then return (t, cur) else none

/-- The digits of a number in a directive. -/
def versionNumber (cur : Cursor) : Option (Nat × Cursor) :=
  let ds := cur.rest.takeWhile Char.isDigit
  if ds.isEmpty then none
  else some (ds.foldl (fun n c => 10 * n + (c.toNat - 48)) 0, cur.skip ds.length)

/-- A directive from behind its mark up to the end of its line. -/
def directive (cur : Cursor) : Option (Directive × Cursor) := do
  let name := cur.rest.takeWhile isNameChar
  let cur := cur.skip name.length
  if name.isEmpty || !endsName cur.peek then none
  let (d, cur) ←
    if name == "YAML".toList then do
      let (major, cur) ← versionNumber (cur.skipWhile (· == ' '))
      if cur.peek != some '.' then none
      let (_, cur) ← versionNumber cur.step
      if !endsName cur.peek then none
      pure (Directive.version major, cur)
    else if name == "TAG".toList then do
      let (handle, cur) ← tagHandle (cur.skipWhile (· == ' '))
      if cur.peek != some ' ' then none
      let (start, cur) ← tagText? (cur.skipWhile (· == ' '))
      if !endsName cur.peek then none
      pure (Directive.tag handle start, cur)
    else pure (Directive.other, cur.skipWhile fun c => !isBreak c)
  let cur := cur.skipWhile (· == ' ')
  let cur := if cur.peek == some '#' then cur.skipWhile fun c => !isBreak c else cur
  if endsLine cur.peek then return (d, cur.lineBreak.2) else none

end CommandShell.Yaml
