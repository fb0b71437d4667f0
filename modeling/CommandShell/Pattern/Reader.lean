import CommandShell.Number.Numeral
import CommandShell.Pattern.Fold

/-! # Reading patterns

`Tree.read` reads the text of a pattern. The text is first cut into tokens, a backslash going with the
character behind it; the reader then goes from token to token. What is wrong with a pattern is told
only in three cases, by a repetition that is too large, a number that is too long, and flags that
exclude each other. -/

namespace CommandShell.Pattern

inductive Fault where
  | malformed
  | tooManyTimes
  | numeral (fault : Numeral.Fault)
  | flags
deriving DecidableEq, Repr

def Fault.message : Fault → String
  | .malformed => "malformed pattern"
  | .tooManyTimes => "the repetition number is too large"
  | .numeral fault => fault.message
  | .flags => "ASCII and UNICODE flags are incompatible"

/-- A character, a backslash with the character behind it, or a backslash at the end. -/
inductive Token where
  | plain (c : Char)
  | escape (c : Char)
  | dangling
deriving DecidableEq, Repr

def Token.ofText : List Char → List Token
  | [] => []
  | ['\\'] => [.dangling]
  | '\\' :: c :: r => .escape c :: ofText r
  | c :: r => .plain c :: ofText r

/-- The characters of a token. -/
def Token.text : Token → List Char
  | .plain c => [c]
  | .escape c => ['\\', c]
  | .dangling => ['\\']

/-- The flags that are in force at a place. -/
structure Flags where
  ignoreCase : Bool := false
  lines : Bool := false
  dotAll : Bool := false
  ascii : Bool := false
  verbose : Bool := false
deriving Repr

/-- The letters of flags that stand in a group. -/
abbrev FlagLetters := List Char

namespace Flags

/-- The flags with some turned on and others off. -/
def change (f : Flags) (on off : FlagLetters) : Flags :=
  let now (letter : Char) (b : Bool) := (b || on.contains letter) && !off.contains letter
  { ignoreCase := now 'i' f.ignoreCase
    lines := now 'm' f.lines
    dotAll := now 's' f.dotAll
    ascii := (f.ascii && !on.contains 'u') || on.contains 'a'
    verbose := now 'x' f.verbose }

def rule (f : Flags) : CaseRule :=
  if !f.ignoreCase then .exact else if f.ascii then .foldedAscii else .folded

end Flags

/-- What is known while a pattern is read. -/
structure Reading where
  tokens : List Token
  flags : Flags
  /-- the letters of the flags set at the start -/
  letters : FlagLetters := []
  names : List (List Char × Nat) := []
  /-- the widths of the groups, from the first on; that of an open one is not known -/
  widths : List (Option (Nat × Nat)) := []
  /-- how many groups there were before the outermost look back -/
  lookingBack : Option Nat := none
  conditions : List Nat := []
  /-- something that counts as wrong only once the whole has been read -/
  spoiled : Bool := false

/-- A reader either fails or goes on with what it has read. -/
abbrev Read (α : Type) := Reading → Except Fault (α × Reading)

namespace Reading

def fail {α : Type} : Read α := fun _ => .error .malformed

def drop (r : Reading) (n : Nat := 1) : Reading := { r with tokens := r.tokens.drop n }

def next (r : Reading) : Option Token := r.tokens.head?

def nextIs (r : Reading) (c : Char) : Bool := r.next == some (.plain c)

/-- The number of a new group is one more than the number of groups so far. -/
def groupCount (r : Reading) : Nat := r.widths.length

/-- The group with a number is closed. -/
def isClosed (r : Reading) (group : Nat) : Bool :=
  0 < group && ((r.widths[group - 1]?).join).isSome

/-- A group may be named inside a look back only if it was closed before that began. -/
def mayName (r : Reading) (group : Nat) : Bool :=
  match r.lookingBack with
  | none => true
  | some before => r.isClosed group && group ≤ before

def widthOf (r : Reading) (group : Nat) : Nat × Nat := ((r.widths[group - 1]?).join).getD (0, 0)

end Reading

def isOctal (c : Char) : Bool := '0' ≤ c && c ≤ '7'

def hexValue? (c : Char) : Option Nat :=
  if c.isDigit then some (c.toNat - 48)
  else if 'a' ≤ c ∧ c ≤ 'f' then some (c.toNat - 87)
  else if 'A' ≤ c ∧ c ≤ 'F' then some (c.toNat - 55)
  else none

/-- The plain characters at the front that satisfy a test, but at most so many. -/
def takePlain (p : Char → Bool) : Nat → List Token → List Char
  | 0, _ => []
  | n + 1, .plain c :: rest => if p c then c :: takePlain p n rest else []
  | _, _ => []

def baseValue (base : Nat) (ds : List Char) : Nat :=
  ds.foldl (fun n c => base * n + (hexValue? c).getD 0) 0

/-- A character given by exactly so many hexadecimal digits. -/
def readHex (digits : Nat) : Read Nat := fun r =>
  let ds := takePlain (fun c => (hexValue? c).isSome) digits r.tokens
  let n := baseValue 16 ds
  if ds.length = digits ∧ n < 0x110000 then .ok (n, r.drop digits) else .error .malformed

/-- The letters that stand for a control character behind a backslash. -/
def controlOf? : Char → Option Nat
  | 'a' => some 7
  | 'b' => some 8
  | 'f' => some 12
  | 'n' => some 10
  | 'r' => some 13
  | 't' => some 9
  | 'v' => some 11
  | '\\' => some 92
  | _ => none

/-- The letters that stand for a category behind a backslash. -/
def categoryOf? (ascii : Bool) : Char → Option Member
  | 'd' => some (.category .digit false ascii)
  | 'D' => some (.category .digit true ascii)
  | 's' => some (.category .space false ascii)
  | 'S' => some (.category .space true ascii)
  | 'w' => some (.category .word false ascii)
  | 'W' => some (.category .word true ascii)
  | _ => none

/-- A character that stands behind a backslash, in a set and outside alike. -/
def readEscapedChar (c : Char) : Read Nat := fun r =>
  if c = 'x' then readHex 2 r
  else if c = 'u' then readHex 4 r
  else if c = 'U' then readHex 8 r
  else if c.isAlphanum then .error .malformed
  else .ok (c.toNat, r)

/-- A member of a set that starts with a backslash. -/
def readSetEscape (c : Char) : Read Member := fun r =>
  match controlOf? c, categoryOf? r.flags.ascii c with
  | some n, _ => .ok (.single n, r)
  | none, some m => .ok (m, r)
  | none, none =>
    if isOctal c then
      let ds := takePlain isOctal 2 r.tokens
      let n := baseValue 8 (c :: ds)
      if 255 < n then .error .malformed else .ok (.single n, r.drop ds.length)
    else (readEscapedChar c r).map fun (n, r) => (.single n, r)

/-- A reference to a group by its number. -/
def readReference (group : Nat) : Read Tree := fun r =>
  if r.isClosed group && r.mayName group then .ok (.again r.flags.rule group, r)
  else .error .malformed

/-- A backslash and a digit other than zero: three octal digits are a character, and one or two
digits a reference. -/
def readDigits (c : Char) : Read Tree := fun r =>
  match takePlain Char.isDigit 1 r.tokens with
  | [d] =>
    match takePlain isOctal 1 (r.tokens.drop 1) with
    | [e] =>
      if isOctal c && isOctal d then
        let n := baseValue 8 [c, d, e]
        if 255 < n then .error .malformed else .ok (.char r.flags.rule n, r.drop 2)
      else readReference (baseValue 10 [c, d]) r.drop
    | _ => readReference (baseValue 10 [c, d]) r.drop
  | _ => readReference (baseValue 10 [c]) r

/-- A part that starts with a backslash. -/
def readEscape (c : Char) : Read Tree := fun r =>
  let ascii := r.flags.ascii
  let rule := r.flags.rule
  match c with
  | 'A' => .ok (.edge .textStart, r)
  | 'Z' => .ok (.edge .textEnd, r)
  | 'b' => .ok (.edge (.wordEdge false ascii), r)
  | 'B' => .ok (.edge (.wordEdge true ascii), r)
  | _ =>
    match categoryOf? ascii c, controlOf? c with
    | some m, _ => .ok (.set rule false [m], r)
    | none, some n => .ok (.char rule n, r)
    | none, none =>
      if c = '0' then
        let ds := takePlain isOctal 2 r.tokens
        .ok (.char rule (baseValue 8 ds), r.drop ds.length)
      else if c.isDigit then readDigits c r
      else (readEscapedChar c r).map fun (n, r) => (.char rule n, r)

/-- A member of a set from its first token. -/
def readMember (t : Token) : Read Member := fun r =>
  match t with
  | .plain c => .ok (.single c.toNat, r)
  | .escape c => readSetEscape c r
  | .dangling => .error .malformed

/-- The members of a set up to its closing bracket, which is itself a member at the start. -/
def readMembers (first : Bool) : Nat → Read (List Member)
  | 0 => Reading.fail
  | fuel + 1 => fun r =>
    match r.next with
    | none => .error .malformed
    | some t =>
      if t = .plain ']' ∧ !first then .ok ([], r.drop)
      else do
        let (m, r) ← readMember t r.drop
        if r.nextIs '-' then
          let r := r.drop
          match r.next with
          | none => .error .malformed
          | some (.plain ']') => return ([m, .single 45], r.drop)
          | some t =>
            let (m', r) ← readMember t r.drop
            match m, m' with
            | .single a, .single b =>
              if b < a then .error .malformed
              else
                let (ms, r) ← readMembers false fuel r
                return (.range a b :: ms, r)
            | _, _ => .error .malformed
        else
          let (ms, r) ← readMembers false fuel r
          return (m :: ms, r)

/-- A set from behind its opening bracket. -/
def readSet : Read Tree := fun r => do
  let negated := r.nextIs '^'
  let r := if negated then r.drop else r
  let (ms, r) ← readMembers true (r.tokens.length + 1) r
  let rule := r.flags.rule
  match ms.eraseDups with
  | [.single n] => return (if negated then .notChar rule n else .char rule n, r)
  | ms => return (.set rule negated ms, r)

/-- The greatest number of times that a repetition can be asked for is less than this. -/
def repeatLimit : Nat := 4294967295

def readTimes (ds : List Char) : Except Fault Nat := do
  if Numeral.limit < ds.length then throw (.numeral (.tooLong ds.length))
  let n := baseValue 10 ds
  if repeatLimit ≤ n then throw .tooManyTimes
  return n

/-- The numbers of a repetition from behind its opening brace; nothing where the brace stands for
itself. -/
def readBraces : Read (Option (Nat × Option Nat)) := fun r =>
  if r.nextIs '\x7d' then .ok (none, r)
  else
    let low := takePlain Char.isDigit r.tokens.length r.tokens
    let s := r.drop low.length
    let (high, s) :=
      if s.nextIs ',' then
        let s := s.drop
        let high := takePlain Char.isDigit s.tokens.length s.tokens
        (high, s.drop high.length)
      else (low, s)
    if !s.nextIs '\x7d' then .ok (none, r)
    else
      let s := s.drop
      if s.next = some .dangling then .error .malformed
      else do
        let least ← if low.isEmpty then pure 0 else readTimes low
        let most ← if high.isEmpty then pure none else (readTimes high).map some
        if most.any (· < least) then .error .malformed else return (some (least, most), s)

/-- The tokens up to a closing character, as text. -/
def readUntil (stop : Char) : Read (List Char) := fun r =>
  let inside := r.tokens.takeWhile (· ≠ .plain stop)
  if inside.isEmpty || inside.length = r.tokens.length || inside.contains .dangling then
    .error .malformed
  else .ok (inside.flatMap Token.text, r.drop (inside.length + 1))

/-- The text may name a group. -/
def isName : List Char → Bool
  | [] => false
  | c :: r => (Text.isWord c && !Text.isDecimal c) && r.all Text.isWord

/-- The number of the group that a condition names. -/
def conditionGroup (name : List Char) : Read Nat := fun r =>
  if isName name then
    match r.names.lookup name with
    | some g => .ok (g, r)
    | none => .error .malformed
  else
    match Numeral.read (String.ofList name) with
    | .ok n =>
      if n ≤ 0 then .error .malformed
      else .ok (n.toNat, { r with conditions := n.toNat :: r.conditions })
    | .error _ => .error .malformed

def flagLetters : List Char := ['i', 'L', 'm', 's', 'x', 'a', 't', 'u']

/-- Flags up to a character that ends them. -/
def readLetters (stops : List Char) (allowed : List Char) :
    Nat → Char → Read (FlagLetters × Char)
  | 0, _ => Reading.fail
  | fuel + 1, c => fun r =>
    if !allowed.contains c then .error .malformed
    else
      match r.next with
      | some (.plain d) =>
        if stops.contains d then .ok (([c], d), r.drop)
        else do
          let ((cs, stop), r) ← readLetters stops allowed fuel d r.drop
          return ((c :: cs, stop), r)
      | _ => .error .malformed

/-- The flags of a group from their first letter on: those turned on, those turned off, and whether
they hold for the rest of the pattern. -/
def readFlags (c : Char) : Read (FlagLetters × FlagLetters × Bool) := fun r => do
  let fuel := r.tokens.length + 1
  let ((on, stop), r) ←
    if c = '-' then pure (([], '-'), r)
    else readLetters [')', '-', ':'] (flagLetters.filter (· ≠ 'L')) fuel c r
  if on.contains 'a' && on.contains 'u' then throw .malformed
  if stop = ')' then return ((on, [], true), r)
  if on.contains 't' then throw .malformed
  if stop = ':' then return ((on, [], false), r)
  match r.next with
  | some (.plain d) =>
    let ((off, _), r) ← readLetters [':'] ['i', 'm', 's', 'x', 't'] fuel d r.drop
    if off.contains 't' || on.any off.contains then throw .malformed
    return ((on, off, false), r)
  | _ => throw .malformed

/-- What a branch begins with when all branches begin with the same leaf. -/
def commonLeaf? : List (List Tree) → Option Tree
  | (t :: _) :: more =>
    if more.all fun b => b.head?.any (Tree.sameLeaf t) then
      match t with
      | .edge _ | .char _ _ | .notChar _ _ | .any _ | .set _ _ _ | .again _ _ => some t
      | _ => none
    else none
  | _ => none

/-- The members that the branches stand for when each is one character or one set. -/
def setOf? : List (List Tree) → Option (List Member)
  | [] => some []
  | [.char _ n] :: more => (setOf? more).map (.single n :: ·)
  | [.set _ false ms] :: more => (setOf? more).map (ms ++ ·)
  | _ => none

/-- Branches as one part: what they have in common stands in front, and branches of one character
make a set. -/
def joinBranches (rule : CaseRule) : Nat → List (List Tree) → List Tree
  | 0, branches => [.alt (branches.map .seq)]
  | fuel + 1, branches =>
    match commonLeaf? branches with
    | some t => t :: joinBranches rule fuel (branches.map (·.drop 1))
    | none =>
      match setOf? branches with
      | some ms => [.set rule false ms.eraseDups]
      | none => [.alt (branches.map .seq)]

/-- Takes the parts of groups that do nothing into the sequence around them. -/
def unpack (parts : List Tree) : List Tree :=
  parts.flatMap fun t =>
    match t with
    | .group none (.seq ts) => ts
    | t => [t]

/-- The part that a repetition is of, which is the last one. -/
def repeatLast (greed : Greed) (least : Nat) (most : Option Nat) :
    List Tree → Except Fault (List Tree)
  | [] => .error .malformed
  | .edge _ :: _ => .error .malformed
  | .repeated _ _ _ _ :: _ => .error .malformed
  | t :: before => .ok (.repeated greed least most t :: before)

/-- The greed that a mark behind a repetition asks for. -/
def readGreed (r : Reading) : Greed × Reading :=
  if r.nextIs '?' then (.lazy, r.drop)
  else if r.nextIs '+' then (.possessive, r.drop)
  else (.greedy, r)

def isVerboseSpace (c : Char) : Bool := c == ' ' || (9 ≤ c.toNat && c.toNat ≤ 13)

def closeBracket : Read Unit := fun r =>
  if r.nextIs ')' then .ok ((), r.drop) else .error .malformed

mutual

/-- Branches with bars between them. -/
def readBranches (outermost first : Bool) : Nat → Read (List (List Tree))
  | 0 => Reading.fail
  | fuel + 1 => fun r => do
    let (parts, r) ← readParts (outermost && first) [] fuel r
    if r.nextIs '|' then
      let (more, r) ← readBranches outermost false fuel r.drop
      return (parts :: more, r)
    else return ([parts], r)

/-- A pattern up to a closing bracket or the end. -/
def readPattern (outermost : Bool) : Nat → Read Tree
  | 0 => Reading.fail
  | fuel + 1 => fun r => do
    let (branches, r) ← readBranches outermost true fuel r
    match branches with
    | [parts] => return (.seq parts, r)
    | _ =>
      let length := (branches.map List.length).sum
      return (.seq (joinBranches r.flags.rule length branches), r)

/-- The parts of one branch, given those before, the last one first. -/
def readParts (first : Bool) (before : List Tree) : Nat → Read (List Tree)
  | 0 => Reading.fail
  | fuel + 1 => fun r =>
    let done : Except Fault (List Tree × Reading) := .ok (unpack before.reverse, r)
    match r.next with
    | none => done
    | some .dangling => .error .malformed
    | some (.escape c) => do
      let (t, r) ← readEscape c r.drop
      readParts first (t :: before) fuel r
    | some (.plain c) =>
      let r := r.drop
      let rule := r.flags.rule
      let repeated (least : Nat) (most : Option Nat) (r : Reading) := do
        let (greed, r) := readGreed r
        readParts first (← repeatLast greed least most before) fuel r
      if c = '|' ∨ c = ')' then done
      else if r.flags.verbose && isVerboseSpace c then readParts first before fuel r
      else if r.flags.verbose && c == '#' then
        let comment := r.tokens.takeWhile (· ≠ .plain '\n')
        if comment.contains .dangling then .error .malformed
        else readParts first before fuel (r.drop (comment.length + 1))
      else
        match c with
        | '[' => do
          let (t, r) ← readSet r
          readParts first (t :: before) fuel r
        | '*' => repeated 0 none r
        | '+' => repeated 1 none r
        | '?' => repeated 0 (some 1) r
        | '\x7b' => do
          let (times, r) ← readBraces r
          match times with
          | some (least, most) => repeated least most r
          | none => readParts first (.char rule c.toNat :: before) fuel r
        | '.' => readParts first (.any r.flags.dotAll :: before) fuel r
        | '^' => readParts first (.edge (if r.flags.lines then .lineStart else .textStart) :: before) fuel r
        | '$' => readParts first (.edge (if r.flags.lines then .lineEnd else .lastLineEnd) :: before) fuel r
        | '(' => do
          let (t, r) ← readGroup (first && before.isEmpty) fuel r
          readParts first (t.toList ++ before) fuel r
        | c => readParts first (.char rule c.toNat :: before) fuel r

/-- What follows an opening bracket, up to the closing one. Comments and flags are no part. -/
def readGroup (first : Bool) : Nat → Read (Option Tree)
  | 0 => Reading.fail
  | fuel + 1 => fun r =>
    if !r.nextIs '?' then readCapture none fuel r
    else
      match r.tokens.drop 1 with
      | .plain 'P' :: .plain '<' :: _ => do
        let (name, r) ← readUntil '>' (r.drop 3)
        if isName name then readCapture (some name) fuel r else throw .malformed
      | .plain 'P' :: .plain '=' :: _ => do
        let (name, r) ← readUntil ')' (r.drop 3)
        match r.names.lookup name with
        | some g => (readReference g r).map fun (t, r) => (some t, r)
        | none => throw .malformed
      | .plain ':' :: _ => readScoped [] [] fuel (r.drop 2)
      | .plain '#' :: rest =>
        let comment := rest.takeWhile (· ≠ .plain ')')
        if comment.length = rest.length || comment.contains .dangling then .error .malformed
        else .ok (none, r.drop (comment.length + 3))
      | .plain '=' :: _ => readAhead false fuel (r.drop 2)
      | .plain '!' :: _ => readAhead true fuel (r.drop 2)
      | .plain '<' :: .plain '=' :: _ => readBehind false fuel (r.drop 3)
      | .plain '<' :: .plain '!' :: _ => readBehind true fuel (r.drop 3)
      | .plain '(' :: _ => readCondition fuel (r.drop 2)
      | .plain '>' :: _ => do
        let (t, r) ← readPattern false fuel (r.drop 2)
        let ((), r) ← closeBracket r
        return (some (.atomic t), r)
      | .plain c :: _ =>
        if c = '-' ∨ flagLetters.contains c = true then do
          let ((on, off, whole), r) ← readFlags c (r.drop 2)
          if whole then
            if first then
              let letters := on ++ r.letters
              return (none, { r with letters, flags := r.flags.change on [] })
            else throw .malformed
          else readScoped on off fuel r
        else .error .malformed
      | _ => .error .malformed

/-- A group whose text is remembered. -/
def readCapture (name : Option (List Char)) : Nat → Read (Option Tree)
  | 0 => Reading.fail
  | fuel + 1 => fun r => do
    let number := r.groupCount + 1
    if name.any fun n => (r.names.lookup n).isSome then throw .malformed
    let names := name.toList.map (·, number) ++ r.names
    let (t, r) ← readPattern false fuel { r with names, widths := r.widths ++ [none] }
    let ((), r) ← closeBracket r
    let width := Tree.cut (t.width r.widthOf)
    return (some (.group (some number) t), { r with widths := r.widths.set (number - 1) (some width) })

/-- A group with flags of its own. -/
def readScoped (on off : FlagLetters) : Nat → Read (Option Tree)
  | 0 => Reading.fail
  | fuel + 1 => fun r => do
    let outside := r.flags
    let (t, r) ← readPattern false fuel { r with flags := outside.change on off }
    let ((), r) ← closeBracket r
    let group := if on.isEmpty && off.isEmpty then Tree.group none t else .group none (.group none t)
    return (some group, { r with flags := outside })

def readAhead (negated : Bool) : Nat → Read (Option Tree)
  | 0 => Reading.fail
  | fuel + 1 => fun r => do
    let (t, r) ← readPattern false fuel r
    let ((), r) ← closeBracket r
    return (some (.ahead negated t), r)

/-- A look back, which has to have a fixed width. -/
def readBehind (negated : Bool) : Nat → Read (Option Tree)
  | 0 => Reading.fail
  | fuel + 1 => fun r => do
    let outside := r.lookingBack
    let (t, r) ← readPattern false fuel { r with lookingBack := some (outside.getD r.groupCount) }
    let r := { r with lookingBack := outside }
    let ((), r) ← closeBracket r
    let (low, high) := t.width r.widthOf
    let spoiled := r.spoiled || low != high || repeatLimit < low
    return (some (.behind negated low t), { r with spoiled })

/-- A part that depends on whether a group has matched. -/
def readCondition : Nat → Read (Option Tree)
  | 0 => Reading.fail
  | fuel + 1 => fun r => do
    let (name, r) ← readUntil ')' r
    let (g, r) ← conditionGroup name r
    if !r.mayName g then throw .malformed
    let (yes, r) ← readParts false [] fuel r
    let (no, r) ←
      if r.nextIs '|' then readParts false [] fuel r.drop else pure ([], r)
    if r.nextIs '|' then throw .malformed
    let ((), r) ← closeBracket r
    return (some (.ifGroup g (.seq yes) (.seq no)), r)

end

mutual

/-- The tree repeats something. -/
def Tree.repeats : Tree → Bool
  | .repeated _ _ _ _ => true
  | .seq ts => anyRepeats ts
  | .alt ts => anyRepeats ts
  | .group _ t | .atomic t | .ahead _ t | .behind _ _ t => t.repeats
  | .ifGroup _ yes no => yes.repeats || no.repeats
  | _ => false

def anyRepeats : List Tree → Bool
  | [] => false
  | t :: rest => t.repeats || anyRepeats rest

end

/-- Reads a pattern. -/
def Tree.read (ignoreCase : Bool) (pattern : List Char) : Except Fault Tree := do
  let tokens := Token.ofText pattern
  let (t, r) ← readPattern true (4 * tokens.length + 8) { tokens, flags := { ignoreCase } }
  if r.letters.contains 'a' && r.letters.contains 'u' then throw .flags
  if !r.tokens.isEmpty || r.conditions.any (r.groupCount < ·) || r.spoiled then throw .malformed
  if r.letters.contains 't' && t.repeats then throw .malformed
  return t

/-- The pattern that matches a text as it stands. -/
def Tree.literal (ignoreCase : Bool) (text : List Char) : Tree :=
  .seq (text.map fun c => .char (if ignoreCase then .folded else .exact) c.toNat)

end CommandShell.Pattern
