import CommandShell.Pattern.Fold

/-! # Matching a pattern at a place

A matcher is given a state and what is to be matched behind it, and answers with the first way to
match both. The order in which the ways are tried is the meaning of greed, of branches and of groups
that give nothing back. -/

namespace CommandShell.Pattern

/-- The place reached in a text and the stretches that the groups have matched last. -/
structure State where
  pos : Nat
  groups : Nat → Option (Nat × Nat) := fun _ => none

namespace State

def advance (s : State) (n : Nat) : State := { s with pos := s.pos + n }

/-- Group `g` has matched from a place up to the present one. -/
def close (s : State) (g start : Nat) : State :=
  { s with groups := fun i => if i = g then some (start, s.pos) else s.groups i }

end State

/-- The rest of a match: it is given the state that a part leaves. -/
abbrev Rest := State → Option State

/-- A part of a pattern as a function of the rest. -/
abbrev Matcher := Rest → State → Option State

/-- The text around a place has a word on exactly one side of it. -/
def isWordEdge (ascii : Bool) (text : Array Char) (pos : Nat) : Bool :=
  let before := 0 < pos && (text[pos - 1]?).any (isWordChar ascii)
  let behind := (text[pos]?).any (isWordChar ascii)
  before != behind

/-- An edge is found at a place. An empty text has neither word edges nor places that are none. -/
def Edge.holds (text : Array Char) (pos : Nat) : Edge → Bool
  | .textStart => pos == 0
  | .lineStart => pos == 0 || text[pos - 1]? == some '\n'
  | .textEnd => pos == text.size
  | .lastLineEnd => pos == text.size || (pos + 1 == text.size && text[pos]? == some '\n')
  | .lineEnd => pos == text.size || text[pos]? == some '\n'
  | .wordEdge negated ascii => text.size != 0 && isWordEdge ascii text pos != negated

/-- The text from one place on repeats the text from another. -/
def repeats (rule : CaseRule) (text : Array Char) (start pos : Nat) : Nat → Bool
  | 0 => true
  | n + 1 =>
    match text[start]?, text[pos]? with
    | some c, some d => sameChar rule c d && repeats rule text (start + 1) (pos + 1) n
    | _, _ => false

namespace Matcher

/-- The first way to match a part, whatever follows it. -/
def alone (m : Matcher) : State → Option State := m some

/-- The first way to match a part is the only one. -/
def atomic (m : Matcher) : Matcher := fun k s => (m.alone s).bind k

/-- A part again and again, most times first. Behind the least number a part that has matched nothing
is not tried once more. -/
def most (m : Matcher) (least : Nat) (limit : Option Nat) :
    (fuel count : Nat) → (last : Option Nat) → Matcher
  | 0, _, _ => fun k s => k s
  | fuel + 1, count, last => fun k s =>
    if count < least then m (most m least limit fuel (count + 1) last k) s
    else
      let more :=
        if limit.all (count < ·) ∧ last ≠ some s.pos then
          m (most m least limit fuel (count + 1) (some s.pos) k) s
        else none
      more.or (k s)

/-- A part again and again, fewest times first. -/
def fewest (m : Matcher) (least : Nat) (limit : Option Nat) :
    (fuel count : Nat) → (last : Option Nat) → Matcher
  | 0, _, _ => fun k s => k s
  | fuel + 1, count, last => fun k s =>
    if count < least then m (fewest m least limit fuel (count + 1) last k) s
    else
      (k s).or <|
        if limit.all (count < ·) ∧ last ≠ some s.pos then
          m (fewest m least limit fuel (count + 1) (some s.pos) k) s
        else none

/-- A part as many times as possible, each time in its first way. -/
def everyTime (m : Matcher) (least : Nat) (limit : Option Nat) :
    (fuel count : Nat) → State → Option State
  | 0, _, s => some s
  | fuel + 1, count, s =>
    if count < least then (m.alone s).bind (everyTime m least limit fuel (count + 1))
    else if limit.all (count < ·) then
      match m.alone s with
      | some s' =>
        if s'.pos = s.pos then some s' else everyTime m least limit fuel (count + 1) s'
      | none => some s
    else some s

/-- How often a part can be tried from a place: every time but the first it has to use something
up. -/
def tries (text : Array Char) (least : Nat) : Nat := least + text.size + 2

def repeated (m : Matcher) (text : Array Char) (greed : Greed) (least : Nat) (limit : Option Nat) :
    Matcher := fun k s =>
  let fuel := tries text least
  match greed with
  | .greedy => most m least limit fuel 0 none k s
  | .lazy => fewest m least limit fuel 0 none k s
  | .possessive => (everyTime m least limit fuel 0 s).bind k

/-- A part that is looked at and not used up. -/
def look (m : Matcher) (negated : Bool) (back : Nat) : Matcher := fun k s =>
  let found := if back ≤ s.pos then m.alone { s with pos := s.pos - back } else none
  match negated, found with
  | false, some s' => k { s' with pos := s.pos }
  | true, none => k s
  | _, _ => none

end Matcher

namespace Tree

mutual

/-- The matcher of a tree. -/
def matcher (text : Array Char) : Tree → Matcher
  | .edge e => fun k s => if e.holds text s.pos then k s else none
  | .seq parts => allOf text parts
  | .alt branches => oneOf text branches
  | .group none body => matcher text body
  | .group (some g) body => fun k s => matcher text body (fun s' => k (s'.close g s.pos)) s
  | .repeated greed least limit body => (matcher text body).repeated text greed least limit
  | .atomic body => (matcher text body).atomic
  | .ahead negated body => (matcher text body).look negated 0
  | .behind negated width body => (matcher text body).look negated width
  | .again rule g => fun k s =>
    match s.groups g with
    | some (start, stop) =>
      let n := stop - start
      if start ≤ stop ∧ repeats rule text start s.pos n = true then k (s.advance n) else none
    | none => none
  | .ifGroup g yes no => fun k s =>
    if (s.groups g).isSome then matcher text yes k s else matcher text no k s
  | t => fun k s => if (text[s.pos]?).any (unitMatches t) then k (s.advance 1) else none

/-- The parts one behind the other. -/
def allOf (text : Array Char) : List Tree → Matcher
  | [] => id
  | t :: rest => fun k => matcher text t (allOf text rest k)

/-- The first branch that can be matched. -/
def oneOf (text : Array Char) : List Tree → Matcher
  | [] => fun _ _ => none
  | t :: rest => fun k s => (matcher text t k s).or (oneOf text rest k s)

end

end Tree

end CommandShell.Pattern
