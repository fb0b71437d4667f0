/-! # Patterns

A pattern is read into a tree. What a part of it matches depends on the case rule under which it was
read, so the rule is part of the tree. -/

namespace CommandShell.Pattern

/-- How the case of letters counts: as it is, not at all, or not at all within ASCII. -/
inductive CaseRule where
  | exact
  | folded
  | foldedAscii
deriving DecidableEq, Repr, Inhabited

inductive Category where
  | digit
  | space
  | word
deriving DecidableEq, Repr

/-- A member of a set: a code point, a range of them, or a category or its complement. -/
inductive Member where
  | single (n : Nat)
  | range (first last : Nat)
  | category (c : Category) (negated ascii : Bool)
deriving DecidableEq, Repr

/-- Places in a text at which nothing is used up. -/
inductive Edge where
  | textStart
  | lineStart
  | textEnd
  | lastLineEnd
  | lineEnd
  | wordEdge (negated ascii : Bool)
deriving DecidableEq, Repr

/-- How a repetition chooses its number: most first, fewest first, or most and no other. -/
inductive Greed where
  | greedy
  | lazy
  | possessive
deriving DecidableEq, Repr

inductive Tree where
  | char (rule : CaseRule) (n : Nat)
  | notChar (rule : CaseRule) (n : Nat)
  /-- any character, or any but the line end -/
  | any (lines : Bool)
  | set (rule : CaseRule) (negated : Bool) (members : List Member)
  | edge (e : Edge)
  | seq (parts : List Tree)
  | alt (branches : List Tree)
  /-- a group with its number, when it has one -/
  | group (number : Option Nat) (body : Tree)
  | repeated (greed : Greed) (least : Nat) (most : Option Nat) (body : Tree)
  | atomic (body : Tree)
  | ahead (negated : Bool) (body : Tree)
  /-- a look at the characters in front of a place, which are so many -/
  | behind (negated : Bool) (width : Nat) (body : Tree)
  | again (rule : CaseRule) (group : Nat)
  | ifGroup (group : Nat) (yes no : Tree)
deriving Repr, Inhabited

namespace Tree

/-- Two parts without inner structure are the same. -/
def sameLeaf : Tree → Tree → Bool
  | .char r m, .char q n => r == q && m == n
  | .notChar r m, .notChar q n => r == q && m == n
  | .any a, .any b => a == b
  | .set r a ms, .set q b ns => r == q && a == b && ms == ns
  | .edge a, .edge b => a == b
  | .again r m, .again q n => r == q && m == n
  | _, _ => false

/-- The widest text that counts as bounded. -/
def widthLimit : Nat := 0x10000000000000000

/-- Bounds of the length of a text, cut at the limit. -/
def cut (w : Nat × Nat) : Nat × Nat := (min w.1 widthLimit, min w.2 widthLimit)

mutual

/-- The least and the greatest length of the texts that a tree matches, given those of the groups. -/
def width (groups : Nat → Nat × Nat) : Tree → Nat × Nat
  | .char _ _ | .notChar _ _ | .any _ | .set _ _ _ => (1, 1)
  | .edge _ | .ahead _ _ | .behind _ _ _ => (0, 0)
  | .seq parts => cut (widthSum groups parts)
  | .alt branches => cut (widthHull groups branches)
  | .group _ body => width groups body
  | .atomic body => width groups body
  | .repeated _ least most body =>
    let (low, high) := width groups body
    let greatest := match most with
      | some n => high * n
      | none => if high = 0 then 0 else widthLimit
    cut (low * least, greatest)
  | .again _ g => groups g
  | .ifGroup _ yes no =>
    let (a, b) := width groups yes
    let (c, d) := width groups no
    (min a c, max b d)

def widthSum (groups : Nat → Nat × Nat) : List Tree → Nat × Nat
  | [] => (0, 0)
  | t :: rest =>
    let (a, b) := width groups t
    let (c, d) := widthSum groups rest
    (a + c, b + d)

def widthHull (groups : Nat → Nat × Nat) : List Tree → Nat × Nat
  | [] => (widthLimit, 0)
  | t :: rest =>
    let (a, b) := width groups t
    let (c, d) := widthHull groups rest
    (min a c, max b d)

end

end Tree

end CommandShell.Pattern
