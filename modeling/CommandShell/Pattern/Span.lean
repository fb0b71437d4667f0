import CommandShell.Pattern.Matcher

/-! # Finding a pattern in a text

`Tree.spans` lists the matches of a pattern from left to right. A match may be empty, but none stands
where the one before it ended and is empty as well. -/

namespace CommandShell.Pattern

/-- A stretch of a text, from its first place to the place behind it. -/
structure Span where
  start : Nat
  stop : Nat
deriving DecidableEq, Repr

def Span.isEmpty (s : Span) : Bool := s.start == s.stop

namespace Tree

/-- Where the first match from a place ends, when it uses up at least so much. -/
def endAt? (t : Tree) (text : Array Char) (start least : Nat) : Option Nat :=
  let enough : Rest := fun s => if start + least ≤ s.pos ∧ s.pos ≤ text.size then some s else none
  (t.matcher text enough ⟨start, fun _ => none⟩).map State.pos

/-- The first match from a place on, with that many places left behind it. A match at the place
itself has to use up `least`. -/
def findFrom? (t : Tree) (text : Array Char) : (left start least : Nat) → Option Span
  | 0, start, least => (t.endAt? text start least).map (Span.mk start)
  | left + 1, start, least =>
    match t.endAt? text start least with
    | some stop => some ⟨start, stop⟩
    | none => findFrom? t text left (start + 1) 0

/-- The matches from a place on, at most so many. -/
def spansFrom (t : Tree) (text : Array Char) : (fuel start least : Nat) → List Span
  | 0, _, _ => []
  | fuel + 1, start, least =>
    match t.findFrom? text (text.size - start) start least with
    | none => []
    | some s => s :: spansFrom t text fuel s.stop (if s.isEmpty then 1 else 0)

/-- The matches of a pattern in a text. At every place at most one match begins and is empty, and at
most one begins and is not. -/
def spans (t : Tree) (text : List Char) : List Span :=
  t.spansFrom text.toArray (2 * text.length + 2) 0 0

/-- The text has a match. -/
def occursIn (t : Tree) (text : List Char) : Bool :=
  (t.findFrom? text.toArray text.length 0 0).isSome

end Tree

end CommandShell.Pattern
