import CommandShell.Pattern.Tree
import CommandShell.Text.Blank
import CommandShell.Text.Case
import CommandShell.Text.Digit
import CommandShell.Text.Word

/-! # Matching one character

A character is compared with the members of a pattern under a case rule. Without regard to case, two
characters match when their lower cases are equal or have the same upper case. -/

namespace CommandShell.Pattern

/-- The lower-case letters that share their upper case with others. -/
def twins : List (List Nat) := [
  [0x69, 0x131], [0x73, 0x17F], [0xB5, 0x3BC], [0x345, 0x3B9, 0x1FBE], [0x390, 0x1FD3],
  [0x3B0, 0x1FE3], [0x3B2, 0x3D0], [0x3B5, 0x3F5], [0x3B8, 0x3D1], [0x3BA, 0x3F0], [0x3C0, 0x3D6],
  [0x3C1, 0x3F1], [0x3C2, 0x3C3], [0x3C6, 0x3D5], [0x432, 0x1C80], [0x434, 0x1C81],
  [0x43E, 0x1C82], [0x441, 0x1C83], [0x442, 0x1C84, 0x1C85], [0x44A, 0x1C86], [0x463, 0x1C87],
  [0xA64B, 0x1C88], [0x1E61, 0x1E9B], [0xFB05, 0xFB06]]

/-- A lower-case letter and those with the same upper case. -/
def twinsOf (n : Nat) : List Nat := (twins.find? (·.contains n)).getD [n]

/-- The lower case of a code point. -/
def lowerPoint (rule : CaseRule) (n : Nat) : Nat :=
  match rule with
  | .exact => n
  | .folded => if n < 128 then (Char.ofNat n).toLower.toNat else Text.shifted Text.lowerRuns n
  | .foldedAscii => if n < 128 then (Char.ofNat n).toLower.toNat else n

def upperPoint (n : Nat) : Nat :=
  if n < 128 then (Char.ofNat n).toUpper.toNat else Text.shifted Text.upperRuns n

/-- The code point has two cases. -/
def isCasedPoint (rule : CaseRule) (n : Nat) : Bool :=
  match rule with
  | .exact => false
  | .folded => lowerPoint .folded n != n || upperPoint n != n
  | .foldedAscii => n < 128 && (Char.ofNat n).isAlpha

/-- A single code point matches a character. -/
def charMatches (rule : CaseRule) (n : Nat) (c : Char) : Bool :=
  if !isCasedPoint rule n then c.toNat == n
  else
    let low := lowerPoint rule c.toNat
    match rule with
    | .folded => (twinsOf (lowerPoint rule n)).contains low
    | _ => low == lowerPoint rule n

/-- Two characters of a text are the same under a case rule. -/
def sameChar (rule : CaseRule) (c d : Char) : Bool :=
  lowerPoint rule c.toNat == lowerPoint rule d.toNat

def categoryHolds (category : Category) (ascii : Bool) (n : Nat) : Bool :=
  let c := Char.ofNat n
  if ascii then
    match category with
    | .digit => c.isDigit
    | .space => c == ' ' || (9 ≤ n && n ≤ 13)
    | .word => c.isAlphanum || c == '_'
  else
    match category with
    | .digit => Text.isDecimal c
    | .space => Text.isBlank c
    | .word => Text.isWord c

def isWordChar (ascii : Bool) (c : Char) : Bool := categoryHolds .word ascii c.toNat

/-- A run of case mappings has a member in a range. -/
def runMeets (first last : Nat) (run : Text.CaseRun) : Bool :=
  let start := if first ≤ run.first then run.first
    else run.first + (first - run.first + run.step - 1) / run.step * run.step
  start ≤ run.last && start ≤ last

/-- A range has a letter of two cases. -/
def rangeIsCased (rule : CaseRule) (first last : Nat) : Bool :=
  match rule with
  | .exact => false
  | .folded => (Text.lowerRuns ++ Text.upperRuns).any (runMeets first last)
  | .foldedAscii => (first ≤ 90 && 65 ≤ last) || (first ≤ 122 && 97 ≤ last)

/-- The code points of which `n` is the lower case. -/
def capitals (rule : CaseRule) (n : Nat) : List Nat :=
  let own := if lowerPoint rule n = n then [n] else []
  match rule with
  | .exact => [n]
  | .foldedAscii => if 97 ≤ n ∧ n ≤ 122 then [n - 32, n] else own
  | .folded =>
    own ++ Text.lowerRuns.filterMap fun run =>
      let m := ((n : Int) - run.shift).toNat
      if run.first ≤ m && m ≤ run.last && (m - run.first) % run.step == 0
        && lowerPoint .folded m == n then some m else none

/-- The greatest code point that sets hold in a table. -/
def tableEnd : Nat := 0xFFFF

/-- A member of a set has letters of two cases, or letters beyond the table. -/
def memberIsCased (rule : CaseRule) : Member → Bool
  | .single n => isCasedPoint rule n || tableEnd < lowerPoint rule n
  | .range first last => tableEnd < last || rangeIsCased rule first last
  | .category _ _ _ => false

/-- A member of a set holds a code point as it is. -/
def memberHolds (n : Nat) : Member → Bool
  | .single m => m == n
  | .range first last => first ≤ n && n ≤ last
  | .category c negated ascii => categoryHolds c ascii n != negated

/-- A member of a set holds a lower-case code point in one of its cases. Beyond the table single
members are compared as they are. -/
def memberHoldsFolded (rule : CaseRule) (low : Nat) : Member → Bool
  | .single m =>
    let l := lowerPoint rule m
    if tableEnd < l then m == low
    else if rule = .folded then (twinsOf l).contains low
    else l == low
  | .range first last =>
    let lows := if rule = .folded then twinsOf low else [low]
    let inTable := lows.any fun l =>
      (capitals rule l).any fun m => first ≤ m && m ≤ last && m ≤ tableEnd
    let beyond := tableEnd < last
      && ((first ≤ low && low ≤ last) || (first ≤ upperPoint low && upperPoint low ≤ last))
    inTable || beyond
  | .category c negated ascii => categoryHolds c ascii low != negated

/-- A set matches a character. -/
def setMatches (rule : CaseRule) (negated : Bool) (members : List Member) (c : Char) : Bool :=
  let held :=
    if rule ≠ .exact ∧ members.any (memberIsCased rule) = true then
      members.any (memberHoldsFolded rule (lowerPoint rule c.toNat))
    else members.any (memberHolds c.toNat)
  held != negated

/-- A part of one character matches a character. -/
def unitMatches (t : Tree) (c : Char) : Bool :=
  match t with
  | .char rule n => charMatches rule n c
  | .notChar rule n => !charMatches rule n c
  | .any lines => lines || c != '\n'
  | .set rule negated members => setMatches rule negated members c
  | _ => false

end CommandShell.Pattern
