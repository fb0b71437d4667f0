import CommandShell.Text.CasedTable
import CommandShell.Text.CaseTable

/-! # Upper and lower case

`lowerChar` and `upperChar` map one character to one; `lower` maps a text, in which one letter, the
capital I with a dot, becomes two, and another, the capital sigma, has a form of its own at the end of
a word. -/

namespace CommandShell.Text

/-- Where the runs move the code point. -/
def shifted (runs : List CaseRun) (n : Nat) : Nat :=
  match runs.find? fun r => r.first ≤ n && n ≤ r.last && (n - r.first) % r.step == 0 with
  | some r => (n + r.shift).toNat
  | none => n

/-- The lower case of one character. -/
def lowerChar (c : Char) : Char :=
  if c.toNat < 128 then c.toLower else Char.ofNat (shifted lowerRuns c.toNat)

/-- The upper case of one character. -/
def upperChar (c : Char) : Char :=
  if c.toNat < 128 then c.toUpper else Char.ofNat (shifted upperRuns c.toNat)

/-- A text starts with a character that has a case, but for those that are passed over. -/
def startsCased (cs : List Char) : Bool :=
  ((cs.map Char.toNat).find? fun n => !passedRanges.has n).any casedRanges.has

/-- The lower case of a character with the text around it; `before` stands in reverse. -/
def lowerWithin (before : List Char) (c : Char) (after : List Char) : List Char :=
  if c.toNat = 0x130 then ['i', '\u0307']
  else if c.toNat = 0x3A3 && startsCased before && !startsCased after then ['\u03C2']
  else [lowerChar c]

/-- The lower case of a text behind another one, which stands in reverse. -/
def lowerBehind (before : List Char) : List Char → List Char
  | [] => []
  | c :: cs => lowerWithin before c cs ++ lowerBehind (c :: before) cs

/-- A text in lower case. -/
def lowerChars (cs : List Char) : List Char := lowerBehind [] cs

def lower (s : String) : String := String.ofList (lowerChars s.toList)

end CommandShell.Text
