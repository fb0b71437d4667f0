import CommandShell.Markup.NameTable
import CommandShell.Number.Numeral

/-! # Character references

In a marked text an ampersand begins a reference to a character, by number or by name. A few names are
also read without the semicolon behind them. `Reference.decode` puts the characters in place of the
references and leaves every ampersand that begins none. -/

namespace CommandShell.Markup

/-- The characters that the numbers from 128 on refer to, as far as they differ from those numbers;
zero stands for no such character. -/
def oldNumbers : List Nat := [
  0x20AC, 0, 0x201A, 0x192, 0x201E, 0x2026, 0x2020, 0x2021, 0x2C6, 0x2030, 0x160, 0x2039, 0x152, 0,
  0x17D, 0, 0, 0x2018, 0x2019, 0x201C, 0x201D, 0x2022, 0x2013, 0x2014, 0x2DC, 0x2122, 0x161, 0x203A,
  0x153, 0, 0x17E, 0x178]

/-- A reference to this number stands for nothing. -/
def isVoid (n : Nat) : Bool :=
  (1 ≤ n && n ≤ 8) || n == 11 || (14 ≤ n && n ≤ 31) || (0x7F ≤ n && n ≤ 0x9F)
    || (0xFDD0 ≤ n && n ≤ 0xFDEF) || 0xFFFE ≤ n % 0x10000

/-- What stands for a character that cannot be written. -/
def replacement : Char := Char.ofNat 0xFFFD

/-- The text that a number refers to. -/
def numbered (n : Nat) : List Char :=
  if n = 0 then [replacement]
  else if 128 ≤ n ∧ n ≤ 159 then
    match (oldNumbers[n - 128]?).getD 0 with
    | 0 => [Char.ofNat n]
    | m => [Char.ofNat m]
  else if (0xD800 ≤ n ∧ n ≤ 0xDFFF) ∨ 0x10FFFF < n then [replacement]
  else if isVoid n then []
  else [Char.ofNat n]

/-- The character of an open name. -/
def openName? (name : List Char) : Option Char :=
  (openNames.lookup (String.ofList name)).map Char.ofNat

/-- The text of a name that a semicolon follows. -/
def closedName? (name : List Char) : Option (List Char) :=
  match openName? name with
  | some c => some [c]
  | none => (closedNames.lookup (String.ofList name)).map (·.map Char.ofNat)

/-- The longest open name, of two characters at least, with which a text begins, and the rest. -/
def openStart? (text : List Char) : Nat → Option (List Char)
  | n + 2 =>
    match openName? (text.take (n + 2)) with
    | some c => some (c :: text.drop (n + 2))
    | none => openStart? text (n + 1)
  | _ => none

/-- What stands in the place of a reference, and how many characters behind the ampersand the
reference takes. -/
structure Reference where
  text : List Char
  used : Nat
deriving DecidableEq, Repr

namespace Reference

def isHexDigit (c : Char) : Bool :=
  c.isDigit || ('a' ≤ c && c ≤ 'f') || ('A' ≤ c && c ≤ 'F')

/-- The value of a digit in any base up to sixteen. -/
def digitValue (c : Char) : Nat :=
  if c.isDigit then c.toNat - 48 else if 'a' ≤ c then c.toNat - 87 else c.toNat - 55

def valueIn (base : Nat) (digits : List Char) : Nat :=
  digits.foldl (fun n c => base * n + digitValue c) 0

/-- One for a semicolon at the front of what is left. -/
def semicolon (rest : List Char) : Nat := if rest.head? = some ';' then 1 else 0

/-- May occur in a name. -/
def isNameChar (c : Char) : Bool := !(['\t', '\n', '\x0c', ' ', '<', '&', '#', ';'].contains c)

/-- The greatest length of a name. -/
def nameLimit : Nat := 32

/-- A reference by name. -/
def ofName? (cs : List Char) : Option Reference :=
  let name := (cs.take nameLimit).takeWhile isNameChar
  let n := name.length
  if cs[n]? = some ';' then
    match closedName? name with
    | some text => some ⟨text, n + 1⟩
    | none => (openStart? name n).map fun text => ⟨text ++ [';'], n + 1⟩
  else (openStart? name n).map fun text => ⟨text, n⟩

/-- A reference by number in a base, behind so many characters. -/
def ofDigits? (base skipped : Nat) (digits rest : List Char) : Option Reference :=
  if digits.isEmpty then none
  else some ⟨numbered (valueIn base digits), skipped + digits.length + semicolon rest⟩

/-- The reference that the text behind an ampersand begins with. A decimal number has a limit to its
length. -/
def read? : List Char → Except Numeral.Fault (Option Reference)
  | '#' :: 'x' :: cs | '#' :: 'X' :: cs =>
    .ok (ofDigits? 16 2 (cs.takeWhile isHexDigit) (cs.dropWhile isHexDigit))
  | '#' :: cs =>
    let digits := cs.takeWhile Char.isDigit
    if Numeral.limit < digits.length then .error (.tooLong digits.length)
    else .ok (ofDigits? 10 1 digits (cs.dropWhile Char.isDigit))
  | cs => .ok (ofName? cs)

/-- Puts the text of every reference in its place; so many characters at the front belong to a
reference that was read before. -/
def decodeFrom : Nat → List Char → Except Numeral.Fault (List Char)
  | _, [] => .ok []
  | n + 1, _ :: cs => decodeFrom n cs
  | 0, c :: cs =>
    if c = '&' then
      match read? cs with
      | .error e => .error e
      | .ok none => (decodeFrom 0 cs).map (c :: ·)
      | .ok (some r) => (decodeFrom r.used cs).map (r.text ++ ·)
    else (decodeFrom 0 cs).map (c :: ·)

/-- Puts the text of every reference in its place. -/
def decode (cs : List Char) : Except Numeral.Fault (List Char) := decodeFrom 0 cs

/-- How a character is written so that it is neither part of a mark nor of a reference. -/
def written (c : Char) : List Char :=
  match c with
  | '&' => "&amp;".toList
  | '<' => "&lt;".toList
  | '>' => "&gt;".toList
  | '\x22' => "&quot;".toList
  | '\x27' => "&#x27;".toList
  | c => [c]

/-- Writes a text with references for the characters that have a meaning of their own. -/
def encode (cs : List Char) : List Char := cs.flatMap written

end Reference

end CommandShell.Markup
