import CommandShell.Text.Blank
import CommandShell.Text.Digit
import CommandShell.Text.Quoted

/-! # Integers written in decimal

A numeral is a sign and decimal digits of any script; single underscores may stand between digits
and blanks around the whole. Numerals of more than `Numeral.limit` digits are refused. -/

namespace CommandShell.Numeral

/-- The most digits that are converted. -/
def limit : Nat := 4300

inductive Fault where
  | malformed (base : Nat) (text : String)
  | tooLong (digits : Nat)
deriving DecidableEq, Repr

def Fault.message : Fault → String
  | .malformed base text =>
    s!"invalid literal for int() with base {base}: " ++ ((Text.quoted text).take 200).toString
  | .tooLong digits =>
    s!"Exceeds the limit ({limit} digits) for integer string conversion: value has {digits} digits; "
      ++ "use sys.set_int_max_str_digits() to increase the limit"

/-- The digits with the single underscores between them left out. -/
def digits? : List Char → Option (List Char)
  | [] => none
  | [c] => if Text.isDecimal c then some [c] else none
  | c :: '_' :: d :: r =>
    if Text.isDecimal c then (digits? (d :: r)).map (c :: ·) else none
  | c :: r => if Text.isDecimal c then (digits? r).map (c :: ·) else none

/-- The sign of a text and what follows it. -/
def signed : List Char → Bool × List Char
  | '-' :: r => (true, r)
  | '+' :: r => (false, r)
  | cs => (false, cs)

/-- The integer that a text stands for. -/
def read (text : String) : Except Fault Int :=
  let (negative, body) := signed (Text.trim text.toList)
  match digits? body with
  | none => .error (.malformed 10 text)
  | some ds =>
    if limit < ds.length then .error (.tooLong ds.length)
    else
      let n := Text.decimalValue 0 ds
      .ok (if negative then -n else n)

/-- An optional minus and digits, and perhaps a line end after them: such a value of a flag counts
as an integer. -/
def isPlain (cs : List Char) : Bool :=
  let body := match cs with
    | '-' :: r => r
    | _ => cs
  match body.dropWhile Text.isDecimal with
  | [] => !body.isEmpty
  | ['\n'] => body.length != 1
  | _ => false

end CommandShell.Numeral
