import CommandShell.Number.Numeral
import CommandShell.Number.Arithmetic

/-! # Decimal numbers with places

A text stands for the floating-point number nearest to it: digits with an optional point and an
optional exponent, or a name of what is no finite number. -/

namespace CommandShell.Decimal

/-- The names of infinity and of what is not a number, in lower case. -/
def names : List (String × Binary64) :=
  [("inf", .infinite false), ("infinity", .infinite false), ("nan", .notANumber)]

/-- The digits at the start of a text, and what follows them. -/
def digits (cs : List Char) : List Char × List Char :=
  (cs.takeWhile Text.isDecimal, cs.dropWhile Text.isDecimal)

/-- The exponent that a text consists of; the empty text is the exponent zero. -/
def exponent? : List Char → Option Int
  | [] => some 0
  | c :: r =>
    if c == 'e' || c == 'E' then
      let (negative, body) := Numeral.signed r
      let (ds, rest) := digits body
      if ds.isEmpty || !rest.isEmpty then none
      else
        let n := Text.decimalValue 0 ds
        some (if negative then -n else n)
    else none

/-- A number without its sign. -/
def unsigned? (negative : Bool) (cs : List Char) : Option Binary64 := do
  let (whole, rest) := digits cs
  let (places, rest) := match rest with
    | '.' :: r => digits r
    | _ => ([], rest)
  if whole.isEmpty && places.isEmpty then none
  let power ← exponent? rest
  return .ofDecimal negative (Text.decimalValue 0 (whole ++ places)) (power - places.length)

/-- The number that a text stands for. -/
def read? (text : List Char) : Option Binary64 :=
  let (negative, body) := Numeral.signed (Text.trim text)
  match names.lookup (String.ofList (body.map Char.toLower)) with
  | some x => some (if negative then x.negate else x)
  | none => unsigned? negative body

/-- The message about a text that is no number. -/
def message (text : List Char) : String :=
  "could not convert string to float: " ++ Text.quoted (String.ofList text)

end CommandShell.Decimal
