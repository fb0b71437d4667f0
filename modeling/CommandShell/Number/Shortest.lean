import CommandShell.Number.Binary64

/-! # The shortest decimal text of a number

Of all decimal numbers that round to a given binary one, `shortest` gives a nearest one among those
with the fewest digits. `Binary64.text` writes it out. -/

namespace CommandShell.Binary64

/-- The numbers that round to `m * 2 ^ k`, scaled to integers over a common denominator: the number
itself, the least and the greatest that still round to it, and whether these two count. -/
structure Neighbourhood where
  value : Nat
  low : Nat
  high : Nat
  denominator : Nat
  closed : Bool

/-- Below a power of two the next number is only half as far away as above it, except at the least
exponent. -/
def neighbourhood (exponent : Fin 2047) (fraction : Fin fractionEnd) : Neighbourhood :=
  let m := significand exponent fraction
  let k := scale exponent - 2
  let below := if fraction.val = 0 ∧ 1 < exponent.val then 1 else 2
  let up := if 0 ≤ k then twoTo k.toNat else 1
  { value := 4 * m * up
    low := (4 * m - below) * up
    high := (4 * m + 2) * up
    denominator := if 0 ≤ k then 1 else twoTo (-k).toNat
    closed := m % 2 = 0 }

/-- The multiple `c` of `10 ^ p` rounds to the number. -/
def Neighbourhood.holds (n : Neighbourhood) (c : Nat) (p : Int) : Bool :=
  let x := if 0 ≤ p then c * tenTo p.toNat * n.denominator else c * n.denominator
  let down := if 0 ≤ p then 1 else tenTo (-p).toNat
  if n.closed then n.low * down ≤ x && x ≤ n.high * down
  else n.low * down < x && x < n.high * down

/-- The multiple of `10 ^ p` next to the number that rounds to it: the nearer one of two, and the
even one of two that are equally near. -/
def Neighbourhood.onGrid? (n : Neighbourhood) (p : Int) : Option Nat :=
  let num := if 0 ≤ p then n.value else n.value * tenTo (-p).toNat
  let den := if 0 ≤ p then n.denominator * tenTo p.toNat else n.denominator
  let c := num / den
  match n.holds c p, n.holds (c + 1) p with
  | true, true => some (roundDiv num den)
  | true, false => some c
  | false, true => some (c + 1)
  | false, false => none

/-- The first of the grids `10 ^ p, 10 ^ (p - 1), …` with a multiple that rounds to the number. -/
def Neighbourhood.coarsest (n : Neighbourhood) : Nat → Int → Nat × Int
  | 0, p => (0, p)
  | tries + 1, p =>
    match n.onGrid? p with
    | some c => (c, p)
    | none => n.coarsest tries (p - 1)

/-- The digits and the power of ten of a shortest decimal number that rounds to the given one. -/
def shortest (exponent : Fin 2047) (fraction : Fin fractionEnd) : Nat × Int :=
  let n := neighbourhood exponent fraction
  let bits : Int := (significand exponent fraction).log2 + scale exponent
  n.coarsest 21 ((bits * 30103).fdiv 100000 + 2)

/-- Numbers from `10 ^ -4` up to below `10 ^ 16` are written positionally, and always with a place
after the point; the others with an exponent of at least two digits. -/
def decimalText (digits : List Char) (power : Int) : List Char :=
  let point : Int := digits.length + power
  if -4 < point ∧ point ≤ 16 then
    if point ≤ 0 then '0' :: '.' :: List.replicate (-point).toNat '0' ++ digits
    else if (digits.length : Int) ≤ point then
      digits ++ List.replicate (point - digits.length).toNat '0' ++ ['.', '0']
    else digits.take point.toNat ++ '.' :: digits.drop point.toNat
  else
    let e := point - 1
    let places := Nat.toDigits 10 e.natAbs
    let rest := digits.drop 1
    digits.take 1 ++ (if rest.isEmpty then [] else '.' :: rest)
      ++ 'e' :: (if e < 0 then '-' else '+') :: List.replicate (2 - places.length) '0' ++ places

/-- The text of a number. -/
def text : Binary64 → String
  | .notANumber => "NaN"
  | .infinite negative => if negative then "-Infinity" else "Infinity"
  | .finite negative exponent fraction =>
    let unsigned :=
      if significand exponent fraction = 0 then ['0', '.', '0']
      else
        let (digits, power) := shortest exponent fraction
        decimalText (Nat.toDigits 10 digits) power
    String.ofList (if negative then '-' :: unsigned else unsigned)

end CommandShell.Binary64
