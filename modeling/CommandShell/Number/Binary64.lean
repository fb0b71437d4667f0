/-! # Floating-point numbers of 64 bits

A number is a sign, an exponent field and a fraction, so two numbers are equal exactly when they
have the same bits, with one value for all that is not a number. `nearest` rounds a quotient of
natural numbers, and a tie goes to the even neighbour. -/

namespace CommandShell

/-- The number of fractions, two to the power of 52. -/
abbrev fractionEnd : Nat := 0x10000000000000

def twoTo (n : Nat) : Nat := Nat.pow 2 n

def tenTo (n : Nat) : Nat := Nat.pow 10 n

/-- A binary floating-point number: 53 significant bits, exponents down to `2 ^ -1074`. -/
inductive Binary64 where
  | finite (negative : Bool) (exponent : Fin 2047) (fraction : Fin fractionEnd)
  | infinite (negative : Bool)
  | notANumber
deriving DecidableEq, Repr, Inhabited

/-- The quotient rounded to the nearest natural number, a tie to the even one. -/
def roundDiv (num den : Nat) : Nat :=
  let q := num / den
  let r := num % den
  if den < 2 * r ∨ (den = 2 * r ∧ q % 2 = 1) then q + 1 else q

namespace Binary64

/-- The zero of a sign. -/
def zero (negative : Bool) : Binary64 := .finite negative 0 0

/-- The significant bits as a natural number. -/
def significand (exponent : Fin 2047) (fraction : Fin fractionEnd) : Nat :=
  if exponent.val = 0 then fraction.val else fractionEnd + fraction.val

/-- The power of two that the significand is multiplied with. -/
def scale (exponent : Fin 2047) : Int := (max exponent.val 1 : Nat) - 1075

/-- The number `± m * 2 ^ k`, for a significand of at most `2 ^ 53` that has all its 53 bits unless
`k` is the least scale. -/
def ofParts (negative : Bool) (m : Nat) (k : Int) : Binary64 :=
  if m < fractionEnd then .finite negative 0 (Fin.ofNat _ m)
  else
    let carried := m = 2 * fractionEnd
    let field := (k + 1075 + if carried then 1 else 0).toNat
    let fraction := if carried then 0 else m - fractionEnd
    if h : field < 2047 then .finite negative ⟨field, h⟩ (Fin.ofNat _ fraction)
    else .infinite negative

/-- The number of bits before the point of a positive quotient, less one. -/
def binaryExponent (num den : Nat) : Int :=
  let e : Int := num.log2 - den.log2
  let below := if 0 ≤ e then num < den <<< e.toNat else num <<< (-e).toNat < den
  if below then e - 1 else e

/-- The number nearest to `± num / den`. -/
def nearest (negative : Bool) (num den : Nat) : Binary64 :=
  if num = 0 then .zero negative
  else
    let k := max (binaryExponent num den - 52) (-1074)
    let m := if k < 0 then roundDiv (num <<< (-k).toNat) den else roundDiv num (den <<< k.toNat)
    ofParts negative m k

/-- The number nearest to `± digits * 10 ^ power`. -/
def ofDecimal (negative : Bool) (digits : Nat) (power : Int) : Binary64 :=
  if digits = 0 then .zero negative
  else
    let places := (Nat.toDigits 10 digits).length + power
    if places < -400 then .zero negative
    else if 400 < places then .infinite negative
    else if power < 0 then nearest negative digits (tenTo (-power).toNat)
    else nearest negative (digits * tenTo power.toNat) 1

/-- The number nearest to an integer. -/
def ofInt (n : Int) : Binary64 := nearest (n < 0) n.natAbs 1

/-- A finite number as a fraction. -/
def toRat? : Binary64 → Option Rat
  | .finite negative exponent fraction =>
    let m : Int := significand exponent fraction
    let signed := if negative then -m else m
    let k := scale exponent
    some (if 0 ≤ k then mkRat (signed * twoTo k.toNat) 1 else mkRat signed (twoTo (-k).toNat))
  | _ => none

/-- A finite number without its places after the point. -/
def truncate? : Binary64 → Option Int
  | .finite negative exponent fraction =>
    let m := significand exponent fraction
    let k := scale exponent
    let whole : Nat := if 0 ≤ k then m * twoTo k.toNat else m / twoTo (-k).toNat
    some (if negative then -whole else whole)
  | _ => none

/-- The number is neither of the two zeros. -/
def isNonzero : Binary64 → Bool
  | .finite _ exponent fraction => exponent.val != 0 || fraction.val != 0
  | _ => true

/-- The number is greater than zero. -/
def isPositive : Binary64 → Bool
  | .finite negative exponent fraction => !negative && (exponent.val != 0 || fraction.val != 0)
  | .infinite negative => !negative
  | .notANumber => false

/-- Equality of numbers: the two zeros are equal, and what is not a number equals nothing. -/
def sameNumber : Binary64 → Binary64 → Bool
  | .notANumber, _ => false
  | _, .notANumber => false
  | x, y => x == y || (!x.isNonzero && !y.isNonzero)

/-- The order of numbers. -/
def less : Binary64 → Binary64 → Bool
  | .notANumber, _ => false
  | _, .notANumber => false
  | .infinite a, .infinite b => a && !b
  | .infinite a, _ => a
  | _, .infinite b => !b
  | x, y =>
    match x.toRat?, y.toRat? with
    | some a, some b => a < b
    | _, _ => false

end Binary64

end CommandShell
