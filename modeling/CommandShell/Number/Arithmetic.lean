import CommandShell.Number.Binary64

/-! # Arithmetic of floating-point numbers

Sums and products are the exact ones, rounded. -/

namespace CommandShell.Binary64

def isNegative : Binary64 → Bool
  | .finite negative _ _ => negative
  | .infinite negative => negative
  | .notANumber => false

def negate : Binary64 → Binary64
  | .finite negative e f => .finite (!negative) e f
  | .infinite negative => .infinite (!negative)
  | .notANumber => .notANumber

/-- The number nearest to a fraction. -/
def ofRat (q : Rat) : Binary64 := nearest (q < 0) q.num.natAbs q.den

/-- Two zeros of different sign add up to the positive one. -/
def add (x y : Binary64) : Binary64 :=
  match x, y with
  | .notANumber, _ => .notANumber
  | _, .notANumber => .notANumber
  | .infinite a, .infinite b => if a = b then .infinite a else .notANumber
  | .infinite a, _ => .infinite a
  | _, .infinite b => .infinite b
  | x, y =>
    match x.toRat?, y.toRat? with
    | some p, some q =>
      let sum := Rat.add p q
      if sum.num = 0 then .zero (x.isNegative && y.isNegative) else ofRat sum
    | _, _ => .notANumber

def mul (x y : Binary64) : Binary64 :=
  let negative := x.isNegative != y.isNegative
  match x.toRat?, y.toRat? with
  | some p, some q =>
    let product := Rat.mul p q
    if product.num = 0 then .zero negative else ofRat product
  | _, _ =>
    if x = .notANumber ∨ y = .notANumber ∨ !x.isNonzero ∨ !y.isNonzero then .notANumber
    else .infinite negative

end CommandShell.Binary64
