import CommandShell.Number.Binary64
import Mathlib.Algebra.Order.Ring.Rat
import Mathlib.Tactic.FieldSimp
import Mathlib.Tactic.Ring

/-!
# Equality of floating-point numbers

Two finite numbers are equal just when they are the same fraction (`sameNumber_iff_toRat?`).
All of them are multiples of one power of two, by an integer (`units`) that determines the
number up to the sign of zero: of two numbers with different exponents the one with the
greater exponent has all its significant bits, and so it is greater (`units_lt`).
-/

namespace CommandShell.Binary64

/-- A finite number without its sign, in units of `2 ^ -1075`. -/
def units (exponent : Fin 2047) (fraction : Fin fractionEnd) : Nat :=
  significand exponent fraction * 2 ^ max exponent.val 1

/-- A finite number in units of `2 ^ -1075`. -/
def signedUnits (negative : Bool) (exponent : Fin 2047) (fraction : Fin fractionEnd) : Int :=
  if negative then -units exponent fraction else units exponent fraction

theorem significand_lt (e : Fin 2047) (f : Fin fractionEnd) :
    significand e f < 2 * fractionEnd := by
  have := f.isLt
  unfold significand
  split <;> omega

/-- With a greater exponent all bits of the significand are there. -/
theorem units_lt {e e' : Fin 2047} (h : max e.val 1 < max e'.val 1) (f f' : Fin fractionEnd) :
    units e f < units e' f' := by
  have he' : e'.val ≠ 0 := by omega
  have hbits : fractionEnd ≤ significand e' f' := by
    rw [significand, if_neg he']
    exact Nat.le_add_right _ _
  calc units e f < 2 * fractionEnd * 2 ^ max e.val 1 :=
        Nat.mul_lt_mul_of_pos_right (significand_lt e f) (Nat.two_pow_pos _)
    _ = fractionEnd * 2 ^ (max e.val 1 + 1) := by rw [Nat.pow_succ]; ring
    _ ≤ fractionEnd * 2 ^ max e'.val 1 :=
        Nat.mul_le_mul_left _ (Nat.pow_le_pow_right Nat.two_pos h)
    _ ≤ units e' f' := Nat.mul_le_mul_right _ hbits

theorem units_inj {e e' : Fin 2047} {f f' : Fin fractionEnd} :
    units e f = units e' f' ↔ e = e' ∧ f = f' := by
  refine ⟨fun h => ?_, fun ⟨he, hf⟩ => by rw [he, hf]⟩
  have hmax : max e.val 1 = max e'.val 1 := by
    rcases Nat.lt_trichotomy (max e.val 1) (max e'.val 1) with hlt | heq | hlt
    · exact absurd h (Nat.ne_of_lt (units_lt hlt f f'))
    · exact heq
    · exact absurd h.symm (Nat.ne_of_lt (units_lt hlt f' f))
  have hbits : significand e f = significand e' f' := by
    unfold units at h
    rw [hmax] at h
    exact Nat.eq_of_mul_eq_mul_right (Nat.two_pow_pos _) h
  have := f.isLt
  have := f'.isLt
  unfold significand at hbits
  rw [Fin.ext_iff, Fin.ext_iff]
  split at hbits <;> split at hbits <;> omega

theorem units_eq_zero {e : Fin 2047} {f : Fin fractionEnd} :
    units e f = 0 ↔ e.val = 0 ∧ f.val = 0 := by
  have hzero : units 0 0 = 0 := by simp [units, significand]
  rw [← hzero, units_inj, Fin.ext_iff, Fin.ext_iff]
  rfl

theorem cast_twoTo (n : Nat) : ((twoTo n : Nat) : Rat) = 2 ^ n :=
  Nat.cast_pow 2 n

/-- A power of two above and one below the line of a fraction. -/
theorem ratio_eq (z : Int) (a b : Nat) :
    (if 0 ≤ (a : Int) - b then mkRat (z * twoTo ((a : Int) - b).toNat) 1
      else mkRat z (twoTo (-((a : Int) - b)).toNat)) = ((z * 2 ^ a : Int) : Rat) / 2 ^ b := by
  split
  · rename_i hle
    obtain ⟨c, rfl⟩ := Nat.exists_eq_add_of_le (Int.ofNat_le.mp (Int.sub_nonneg.mp hle))
    have hc : (((b + c : Nat) : Int) - b).toNat = c := by omega
    rw [hc, Rat.mkRat_eq_div]
    push_cast
    rw [cast_twoTo, pow_add]
    field_simp
  · rename_i hlt
    obtain ⟨c, rfl⟩ := Nat.exists_eq_add_of_le (Nat.le_of_lt (by omega : a < b))
    have hc : (-((a : Int) - ((a + c : Nat) : Int))).toNat = c := by omega
    rw [hc, Rat.mkRat_eq_div]
    push_cast
    rw [cast_twoTo, pow_add]
    field_simp

theorem toRat?_finite (n : Bool) (e : Fin 2047) (f : Fin fractionEnd) :
    (finite n e f).toRat? = some ((signedUnits n e f : Rat) / 2 ^ 1075) := by
  have hsigned : (if n then -(significand e f : Int) else significand e f) * 2 ^ max e.val 1 =
      signedUnits n e f := by
    cases n <;> simp [signedUnits, units]
  rw [← hsigned]
  exact congrArg some (ratio_eq _ _ 1075)

theorem toRat?_inj {n n' : Bool} {e e' : Fin 2047} {f f' : Fin fractionEnd} :
    (finite n e f).toRat? = (finite n' e' f').toRat? ↔
      signedUnits n e f = signedUnits n' e' f' := by
  rw [toRat?_finite, toRat?_finite, Option.some_inj, div_left_inj' (pow_ne_zero _ two_ne_zero),
    Int.cast_inj]

theorem sameNumber_finite {n n' : Bool} {e e' : Fin 2047} {f f' : Fin fractionEnd} :
    (finite n e f).sameNumber (finite n' e' f') = true ↔
      signedUnits n e f = signedUnits n' e' f' := by
  have hsame : (finite n e f).sameNumber (finite n' e' f') = true ↔
      (n = n' ∧ e = e' ∧ f = f') ∨ (units e f = 0 ∧ units e' f' = 0) := by
    rw [units_eq_zero, units_eq_zero]
    simp [sameNumber, isNonzero]
  rw [hsame, ← @units_inj e e' f f']
  cases n <;> cases n' <;> simp only [signedUnits] <;> simp <;> omega

/-- **Equal finite numbers are the same fraction.** -/
theorem sameNumber_iff_toRat? {x y : Binary64} {q : Rat} (hx : x.toRat? = some q) :
    x.sameNumber y = true ↔ y.toRat? = some q := by
  rw [← hx]
  cases x with
  | notANumber => cases hx
  | infinite => cases hx
  | finite n e f =>
      cases y with
      | notANumber => simp [sameNumber, toRat?]
      | infinite => simp [sameNumber, toRat?, isNonzero]
      | finite n' e' f' => rw [sameNumber_finite, ← toRat?_inj, eq_comm]

/-- What is no fraction is the same number as itself at most. -/
theorem eq_of_sameNumber {x y : Binary64} (hx : x.toRat? = none) (h : x.sameNumber y = true) :
    x = y := by
  cases x with
  | notANumber => cases h
  | infinite a => cases y <;> simp_all [sameNumber, isNonzero]
  | finite n e f => cases hx

end CommandShell.Binary64
