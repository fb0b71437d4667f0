import CommandShell.Number.Arithmetic
import CommandShell.Proofs.Number.Binary64
import Mathlib.Algebra.Order.Field.Power
import Mathlib.Algebra.Order.Floor.Semifield
import Mathlib.Algebra.Order.Ring.Abs
import Mathlib.Data.Rat.Floor
import Mathlib.Tactic.Linarith
import Mathlib.Tactic.NormNum

/-!
# Rounding to floating-point numbers

`nearest` scales a quotient by a power of two so that its 53 leading bits stand before the
point, rounds it to an integer, and scales it back. `RoundsAt` says this of a fraction, the
power and the integer; what `nearest` gives has these parts (`exists_nearest_eq`). So it is
finite and near the quotient unless that is large (`exists_toRat?_nearest`), and not below a
power of two that the quotient is not below (`two_zpow_le_of_nearest`).
-/

namespace CommandShell

/-- The rounded quotient is at most half away from the exact one. -/
theorem abs_roundDiv_sub_le (num : Nat) {den : Nat} (h : 0 < den) :
    |(roundDiv num den : ℚ) - num / den| ≤ 1 / 2 := by
  have hden : (0 : ℚ) < den := Nat.cast_pos.mpr h
  have hnum : (num : ℚ) = den * (num / den : Nat) + (num % den : Nat) := by
    exact_mod_cast (Nat.div_add_mod num den).symm
  have hquot : (num : ℚ) / den = (num / den : Nat) + (num % den : Nat) / den := by
    rw [hnum]
    field_simp
  have hrem : ((num % den : Nat) : ℚ) < den := Nat.cast_lt.mpr (Nat.mod_lt num h)
  have hrem' : (0 : ℚ) ≤ (num % den : Nat) := Nat.cast_nonneg _
  rw [hquot, roundDiv, abs_le]
  split
  · rename_i hup
    have hhalf : (den : ℚ) ≤ 2 * (num % den : Nat) := by
      exact_mod_cast hup.elim Nat.le_of_lt fun h => h.1.le
    constructor <;> push_cast <;> rw [← sub_nonneg] <;> field_simp <;> linarith
  · rename_i hdown
    have hhalf : 2 * ((num % den : Nat) : ℚ) ≤ den := by
      exact_mod_cast Nat.le_of_not_lt (not_or.mp hdown).1
    constructor <;> rw [← sub_nonneg] <;> field_simp <;> linarith

namespace Binary64

/-! ## Exponents -/

/-- A quotient is held against a power of two on the side where that is an integer. -/
theorem below_iff (num : Nat) {den : Nat} (hd : den ≠ 0) (e : Int) :
    (if 0 ≤ e then num < den <<< e.toNat else num <<< (-e).toNat < den) ↔
      (num : ℚ) / den < 2 ^ e := by
  have hden : (0 : ℚ) < den := Nat.cast_pos.mpr (Nat.pos_of_ne_zero hd)
  rw [div_lt_iff₀ hden]
  split
  · rename_i he
    obtain ⟨n, rfl⟩ := Int.eq_ofNat_of_zero_le he
    rw [Int.toNat_natCast, Nat.shiftLeft_eq, zpow_natCast, mul_comm den]
    exact_mod_cast Iff.rfl
  · rename_i he
    obtain ⟨n, hn⟩ := Int.eq_ofNat_of_zero_le (Int.le_of_lt (Int.neg_pos_of_neg (Int.not_le.mp he)))
    obtain rfl : e = -n := by omega
    rw [neg_neg, Int.toNat_natCast, Nat.shiftLeft_eq, zpow_neg, zpow_natCast,
      inv_mul_eq_div, lt_div_iff₀ (by positivity)]
    exact_mod_cast Iff.rfl

theorem two_pow_log2_le {n : Nat} (h : n ≠ 0) : (2 : ℚ) ^ (n.log2 : Int) ≤ n := by
  rw [zpow_natCast]
  exact_mod_cast Nat.log2_self_le h

theorem lt_two_pow_log2 (n : Nat) : (n : ℚ) < 2 ^ (n.log2 + 1 : Int) := by
  exact_mod_cast Nat.lt_log2_self (n := n)

/-- The exponent is that of the greatest power of two which the quotient is not below. -/
theorem binaryExponent_spec {num den : Nat} (hn : num ≠ 0) (hd : den ≠ 0) :
    (2 : ℚ) ^ binaryExponent num den ≤ num / den ∧
      (num : ℚ) / den < 2 ^ (binaryExponent num den + 1) := by
  have hden : (0 : ℚ) < den := Nat.cast_pos.mpr (Nat.pos_of_ne_zero hd)
  have hlow : (2 : ℚ) ^ ((num.log2 : Int) - den.log2 - 1) ≤ num / den := by
    rw [le_div_iff₀ hden]
    calc (2 : ℚ) ^ ((num.log2 : Int) - den.log2 - 1) * den
        ≤ 2 ^ ((num.log2 : Int) - den.log2 - 1) * 2 ^ (den.log2 + 1 : Int) :=
          mul_le_mul_of_nonneg_left (lt_two_pow_log2 den).le (by positivity)
      _ = 2 ^ (num.log2 : Int) := by
          rw [← zpow_add₀ two_ne_zero]
          congr 1
          ring
      _ ≤ num := two_pow_log2_le hn
  have hhigh : (num : ℚ) / den < 2 ^ ((num.log2 : Int) - den.log2 + 1) := by
    rw [div_lt_iff₀ hden]
    calc (num : ℚ) < 2 ^ (num.log2 + 1 : Int) := lt_two_pow_log2 num
      _ = 2 ^ ((num.log2 : Int) - den.log2 + 1) * 2 ^ (den.log2 : Int) := by
          rw [← zpow_add₀ two_ne_zero]
          congr 1
          ring
      _ ≤ 2 ^ ((num.log2 : Int) - den.log2 + 1) * den :=
          mul_le_mul_of_nonneg_left (two_pow_log2_le hd) (by positivity)
  have hbelow := below_iff num hd (num.log2 - den.log2)
  by_cases h : (num : ℚ) / den < 2 ^ ((num.log2 : Int) - den.log2)
  · have hexponent : binaryExponent num den = num.log2 - den.log2 - 1 :=
      if_pos (hbelow.mpr h)
    rw [hexponent, sub_add_cancel]
    exact ⟨hlow, h⟩
  · have hexponent : binaryExponent num den = num.log2 - den.log2 :=
      if_neg fun hlt => h (hbelow.mp hlt)
    rw [hexponent]
    exact ⟨not_lt.mp h, hhigh⟩

/-! ## The parts of the rounded number -/

/-- A quotient in units of `2 ^ k`, rounded to an integer. -/
def scaled (num den : Nat) (k : Int) : Nat :=
  if k < 0 then roundDiv (num <<< (-k).toNat) den else roundDiv num (den <<< k.toNat)

theorem abs_scaled_sub_le (num : Nat) {den : Nat} (hd : den ≠ 0) (k : Int) :
    |(scaled num den k : ℚ) - num / den * 2 ^ (-k)| ≤ 1 / 2 := by
  have hden := Nat.pos_of_ne_zero hd
  unfold scaled
  split
  · rename_i hk
    obtain ⟨n, hn⟩ := Int.eq_ofNat_of_zero_le (Int.le_of_lt (Int.neg_pos_of_neg hk))
    rw [hn, Int.toNat_natCast, Nat.shiftLeft_eq, zpow_natCast]
    have h := abs_roundDiv_sub_le (num * 2 ^ n) hden
    push_cast at h
    rwa [mul_div_right_comm] at h
  · rename_i hk
    obtain ⟨n, rfl⟩ := Int.eq_ofNat_of_zero_le (Int.not_lt.mp hk)
    rw [Int.toNat_natCast, Nat.shiftLeft_eq, zpow_neg, zpow_natCast, ← div_eq_mul_inv, div_div]
    have h := abs_roundDiv_sub_le num (Nat.mul_pos hden (Nat.two_pow_pos n))
    push_cast at h
    exact h

/-- A positive fraction rounded to `m * 2 ^ k`. The integer `m` has all its 53 bits unless `k` is
the least scale. -/
structure RoundsAt (x : ℚ) (k : Int) (m : Nat) : Prop where
  near : |(m : ℚ) - x * 2 ^ (-k)| ≤ 1 / 2
  least : -1074 ≤ k
  above : x < 2 ^ (k + 53)
  below : -1074 < k → 2 ^ (k + 52) ≤ x

theorem exists_nearest_eq (negative : Bool) {num den : Nat} (hn : num ≠ 0) (hd : den ≠ 0) :
    ∃ k m, RoundsAt (num / den) k m ∧ nearest negative num den = ofParts negative m k := by
  obtain ⟨hlow, hhigh⟩ := binaryExponent_spec hn hd
  refine ⟨max (binaryExponent num den - 52) (-1074), _, ⟨abs_scaled_sub_le num hd _,
    le_max_right _ _, hhigh.trans_le ?_, fun hk => ?_⟩, ?_⟩
  · exact zpow_le_zpow_right₀ one_le_two (by omega)
  · exact (zpow_le_zpow_right₀ one_le_two (by omega)).trans hlow
  · rw [nearest, if_neg hn]
    rfl

namespace RoundsAt

variable {x : ℚ} {k : Int} {m : Nat}

theorem abs_sub_le (h : RoundsAt x k m) : |(m : ℚ) * 2 ^ k - x| ≤ 2 ^ (k - 1) := by
  have hscale : (m : ℚ) * 2 ^ k - x = (m - x * 2 ^ (-k)) * 2 ^ k := by
    rw [sub_mul, mul_assoc, ← zpow_add₀ two_ne_zero, neg_add_cancel, zpow_zero, mul_one]
  rw [hscale, abs_mul, abs_of_pos (a := (2 : ℚ) ^ k) (by positivity), zpow_sub_one₀ two_ne_zero]
  linarith [mul_le_mul_of_nonneg_right h.near (by positivity : (0 : ℚ) ≤ 2 ^ k)]

/-- What is an integer in these units is not changed. -/
theorem eq_of_eq (h : RoundsAt x k m) {n : Nat} (hx : x * 2 ^ (-k) = n) : m = n := by
  have hnear := h.near
  rw [hx, abs_le] at hnear
  have hle : (m : ℚ) < n + 1 := by linarith [hnear.2]
  have hge : (n : ℚ) < m + 1 := by linarith [hnear.1]
  have hle' : m < n + 1 := by exact_mod_cast hle
  have hge' : n < m + 1 := by exact_mod_cast hge
  omega

/-- An integer in these units that the fraction is not below stays so. -/
theorem le_of_le (h : RoundsAt x k m) {n : Nat} (hx : (n : ℚ) ≤ x * 2 ^ (-k)) : n ≤ m := by
  have hnear := (abs_le.mp h.near).1
  have hlt : (n : ℚ) < m + 1 := by linarith
  exact Nat.le_of_lt_succ (by exact_mod_cast hlt)

theorem le_two_pow (h : RoundsAt x k m) : m ≤ 2 * fractionEnd := by
  have hx : x * 2 ^ (-k) < 2 ^ (53 : Int) := by
    calc x * 2 ^ (-k) < 2 ^ (k + 53) * 2 ^ (-k) :=
          mul_lt_mul_of_pos_right h.above (by positivity)
      _ = 2 ^ (53 : Int) := by
          rw [← zpow_add₀ two_ne_zero]
          congr 1
          ring
  have hnear := (abs_le.mp h.near).2
  have hend : ((2 * fractionEnd : Nat) : ℚ) = 2 ^ (53 : Int) := by norm_num [fractionEnd]
  have hlt : (m : ℚ) < (2 * fractionEnd : Nat) + 1 := by
    rw [hend]
    linarith
  exact Nat.le_of_lt_succ (by exact_mod_cast hlt)

theorem two_pow_le (h : RoundsAt x k m) (hk : -1074 < k) : fractionEnd ≤ m := by
  refine h.le_of_le ?_
  calc ((fractionEnd : Nat) : ℚ) = 2 ^ (k + 52) * 2 ^ (-k) := by
        rw [← zpow_add₀ two_ne_zero, add_neg_cancel_comm]
        norm_num [fractionEnd]
    _ ≤ x * 2 ^ (-k) := mul_le_mul_of_nonneg_right (h.below hk) (by positivity)

end RoundsAt

/-- A fraction with a sign. -/
def signed (negative : Bool) (q : ℚ) : ℚ := if negative then -q else q

theorem abs_signed_sub (negative : Bool) (q r : ℚ) :
    |signed negative q - signed negative r| = |q - r| := by
  cases negative with
  | false => rfl
  | true =>
      rw [signed, signed, if_pos rfl, if_pos rfl, neg_sub_neg, abs_sub_comm]

theorem abs_signed (negative : Bool) (q : ℚ) : |signed negative q| = |q| := by
  cases negative
  · rfl
  · exact abs_neg q

theorem toRat?_finite_eq (negative : Bool) (e : Fin 2047) (f : Fin fractionEnd) :
    (finite negative e f).toRat? =
      some (signed negative (significand e f * 2 ^ ((max e.val 1 : Nat) - 1075 : Int))) := by
  rw [toRat?_finite, zpow_sub₀ two_ne_zero, zpow_natCast]
  cases negative <;> simp [signedUnits, signed, units, neg_div, mul_div_assoc]

/-- The number with given parts is what they say, unless it is too large. -/
theorem toRat?_ofParts (negative : Bool) {m : Nat} {k : Int} (hm : m ≤ 2 * fractionEnd)
    (hk : -1074 ≤ k) (hfull : -1074 < k → fractionEnd ≤ m) :
    (ofParts negative m k = .infinite negative ∧ 971 ≤ k) ∨
      (ofParts negative m k).toRat? = some (signed negative (m * 2 ^ k)) := by
  unfold ofParts
  split
  · rename_i hsmall
    obtain rfl : k = -1074 := by
      by_contra hne
      exact absurd (hfull (by omega)) (by omega)
    refine Or.inr ?_
    rw [toRat?_finite_eq]
    simp [significand, Nat.mod_eq_of_lt hsmall]
  · rename_i hlarge
    dsimp only
    by_cases hcarried : m = 2 * fractionEnd
    · simp only [hcarried, if_true]
      split
      · rename_i hfield
        refine Or.inr ?_
        rw [toRat?_finite_eq]
        have hpos : (k + 1075 + 1).toNat ≠ 0 := by omega
        have hmax : ((max (k + 1075 + 1).toNat 1 : Nat) : Int) - 1075 = k + 1 := by omega
        have hzero : (Fin.ofNat fractionEnd 0).val = 0 := rfl
        simp only [significand, hpos, if_false, hmax, hzero]
        rw [zpow_add_one₀ two_ne_zero]
        congr 2
        push_cast
        ring
      · rename_i hfield
        exact Or.inl ⟨rfl, by omega⟩
    · simp only [hcarried, if_false]
      split
      · rename_i hfield
        refine Or.inr ?_
        rw [toRat?_finite_eq]
        have hpos : (k + 1075 + 0).toNat ≠ 0 := by omega
        have hmax : ((max (k + 1075 + 0).toNat 1 : Nat) : Int) - 1075 = k := by omega
        have hrest : (Fin.ofNat fractionEnd (m - fractionEnd)).val = m - fractionEnd :=
          Nat.mod_eq_of_lt (by omega)
        have hsum : fractionEnd + (m - fractionEnd) = m := by omega
        simp only [significand, hpos, if_false, hmax, hrest, hsum]
      · rename_i hfield
        exact Or.inl ⟨rfl, by omega⟩

theorem RoundsAt.toRat?_ofParts {x : ℚ} {k : Int} {m : Nat} (h : RoundsAt x k m)
    (negative : Bool) : (ofParts negative m k = .infinite negative ∧ 971 ≤ k) ∨
      (ofParts negative m k).toRat? = some (signed negative (m * 2 ^ k)) :=
  Binary64.toRat?_ofParts negative h.le_two_pow h.least h.two_pow_le

/-! ## Rounded quotients -/

theorem toRat?_zero (negative : Bool) : (zero negative).toRat? = some 0 := by
  rw [zero, toRat?_finite_eq]
  cases negative <;> simp [significand, signed]

/-- What is below a power of two is rounded to a finite number, by no more than the place of its
53rd bit allows. An integer of so many bits is not changed. -/
theorem exists_toRat?_nearest (negative : Bool) (num : Nat) {den : Nat} (hd : den ≠ 0) {j : Int}
    (hlow : -1021 ≤ j) (hhigh : j ≤ 52) (h : (num : ℚ) / den < 2 ^ j) :
    ∃ q, (nearest negative num den).toRat? = some (signed negative q) ∧
      |q - num / den| ≤ 2 ^ (j - 54) ∧ ∀ n : Nat, (num : ℚ) / den = n → q = n := by
  by_cases hn : num = 0
  · subst hn
    refine ⟨0, ?_, by simpa using by positivity, fun n hq => by simpa using hq⟩
    rw [nearest, if_pos rfl, toRat?_zero]
    cases negative <;> simp [signed]
  · obtain ⟨k, m, hrounds, heq⟩ := exists_nearest_eq negative hn hd
    have hk : k ≤ j - 53 := by
      rcases hrounds.least.eq_or_lt with hleast | hmore
      · omega
      · have hpow := (hrounds.below hmore).trans_lt h
        have := (zpow_lt_zpow_iff_right₀ (one_lt_two (α := ℚ))).mp hpow
        omega
    refine ⟨m * 2 ^ k, ?_, ?_, fun n hx => ?_⟩
    · rw [heq]
      exact (hrounds.toRat?_ofParts negative).resolve_left fun hinf => by omega
    · exact hrounds.abs_sub_le.trans (zpow_le_zpow_right₀ one_le_two (by omega))
    · obtain ⟨t, ht⟩ := Int.eq_ofNat_of_zero_le (show 0 ≤ -k by omega)
      obtain rfl : k = -t := by omega
      have hm : m = n * 2 ^ t := hrounds.eq_of_eq (by
        rw [hx, neg_neg, zpow_natCast]
        push_cast
        rfl)
      rw [hm, zpow_neg, zpow_natCast]
      push_cast
      field_simp

/-- What is not below a power of two is not rounded below it. -/
theorem two_zpow_le_of_nearest {negative : Bool} {num den : Nat} (hd : den ≠ 0) {j : Int}
    (hlow : -1021 ≤ j) (h : (2 : ℚ) ^ j ≤ num / den) {q : ℚ}
    (hq : (nearest negative num den).toRat? = some q) : 2 ^ j ≤ |q| := by
  have hn : num ≠ 0 := by
    rintro rfl
    rw [Nat.cast_zero, zero_div] at h
    exact absurd h (not_le.mpr (by positivity))
  obtain ⟨k, m, hrounds, heq⟩ := exists_nearest_eq negative hn hd
  have hk : j < k + 53 :=
    (zpow_lt_zpow_iff_right₀ (one_lt_two (α := ℚ))).mp (h.trans_lt hrounds.above)
  have hparts := hrounds.toRat?_ofParts negative
  rw [← heq, hq] at hparts
  have habs : |q| = m * 2 ^ k := by
    rcases hparts with ⟨hinf, -⟩ | hfinite
    · rw [hinf] at hq
      cases hq
    · rw [Option.some.inj hfinite, abs_signed, abs_of_nonneg (by positivity)]
  have hbits : fractionEnd ≤ m := hrounds.two_pow_le (by omega)
  have hbits' : (2 : ℚ) ^ (52 : Int) ≤ m := by
    have hend : ((fractionEnd : Nat) : ℚ) = 2 ^ (52 : Int) := by norm_num [fractionEnd]
    rw [← hend]
    exact_mod_cast hbits
  calc (2 : ℚ) ^ j ≤ 2 ^ (52 + k) := zpow_le_zpow_right₀ one_le_two (by omega)
    _ = 2 ^ (52 : Int) * 2 ^ k := zpow_add₀ two_ne_zero _ _
    _ ≤ m * 2 ^ k := mul_le_mul_of_nonneg_right hbits' (by positivity)
    _ = |q| := habs.symm

/-! ## Whole parts -/

/-- A fraction without its places after the point. -/
def wholePart (q : ℚ) : Int := if q < 0 then -⌊-q⌋ else ⌊q⌋

theorem wholePart_div (negative : Bool) (u p : Nat) :
    wholePart (((if negative then -(u : Int) else u : Int) : ℚ) / p) =
      if negative then -((u / p : Nat) : Int) else (u / p : Nat) := by
  have hfloor : ⌊(u : ℚ) / p⌋ = ((u / p : Nat) : Int) := Rat.floor_natCast_div_natCast u p
  have hpos : (0 : ℚ) ≤ u / p := by positivity
  cases negative with
  | false => simp [wholePart, not_lt.mpr hpos, hfloor]
  | true =>
      have hneg : ((if true then -(u : Int) else u : Int) : ℚ) / p = -(u / p) := by
        rw [if_pos rfl, Int.cast_neg, Int.cast_natCast, neg_div]
      rw [hneg, wholePart, neg_neg, if_pos rfl, ← hfloor]
      split
      · rfl
      · rename_i hzero
        have hnone : (u : ℚ) / p = 0 := by linarith
        rw [hnone]
        simp

/-- Places after the point are cut off above and below the line of a fraction. -/
theorem whole_eq (m a b : Nat) :
    (if 0 ≤ (a : Int) - b then m * twoTo ((a : Int) - b).toNat
      else m / twoTo (-((a : Int) - b)).toNat) = m * 2 ^ a / 2 ^ b := by
  have htwo (n : Nat) : twoTo n = 2 ^ n := rfl
  rw [htwo, htwo]
  split
  · rename_i hle
    obtain ⟨c, rfl⟩ := Nat.exists_eq_add_of_le (Int.ofNat_le.mp (Int.sub_nonneg.mp hle))
    have hc : (((b + c : Nat) : Int) - b).toNat = c := by omega
    rw [hc, Nat.pow_add, Nat.mul_left_comm, Nat.mul_div_cancel_left _ (Nat.two_pow_pos _)]
  · rename_i hlt
    obtain ⟨c, rfl⟩ := Nat.exists_eq_add_of_le (Nat.le_of_lt (by omega : a < b))
    have hc : (-((a : Int) - ((a + c : Nat) : Int))).toNat = c := by omega
    rw [hc, Nat.pow_add, Nat.mul_comm, Nat.mul_div_mul_left _ _ (Nat.two_pow_pos _)]

theorem truncate?_eq (x : Binary64) : x.truncate? = x.toRat?.map wholePart := by
  cases x with
  | notANumber => rfl
  | infinite negative => rfl
  | finite negative e f =>
      have hwhole := wholePart_div negative (units e f) (2 ^ 1075)
      rw [Nat.cast_pow, Nat.cast_ofNat] at hwhole
      rw [toRat?_finite, Option.map_some, signedUnits, hwhole, units,
        ← whole_eq (significand e f) (max e.val 1) 1075]
      rfl

end Binary64

end CommandShell
