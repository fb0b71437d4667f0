import CommandShell.Number.Shortest
import CommandShell.Proofs.Number.Binary64
import Mathlib.Algebra.Order.Field.Power
import Mathlib.Tactic.Linarith
import Mathlib.Tactic.NormNum

/-!
# The search for a shortest decimal number

The numbers that round to a given one lie between two ends, and the ends of different numbers
overlap in a single point at most, which does not count for both of them (`eq_of_holds`). The
decimal number that `shortest` finds lies between these ends (`holds_shortest`): the last grid
that is tried is finer than the distance of the number to its upper end, so that the search
does not run out.
-/

namespace CommandShell.Binary64

/-! ## The numbers around a number -/

/-- The fraction rounds to the number. -/
def Neighbourhood.Holds (n : Neighbourhood) (x : ℚ) : Prop :=
  if n.closed then (n.low : ℚ) ≤ x * n.denominator ∧ x * n.denominator ≤ n.high
  else (n.low : ℚ) < x * n.denominator ∧ x * n.denominator < n.high

theorem cast_tenTo (n : Nat) : ((tenTo n : Nat) : ℚ) = 10 ^ n := Nat.cast_pow 10 n

/-- A multiple of a power of ten is held against the ends on the side where the power is an
integer. -/
theorem Neighbourhood.holds_iff (n : Neighbourhood) (c : Nat) (p : Int) :
    n.holds c p = true ↔ n.Holds (c * 10 ^ p) := by
  obtain ⟨d, hd, x, hx, hholds⟩ : ∃ d : Nat, (0 : ℚ) < d ∧ ∃ x : Nat,
      (x : ℚ) = c * 10 ^ p * n.denominator * d ∧
      n.holds c p = if n.closed then decide (n.low * d ≤ x) && decide (x ≤ n.high * d)
        else decide (n.low * d < x) && decide (x < n.high * d) := by
    by_cases hp : 0 ≤ p
    · obtain ⟨k, rfl⟩ := Int.eq_ofNat_of_zero_le hp
      refine ⟨1, by norm_num, c * tenTo k * n.denominator, ?_, by simp [holds]⟩
      push_cast
      rw [cast_tenTo, zpow_natCast, mul_one]
    · obtain ⟨k, hk⟩ := Int.eq_ofNat_of_zero_le (show 0 ≤ -p by omega)
      obtain rfl : p = -k := by omega
      refine ⟨tenTo k, by rw [cast_tenTo]; positivity, c * n.denominator, ?_, by
        simp only [holds, hp, if_false, neg_neg, Int.toNat_natCast]⟩
      push_cast
      rw [cast_tenTo, zpow_neg, zpow_natCast]
      field_simp
  have hle (k : Nat) : k * d ≤ x ↔ (k : ℚ) ≤ c * 10 ^ p * n.denominator := by
    rw [← Nat.cast_le (α := ℚ), hx, Nat.cast_mul, mul_le_mul_iff_left₀ hd]
  have hge (k : Nat) : x ≤ k * d ↔ c * 10 ^ p * n.denominator ≤ (k : ℚ) := by
    rw [← Nat.cast_le (α := ℚ), hx, Nat.cast_mul, mul_le_mul_iff_left₀ hd]
  rw [hholds, Holds]
  cases n.closed with
  | true => simp [hle, hge]
  | false => simp [← not_le, hle, hge]

/-! ## The ends around different numbers -/

/-- How far the lower end is below the number, in quarters of the place of its last bit. -/
def lowerGap (exponent : Fin 2047) (fraction : Fin fractionEnd) : Nat :=
  if fraction.val = 0 ∧ 1 < exponent.val then 1 else 2

/-- The upper end of the smaller of two numbers is not above the lower end of the greater one, and
below it where the ends count for both. -/
theorem upper_le_lower {e e' : Fin 2047} {f f' : Fin fractionEnd} (h : units e f < units e' f') :
    (4 * significand e f + 2) * 2 ^ max e.val 1 ≤
        (4 * significand e' f' - lowerGap e' f') * 2 ^ max e'.val 1 ∧
      (significand e f % 2 = 0 → significand e' f' % 2 = 0 →
        (4 * significand e f + 2) * 2 ^ max e.val 1 <
          (4 * significand e' f' - lowerGap e' f') * 2 ^ max e'.val 1) := by
  have hgap : lowerGap e' f' ≤ 2 := by
    unfold lowerGap
    split <;> omega
  have hpow := Nat.two_pow_pos (max e.val 1)
  rcases Nat.lt_trichotomy (max e.val 1) (max e'.val 1) with hlt | heq | hgt
  · -- all bits of the greater number are there
    obtain ⟨d, hd⟩ := Nat.exists_eq_add_of_lt hlt
    have hbits : fractionEnd ≤ significand e' f' := by
      rw [significand, if_neg (by omega)]
      exact Nat.le_add_right _ _
    have hlow : 4 * fractionEnd - 1 ≤ 4 * significand e' f' - lowerGap e' f' := by
      by_cases hzero : f'.val = 0
      · have hone : lowerGap e' f' = 1 := if_pos ⟨hzero, by omega⟩
        omega
      · rw [significand, if_neg (by omega)] at hbits ⊢
        omega
    have hstep : (4 * fractionEnd - 1) * 2 * 2 ^ max e.val 1 ≤
        (4 * significand e' f' - lowerGap e' f') * 2 ^ max e'.val 1 := by
      rw [hd, Nat.pow_succ, Nat.pow_add, Nat.mul_assoc]
      refine Nat.mul_le_mul hlow ?_
      have := Nat.le_mul_of_pos_right (2 ^ max e.val 1) (Nat.two_pow_pos d)
      omega
    have hhigh := significand_lt e f
    refine ⟨(Nat.mul_le_mul_right _ (by omega)).trans hstep, fun heven _ => ?_⟩
    exact (Nat.mul_lt_mul_of_pos_right (by omega) hpow).trans_le hstep
  · rw [heq] at hpow ⊢
    have hless : significand e f < significand e' f' := by
      unfold units at h
      rw [heq] at h
      exact Nat.lt_of_mul_lt_mul_right h
    refine ⟨Nat.mul_le_mul_right _ (by omega), fun heven heven' => ?_⟩
    exact Nat.mul_lt_mul_of_pos_right (by omega) hpow
  · exact absurd h (Nat.lt_asymm (units_lt hgt f' f))

/-- The number and its ends have a common denominator. -/
theorem exists_neighbourhood_eq (e : Fin 2047) (f : Fin fractionEnd) :
    ∃ up d : Nat, (0 : ℚ) < d ∧ (up : ℚ) = 2 ^ (scale e - 2) * d ∧
      neighbourhood e f = ⟨4 * significand e f * up, (4 * significand e f - lowerGap e f) * up,
        (4 * significand e f + 2) * up, d, significand e f % 2 = 0⟩ := by
  by_cases hk : 0 ≤ scale e - 2
  · obtain ⟨k, hk'⟩ := Int.eq_ofNat_of_zero_le hk
    refine ⟨twoTo k, 1, by norm_num, ?_, by simp [neighbourhood, lowerGap, hk']⟩
    rw [cast_twoTo, hk', zpow_natCast, Nat.cast_one, mul_one]
  · obtain ⟨k, hk'⟩ := Int.eq_ofNat_of_zero_le (show 0 ≤ -(scale e - 2) by omega)
    refine ⟨1, twoTo k, by rw [cast_twoTo]; positivity, ?_, ?_⟩
    · rw [cast_twoTo, show scale e - 2 = -k by omega, zpow_neg, zpow_natCast]
      field_simp
      simp
    · simp only [neighbourhood, lowerGap, hk, if_false, hk', Int.toNat_natCast]

/-- The ends of a number in powers of two. -/
theorem holds_neighbourhood_iff (e : Fin 2047) (f : Fin fractionEnd) (x : ℚ) :
    (neighbourhood e f).Holds x ↔
      if significand e f % 2 = 0 then
        ((4 * significand e f - lowerGap e f : Nat) : ℚ) * 2 ^ (scale e - 2) ≤ x ∧
          x ≤ (4 * significand e f + 2 : Nat) * 2 ^ (scale e - 2)
      else
        ((4 * significand e f - lowerGap e f : Nat) : ℚ) * 2 ^ (scale e - 2) < x ∧
          x < (4 * significand e f + 2 : Nat) * 2 ^ (scale e - 2) := by
  obtain ⟨up, d, hd, hup, hn⟩ := exists_neighbourhood_eq e f
  have hle (m : Nat) : ((m * up : Nat) : ℚ) ≤ x * d ↔ (m : ℚ) * 2 ^ (scale e - 2) ≤ x := by
    rw [Nat.cast_mul, hup, ← mul_assoc, mul_le_mul_iff_left₀ hd]
  have hge (m : Nat) : x * d ≤ ((m * up : Nat) : ℚ) ↔ x ≤ (m : ℚ) * 2 ^ (scale e - 2) := by
    rw [Nat.cast_mul, hup, ← mul_assoc, mul_le_mul_iff_left₀ hd]
  simp only [hn, Neighbourhood.Holds, decide_eq_true_eq, ← not_le, hle, hge]

/-- **A fraction rounds to one number only.** -/
theorem eq_of_holds {e e' : Fin 2047} {f f' : Fin fractionEnd} {x : ℚ}
    (h : (neighbourhood e f).Holds x) (h' : (neighbourhood e' f').Holds x) : e = e' ∧ f = f' := by
  have hscale (e : Fin 2047) (m : Nat) :
      (m : ℚ) * 2 ^ (scale e - 2) = (m * 2 ^ max e.val 1 : Nat) * 2 ^ (-1077 : Int) := by
    rw [show scale e - 2 = (max e.val 1 : Nat) + (-1077) by unfold scale; ring,
      zpow_add₀ two_ne_zero, zpow_natCast, Nat.cast_mul, Nat.cast_pow, Nat.cast_ofNat, mul_assoc]
  -- the smaller of two different numbers lies below the greater one with all that rounds to it
  have hfalse {e e' : Fin 2047} {f f' : Fin fractionEnd} (h : (neighbourhood e f).Holds x)
      (h' : (neighbourhood e' f').Holds x) (hlt : units e f < units e' f') : False := by
    obtain ⟨hle, heven⟩ := upper_le_lower hlt
    rw [holds_neighbourhood_iff, hscale, hscale] at h h'
    have hpos : (0 : ℚ) < 2 ^ (-1077 : Int) := by positivity
    obtain ⟨u, hu⟩ : ∃ u : ℚ, 2 ^ (-1077 : Int) = u := ⟨_, rfl⟩
    rw [hu] at h h' hpos
    have hle' := mul_le_mul_of_nonneg_right (Nat.cast_le (α := ℚ).mpr hle) hpos.le
    split at h <;> split at h'
    · rename_i hm hm'
      have hlt' := mul_lt_mul_of_pos_right (Nat.cast_lt (α := ℚ).mpr (heven hm hm')) hpos
      linarith [h.2, h'.1]
    all_goals linarith [h.2, h'.1]
  rw [← units_inj]
  rcases Nat.lt_trichotomy (units e f) (units e' f') with hlt | heq | hgt
  · exact (hfalse h h' hlt).elim
  · exact heq
  · exact (hfalse h' h hgt).elim

/-! ## The search for a shortest decimal number -/

theorem roundDiv_cases (num den : Nat) :
    roundDiv num den = num / den ∨ roundDiv num den = num / den + 1 := by
  unfold roundDiv
  dsimp only
  split
  · exact Or.inr rfl
  · exact Or.inl rfl

theorem Neighbourhood.holds_of_onGrid? {n : Neighbourhood} {p : Int} {c : Nat}
    (h : n.onGrid? p = some c) : n.holds c p = true := by
  unfold onGrid? at h
  dsimp only at h
  split at h
  · rename_i hlow hhigh
    obtain rfl := Option.some.inj h
    rcases roundDiv_cases (if 0 ≤ p then n.value else n.value * tenTo (-p).toNat)
      (if 0 ≤ p then n.denominator * tenTo p.toNat else n.denominator) with heq | heq
    · rwa [heq]
    · rwa [heq]
  · rename_i hlow _
    obtain rfl := Option.some.inj h
    exact hlow
  · rename_i _ hhigh
    obtain rfl := Option.some.inj h
    exact hhigh
  · cases h

/-- The number in units of a power of ten, as the quotient of two integers. -/
theorem exists_quotient (e : Fin 2047) (f : Fin fractionEnd) (p : Int) :
    ∃ num den : Nat, (0 : ℚ) < den ∧
      (num : ℚ) * 10 ^ p = (4 * significand e f : Nat) * 2 ^ (scale e - 2) * den ∧
      (neighbourhood e f).onGrid? p =
        match (neighbourhood e f).holds (num / den) p,
            (neighbourhood e f).holds (num / den + 1) p with
        | true, true => some (roundDiv num den)
        | true, false => some (num / den)
        | false, true => some (num / den + 1)
        | false, false => none := by
  obtain ⟨up, d, hd, hup, hn⟩ := exists_neighbourhood_eq e f
  refine ⟨_, _, ?_, ?_, rfl⟩
  · rw [hn]
    dsimp only
    split
    · push_cast
      rw [cast_tenTo]
      positivity
    · exact hd
  · rw [hn]
    dsimp only
    split
    · rename_i hp
      obtain ⟨k, rfl⟩ := Int.eq_ofNat_of_zero_le hp
      push_cast
      rw [hup, Int.toNat_natCast, cast_tenTo, zpow_natCast]
      ring
    · rename_i hp
      obtain ⟨k, hk⟩ := Int.eq_ofNat_of_zero_le (show 0 ≤ -p by omega)
      obtain rfl : p = -k := by omega
      rw [neg_neg, Int.toNat_natCast]
      push_cast
      rw [hup, cast_tenTo, zpow_neg, zpow_natCast]
      field_simp

/-- The number is found on a grid that is finer than the distance to the upper end. -/
theorem exists_onGrid? {e : Fin 2047} {f : Fin fractionEnd} {p : Int}
    (hp : (10 : ℚ) ^ p < 2 ^ (scale e - 1)) : ∃ c, (neighbourhood e f).onGrid? p = some c := by
  obtain ⟨num, den, hden, hquot, hgrid⟩ := exists_quotient e f p
  have hnext : (neighbourhood e f).holds (num / den + 1) p = true := by
    have hden' : 0 < den := by exact_mod_cast hden
    have hten : (0 : ℚ) < 10 ^ p := by positivity
    have hunit : (0 : ℚ) < 2 ^ (scale e - 2) := by positivity
    have hgap : (2 : ℚ) ^ (scale e - 1) = 2 * 2 ^ (scale e - 2) := by
      rw [show scale e - 1 = 1 + (scale e - 2) by ring, zpow_add₀ two_ne_zero, zpow_one]
    have habove : ((4 * significand e f : Nat) : ℚ) * 2 ^ (scale e - 2) <
        (num / den + 1 : Nat) * 10 ^ p := by
      have hlt : (num : ℚ) < (num / den + 1 : Nat) * den := by
        exact_mod_cast Nat.lt_mul_of_div_lt (Nat.lt_succ_self _) hden'
      rw [← mul_lt_mul_iff_left₀ hden, ← hquot, mul_right_comm]
      exact mul_lt_mul_of_pos_right hlt hten
    have hbelow : ((num / den : Nat) : ℚ) * 10 ^ p ≤
        (4 * significand e f : Nat) * 2 ^ (scale e - 2) := by
      have hle : ((num / den : Nat) : ℚ) * den ≤ num := by
        exact_mod_cast Nat.div_mul_le_self num den
      rw [← mul_le_mul_iff_left₀ hden, ← hquot, mul_right_comm]
      exact mul_le_mul_of_nonneg_right hle hten.le
    have hlow : ((4 * significand e f - lowerGap e f : Nat) : ℚ) * 2 ^ (scale e - 2) ≤
        (4 * significand e f : Nat) * 2 ^ (scale e - 2) :=
      mul_le_mul_of_nonneg_right (Nat.cast_le.mpr (Nat.sub_le _ _)) hunit.le
    rw [hgap] at hp
    rw [Neighbourhood.holds_iff, holds_neighbourhood_iff]
    push_cast at *
    split
    · constructor <;> linarith
    · constructor <;> linarith
  rw [hgrid, hnext]
  cases (neighbourhood e f).holds (num / den) p with
  | true => exact ⟨_, rfl⟩
  | false => exact ⟨_, rfl⟩

theorem Neighbourhood.holds_coarsest {n : Neighbourhood} {tries : Nat} {p : Int} {c : Nat}
    (h : n.onGrid? (p - tries) = some c) :
    n.holds (n.coarsest (tries + 1) p).1 (n.coarsest (tries + 1) p).2 = true := by
  induction tries generalizing p with
  | zero =>
      rw [Nat.cast_zero, sub_zero] at h
      rw [coarsest, h]
      exact holds_of_onGrid? h
  | succ tries ih =>
      rw [coarsest]
      cases hgrid : n.onGrid? p with
      | some d => exact holds_of_onGrid? hgrid
      | none =>
          refine ih ?_
          rw [← h]
          congr 1
          push_cast
          ring

/-- Powers of ten and of two are held against each other with `10 ^ 3 ≤ 2 ^ 10` above one and with
`2 ^ 93 ≤ 10 ^ 28` below it. -/
theorem ten_zpow_lt_two_zpow {p j : Int} (hpos : 0 ≤ p → 10 * p < 3 * j)
    (hneg : p < 0 → 93 * p < 28 * j) : (10 : ℚ) ^ p < 2 ^ j := by
  have hpow (a : ℚ) (n : Nat) : (a ^ p) ^ n = (a ^ n) ^ p := by
    rw [← zpow_natCast, ← zpow_natCast, ← zpow_mul, ← zpow_mul, mul_comm]
  have hpow' (n : Nat) (i : Int) : ((2 : ℚ) ^ n) ^ i = 2 ^ (n * i) := by
    rw [← zpow_natCast, ← zpow_mul]
  have hpow'' (n : Nat) : ((2 : ℚ) ^ j) ^ n = 2 ^ (n * j) := by
    rw [← zpow_natCast, ← zpow_mul, mul_comm]
  rcases le_or_gt 0 p with hp | hp
  · refine lt_of_pow_lt_pow_left₀ 3 (by positivity) ?_
    calc ((10 : ℚ) ^ p) ^ 3 = (10 ^ 3) ^ p := hpow 10 3
      _ ≤ (2 ^ 10) ^ p := zpow_le_zpow_left₀ hp (by norm_num) (by norm_num)
      _ = 2 ^ (10 * p) := hpow' 10 p
      _ < 2 ^ (3 * j) := zpow_lt_zpow_right₀ one_lt_two (hpos hp)
      _ = (2 ^ j) ^ 3 := (hpow'' 3).symm
  · refine lt_of_pow_lt_pow_left₀ 28 (by positivity) ?_
    calc ((10 : ℚ) ^ p) ^ 28 = (10 ^ 28) ^ p := hpow 10 28
      _ ≤ (2 ^ 93) ^ p := by
          rw [← inv_le_inv₀ (by positivity) (by positivity), ← zpow_neg, ← zpow_neg]
          exact zpow_le_zpow_left₀ (by omega) (by norm_num) (by norm_num)
      _ = 2 ^ (93 * p) := hpow' 93 p
      _ < 2 ^ (28 * j) := zpow_lt_zpow_right₀ one_lt_two (hneg hp)
      _ = (2 ^ j) ^ 28 := (hpow'' 28).symm

/-- **What `shortest` finds rounds to the number.** -/
theorem holds_shortest {e : Fin 2047} {f : Fin fractionEnd} (hm : significand e f ≠ 0) :
    (neighbourhood e f).holds (shortest e f).1 (shortest e f).2 = true := by
  have hbits : (significand e f).log2 ≤ 52 := by
    have hlt := significand_lt e f
    rw [← Nat.lt_succ_iff, Nat.log2_lt hm]
    exact hlt
  have hscale : -1074 ≤ scale e ∧ scale e ≤ 971 := by
    have := e.isLt
    unfold scale
    omega
  obtain ⟨b, hb⟩ : ∃ b, ((significand e f).log2 + scale e) * 30103 / 100000 = b := ⟨_, rfl⟩
  have hfine : (10 : ℚ) ^ (b + 2 - 20) < 2 ^ (scale e - 1) :=
    ten_zpow_lt_two_zpow (by omega) (by omega)
  obtain ⟨c, hc⟩ := exists_onGrid? hfine
  unfold shortest
  dsimp only
  rw [Int.fdiv_eq_ediv_of_nonneg _ (by decide), hb]
  exact Neighbourhood.holds_coarsest hc

end CommandShell.Binary64
