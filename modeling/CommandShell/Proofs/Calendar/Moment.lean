import CommandShell.Calendar.Moment
import CommandShell.Proofs.Number.Nearest

/-!
# The second of a time in milliseconds

A time is divided by 1000 as a floating-point number, and its places after the point are
rounded to microseconds. For all times that are moments these errors stay below the
thousandth of a second that such a time is away from the next whole one. So the second is
the integer quotient (`split?_quotient`), on both sides of zero, and the times that are
moments are those whose second is in the range of the calendar (`ofMillis_cases`).
-/

namespace CommandShell

open Binary64 (signed wholePart)

theorem Binary64.wholePart_signed (negative : Bool) {q : ℚ} (h : 0 ≤ q) :
    wholePart (signed negative q) = if negative then -⌊q⌋ else ⌊q⌋ := by
  cases negative with
  | false => simp [wholePart, signed, not_lt.mpr h]
  | true =>
      rcases h.eq_or_lt with rfl | hpos
      · simp [wholePart, signed]
      · simp [wholePart, signed, hpos]

namespace Moment

/-! ## Microseconds -/

theorem natAbs_num_div_den (q : ℚ) : (q.num.natAbs : ℚ) / q.den = |q| := by
  conv_rhs => rw [← Rat.num_div_den q]
  rw [abs_div, Nat.abs_cast, ← Int.cast_natCast, Int.natCast_natAbs, Int.cast_abs]

theorem signed_abs (q : ℚ) : signed (decide (q < 0)) |q| = q := by
  by_cases h : q < 0
  · simp [signed, h, abs_of_neg h]
  · simp [signed, h, abs_of_nonneg (not_lt.mp h)]

theorem abs_roundHalfEven_sub_le (q : ℚ) : |(roundHalfEven q : ℚ) - q| ≤ 1 / 2 := by
  have hround := abs_roundDiv_sub_le q.num.natAbs q.den_pos
  rw [natAbs_num_div_den, ← Binary64.abs_signed_sub (decide (q < 0)), signed_abs] at hround
  have hsign : (roundHalfEven q : ℚ) =
      signed (decide (q < 0)) (roundDiv q.num.natAbs q.den : Nat) := by
    by_cases h : q < 0 <;> simp [roundHalfEven, signed, h]
  rwa [hsign]

/-- A number of microseconds is rounded to an integer less than one away. -/
theorem exists_rounded {y : ℚ} (h : |y| < 2 ^ (50 : Int)) :
    ∃ r, (Binary64.ofRat y).toRat? = some r ∧ |(roundHalfEven r : ℚ) - y| < 1 := by
  rw [← natAbs_num_div_den] at h
  obtain ⟨q, hq, hnear, -⟩ := Binary64.exists_toRat?_nearest (decide (y < 0)) y.num.natAbs
    y.den_nz (by omega) (by omega) h
  refine ⟨_, hq, ?_⟩
  rw [natAbs_num_div_den, ← Binary64.abs_signed_sub (decide (y < 0)), signed_abs] at hnear
  have hround := abs_roundHalfEven_sub_le (signed (decide (y < 0)) q)
  have hsum := abs_sub_le (roundHalfEven (signed (decide (y < 0)) q) : ℚ)
    (signed (decide (y < 0)) q) y
  norm_num at hnear
  linarith

/-! ## Times of which the second is told -/

/-- The milliseconds before the first time whose second is no longer certain. -/
def certainEnd : Nat := 2 ^ 38 * 1000

variable {millis : Int}

theorem exists_toRat?_quotient (h : millis.natAbs < certainEnd) :
    ∃ q, (quotient millis).toRat? = some (signed (decide (millis < 0)) q) ∧
      |q - millis.natAbs / 1000| ≤ 2 ^ (-16 : Int) ∧
      ∀ n : Nat, (millis.natAbs : ℚ) / 1000 = n → q = n := by
  have hbound : (millis.natAbs : ℚ) / (1000 : Nat) < 2 ^ (38 : Int) := by
    rw [div_lt_iff₀ (by norm_num)]
    have hcast : (millis.natAbs : ℚ) < certainEnd := Nat.cast_lt.mpr h
    norm_num [certainEnd] at hcast ⊢
    exact hcast
  have hnearest := Binary64.exists_toRat?_nearest (decide (millis < 0)) millis.natAbs
    (show 1000 ≠ 0 by decide) (by omega) (by omega) hbound
  rw [Nat.cast_ofNat] at hnearest
  exact hnearest

/-- The rounded number of seconds is whole, or well away from the whole numbers around it. -/
theorem seconds_cases {n : Nat} {q : ℚ} (hnear : |q - n / 1000| ≤ 2 ^ (-16 : Int))
    (hexact : ∀ m : Nat, (n : ℚ) / 1000 = m → q = m) :
    (n % 1000 = 0 ∧ q = (n / 1000 : Nat)) ∨
      (n % 1000 ≠ 0 ∧ 984 ≤ (q - (n / 1000 : Nat)) * 1000000 ∧
        (q - (n / 1000 : Nat)) * 1000000 ≤ 999016) := by
  have hn : (n : ℚ) = 1000 * (n / 1000 : Nat) + (n % 1000 : Nat) := by
    exact_mod_cast (Nat.div_add_mod n 1000).symm
  by_cases hrest : n % 1000 = 0
  · refine Or.inl ⟨hrest, hexact _ ?_⟩
    rw [hn, hrest]
    field_simp
    simp
  · refine Or.inr ⟨hrest, ?_⟩
    have hlow : (1 : ℚ) ≤ (n % 1000 : Nat) := by exact_mod_cast Nat.pos_of_ne_zero hrest
    have hhigh : ((n % 1000 : Nat) : ℚ) ≤ 999 := by
      exact_mod_cast Nat.le_of_lt_succ (Nat.mod_lt n (by decide))
    rw [abs_le] at hnear
    norm_num at hnear
    constructor <;> linarith

theorem split?_eq {x : Binary64} {q r : ℚ} (hq : x.toRat? = some q)
    (hr : (Binary64.ofRat ((q - wholePart q) * 1000000)).toRat? = some r) :
    split? x =
      some (wholePart q + roundHalfEven r / 1000000, (roundHalfEven r % 1000000).toNat) := by
  simp [split?, hq, Binary64.truncate?_eq, hr]

/-- What the rounded microseconds add to the whole seconds. -/
theorem carry_eq {negative : Bool} {y : ℚ} {z : Int} (hz : |(z : ℚ) - signed negative y| < 1)
    (hy : y = 0 ∨ 984 ≤ y ∧ y ≤ 999016) :
    z / 1000000 = if negative ∧ y ≠ 0 then -1 else 0 := by
  rw [abs_lt] at hz
  have hlow : -1 < (z : ℚ) - signed negative y := hz.1
  have hhigh : (z : ℚ) - signed negative y < 1 := hz.2
  rcases hy with rfl | ⟨hmin, hmax⟩
  · have hzero : signed negative 0 = 0 := by cases negative <;> simp [signed]
    rw [hzero, sub_zero] at hlow hhigh
    have : -1 < z := by exact_mod_cast hlow
    have : z < 1 := by exact_mod_cast hhigh
    obtain rfl : z = 0 := by omega
    simp
  · have hne : y ≠ 0 := by linarith
    cases negative with
    | false =>
        have hsigned : signed false y = y := rfl
        rw [hsigned] at hlow hhigh
        have : (0 : Int) < z := by
          have hcast : (0 : ℚ) < z := by linarith
          exact_mod_cast hcast
        have : z < 1000000 := by
          have hcast : (z : ℚ) < 1000000 := by linarith
          exact_mod_cast hcast
        simp
        omega
    | true =>
        have hsigned : signed true y = -y := rfl
        rw [hsigned] at hlow hhigh
        have : z < 0 := by
          have hcast : (z : ℚ) < 0 := by linarith
          exact_mod_cast hcast
        have : -1000000 < z := by
          have hcast : (-1000000 : ℚ) < z := by linarith
          exact_mod_cast hcast
        rw [if_pos ⟨rfl, hne⟩]
        omega

/-- **The second of a time** is its integer quotient, below zero as above. -/
theorem split?_quotient (h : millis.natAbs < certainEnd) :
    ∃ micros, split? (quotient millis) = some (millis / 1000, micros) := by
  obtain ⟨q, hq, hnear, hexact⟩ := exists_toRat?_quotient h
  have hcases := seconds_cases hnear hexact
  obtain ⟨s, hs⟩ : ∃ s, millis.natAbs / 1000 = s := ⟨_, rfl⟩
  obtain ⟨y, hy⟩ : ∃ y, (q - s) * 1000000 = y := ⟨_, rfl⟩
  rw [hs, hy] at hcases
  have hrange : y = 0 ∨ 984 ≤ y ∧ y ≤ 999016 :=
    hcases.imp (fun hwhole => by rw [← hy, hwhole.2]; ring) fun hrest => hrest.2
  have hrest : y ≠ 0 ↔ millis.natAbs % 1000 ≠ 0 := by
    rcases hcases with ⟨hzero, rfl⟩ | ⟨hrest, hmin, -⟩
    · simp [hzero, ← hy]
    · exact iff_of_true (by linarith) hrest
  have hfloor : ⌊q⌋ = (s : Int) := by
    rw [Int.floor_eq_iff, Int.cast_natCast]
    rcases hrange with hzero | ⟨hmin, hmax⟩ <;> constructor <;> linarith
  have hq0 : 0 ≤ q := by
    rw [← Int.floor_nonneg, hfloor]
    exact Int.natCast_nonneg s
  have hwhole := Binary64.wholePart_signed (decide (millis < 0)) hq0
  rw [hfloor] at hwhole
  have hfraction : (signed (decide (millis < 0)) q - wholePart (signed (decide (millis < 0)) q)) *
      1000000 = signed (decide (millis < 0)) y := by
    rw [hwhole, ← hy]
    cases decide (millis < 0) with
    | false => simp only [signed, Bool.false_eq_true, if_false, Int.cast_natCast]
    | true =>
        simp only [signed, if_true, Int.cast_neg, Int.cast_natCast]
        ring
  have hsmall : |signed (decide (millis < 0)) y| < 2 ^ (50 : Int) := by
    rw [Binary64.abs_signed, abs_lt]
    norm_num
    rcases hrange with hzero | ⟨hmin, hmax⟩ <;> constructor <;> linarith
  obtain ⟨r, hr, hz⟩ := exists_rounded hsmall
  rw [← hfraction] at hr
  refine ⟨_, (split?_eq hq hr).trans (congrArg some (Prod.ext ?_ rfl))⟩
  dsimp only
  rw [hwhole, carry_eq hz hrange]
  simp only [hrest]
  by_cases hneg : millis < 0 <;> by_cases hzero : millis.natAbs % 1000 = 0 <;>
    simp [hneg, hzero] <;> omega

/-! ## Times out of range -/

/-- The places after the point have the sign of the number. -/
theorem fraction_cases (q : ℚ) :
    (0 ≤ q ∧ wholePart q = ⌊q⌋ ∧ 0 ≤ q - wholePart q ∧ q - wholePart q < 1) ∨
      (q < 0 ∧ wholePart q = -⌊-q⌋ ∧ -1 < q - wholePart q ∧ q - wholePart q ≤ 0) := by
  rcases le_or_gt 0 q with hq | hq
  · have hwhole : wholePart q = ⌊q⌋ := if_neg (not_lt.mpr hq)
    rw [hwhole]
    exact Or.inl ⟨hq, rfl, Int.fract_nonneg q, Int.fract_lt_one q⟩
  · have hwhole : wholePart q = -⌊-q⌋ := if_pos hq
    have hlow := Int.floor_le (-q)
    have hhigh := Int.lt_floor_add_one (-q)
    rw [hwhole]
    push_cast
    exact Or.inr ⟨hq, rfl, by linarith, by linarith⟩

/-- A time too far from zero is no moment. -/
theorem not_in_range_of_split? (h : certainEnd ≤ millis.natAbs) {seconds : Int} {micros : Nat}
    (hsplit : split? (quotient millis) = some (seconds, micros)) :
    ¬(firstSecond ≤ seconds ∧ seconds ≤ lastSecond) := by
  cases hq : (quotient millis).toRat? with
  | none => simp [split?, hq] at hsplit
  | some q =>
      have hlarge : 274877906944 ≤ |q| := by
        have htime : (2 : ℚ) ^ (38 : Int) ≤ millis.natAbs / (1000 : Nat) := by
          rw [le_div_iff₀ (by norm_num)]
          have hcast : (certainEnd : ℚ) ≤ millis.natAbs := Nat.cast_le.mpr h
          norm_num [certainEnd] at hcast ⊢
          exact hcast
        have hpow := Binary64.two_zpow_le_of_nearest (by decide) (by omega) htime hq
        norm_num at hpow
        exact hpow
      have hsmall : |(q - wholePart q) * 1000000| < 2 ^ (50 : Int) := by
        rw [abs_lt]
        norm_num
        rcases fraction_cases q with ⟨-, -, hmin, hmax⟩ | ⟨-, -, hmin, hmax⟩ <;>
          constructor <;> linarith
      obtain ⟨r, hr, hz⟩ := exists_rounded hsmall
      rw [split?_eq hq hr] at hsplit
      obtain ⟨rfl, -⟩ := Prod.mk.inj (Option.some.inj hsplit)
      rw [abs_lt] at hz
      unfold firstSecond lastSecond
      rcases fraction_cases q with ⟨hq0, hwhole, hmin, -⟩ | ⟨hq0, hwhole, -, hmax⟩
      · rw [abs_of_nonneg hq0] at hlarge
        have hfloor : 274877906944 ≤ ⌊q⌋ := Int.le_floor.mpr (by exact_mod_cast hlarge)
        have hcast : (-1 : ℚ) < roundHalfEven r := by linarith [hz.1]
        have : -1 < roundHalfEven r := by exact_mod_cast hcast
        omega
      · rw [abs_of_neg hq0] at hlarge
        have hfloor : 274877906944 ≤ ⌊-q⌋ := Int.le_floor.mpr (by exact_mod_cast hlarge)
        have hcast : (roundHalfEven r : ℚ) < 1 := by linarith [hz.2]
        have : roundHalfEven r < 1 := by exact_mod_cast hcast
        omega

/-- **Which times are moments**, and that each is the moment of its second. -/
theorem ofMillis_cases (millis : Int) :
    (firstSecond ≤ millis / 1000 ∧ millis / 1000 ≤ lastSecond ∧
        ∃ micros, ofMillis millis = .ok (ofSeconds (millis / 1000) micros)) ∨
      (¬(firstSecond ≤ millis / 1000 ∧ millis / 1000 ≤ lastSecond) ∧
        ofMillis millis = .error (faultOf millis)) := by
  by_cases hcertain : millis.natAbs < certainEnd
  · obtain ⟨micros, hsplit⟩ := split?_quotient hcertain
    by_cases hrange : firstSecond ≤ millis / 1000 ∧ millis / 1000 ≤ lastSecond
    · refine Or.inl ⟨hrange.1, hrange.2, micros, ?_⟩
      simp [ofMillis, hsplit, hrange]
    · refine Or.inr ⟨hrange, ?_⟩
      simp only [ofMillis, hsplit, if_neg hrange]
  · refine Or.inr ⟨?_, ?_⟩
    · unfold firstSecond lastSecond
      unfold certainEnd at hcertain
      omega
    · cases hsplit : split? (quotient millis) with
      | none => simp only [ofMillis, hsplit]
      | some parts =>
          obtain ⟨seconds, micros⟩ := parts
          have hout := not_in_range_of_split? (not_lt.mp hcertain) hsplit
          simp only [ofMillis, hsplit, if_neg hout]

end Moment

end CommandShell
