import CommandShell.Calendar.Date
import Mathlib.Tactic.Linarith

/-!
# The Gregorian calendar

Days and dates correspond: `toDays` and `ofDays` are inverse to each other on the dates that
the calendar has (`toDays_ofDays`, `ofDays_toDays`), and the date of the day after is the next
date by the lengths of the months (`ofDays_succ`). A day within an era is taken apart into
centuries, four-year cycles, years and the day of the year (`EraDay`), all counted from
March; the last day of a year is there only in leap years.
-/

namespace CommandShell.Date

/-! ## Dates of the calendar -/

/-- The date is in the calendar. -/
structure Valid (d : Date) : Prop where
  month_pos : 1 ≤ d.month
  month_le : d.month ≤ 12
  day_pos : 1 ≤ d.day
  day_le : d.day ≤ daysInMonth d.year d.month

/-- The date of the day after. -/
def next (d : Date) : Date :=
  if d.day < daysInMonth d.year d.month then { d with day := d.day + 1 }
  else if d.month < 12 then ⟨d.year, d.month + 1, 1⟩
  else ⟨d.year + 1, 1, 1⟩

theorem isLeap_iff (year : Int) :
    isLeap year = true ↔ year % 4 = 0 ∧ (year % 100 ≠ 0 ∨ year % 400 = 0) := by
  simp [isLeap]

/-- The lengths of the months; the second has a day more in leap years. -/
theorem daysInMonth_cases (year : Int) {month : Nat} (h : 1 ≤ month) (h' : month ≤ 12) :
    (month = 2 ∧ isLeap year = true ∧ daysInMonth year month = 29) ∨
      (month = 2 ∧ isLeap year = false ∧ daysInMonth year month = 28) ∨
      ((month = 4 ∨ month = 6 ∨ month = 9 ∨ month = 11) ∧ daysInMonth year month = 30) ∨
      ((month = 1 ∨ month = 3 ∨ month = 5 ∨ month = 7 ∨ month = 8 ∨ month = 10 ∨ month = 12) ∧
        daysInMonth year month = 31) := by
  unfold daysInMonth
  cases isLeap year <;> grind

theorem Valid.day_le_31 {d : Date} (h : d.Valid) : d.day ≤ 31 := by
  have hlength := daysInMonth_cases d.year h.month_pos h.month_le
  have hday := h.day_le
  omega

/-! ## Years that begin in March -/

/-- The days before a year that begins in March. -/
def marchDays (year : Int) : Int := year / 400 * eraDays + daysBeforeYear (year % 400)

theorem marchDays_eq (year : Int) :
    marchDays year = 365 * year + year / 4 - year / 100 + year / 400 := by
  unfold marchDays eraDays daysBeforeYear
  omega

theorem marchDays_succ (year : Int) :
    marchDays (year + 1) = marchDays year + if isLeap (year + 1) then 366 else 365 := by
  rw [marchDays_eq, marchDays_eq]
  have hleap := isLeap_iff (year + 1)
  split
  · rename_i h
    rw [hleap] at h
    omega
  · rename_i h
    rw [hleap] at h
    omega

/-- The days before a date, in a year that begins in March. -/
theorem toDays_eq (d : Date) :
    d.toDays = (if d.month ≤ 2 then marchDays (d.year - 1) + daysBeforeMonth (d.month + 9)
      else marchDays d.year + daysBeforeMonth (d.month - 3)) + (d.day - 1) - epochDays := by
  unfold toDays marchDays
  by_cases h : d.month ≤ 2 <;> simp [h]

/-! ## The next date -/

theorem valid_next {d : Date} (h : d.Valid) : d.next.Valid := by
  obtain ⟨hmonth, hmonth', hday, hday'⟩ := h
  unfold next
  split
  · exact ⟨hmonth, hmonth', by simp, by simpa⟩
  · split
    · refine ⟨by simp, by simp; omega, by simp, ?_⟩
      have hlength := daysInMonth_cases d.year (show 1 ≤ d.month + 1 by omega) (by omega)
      simp
      omega
    · exact ⟨by simp, by simp, by simp, by simp [daysInMonth]⟩

theorem toDays_next {d : Date} (h : d.Valid) : d.next.toDays = d.toDays + 1 := by
  obtain ⟨hmonth, hmonth', hday, hday'⟩ := h
  have hlength := daysInMonth_cases d.year hmonth hmonth'
  have hyear := marchDays_succ (d.year - 1)
  rw [sub_add_cancel] at hyear
  rw [toDays_eq, toDays_eq]
  unfold next daysBeforeMonth
  split
  · simp
    omega
  · split
    · dsimp only
      split at hyear <;> split <;> split <;> push_cast <;> grind
    · dsimp only
      grind

/-! ## Days of an era -/

/-- A day of an era by its century, its cycle of four years, the year within that, and the day of
the year. -/
structure EraDay (c q r d : Int) : Prop where
  century : 0 ≤ c ∧ c ≤ 3
  cycle : 0 ≤ q ∧ q ≤ 24
  year : 0 ≤ r ∧ r ≤ 3
  day : 0 ≤ d ∧ d ≤ 365
  leap : d = 365 → r = 3 ∧ (q = 24 → c = 3)

theorem exists_eraDay {n : Int} (h : 0 ≤ n) (h' : n < eraDays) :
    ∃ c q r d, EraDay c q r d ∧ n = 36524 * c + 1461 * q + 365 * r + d := by
  unfold eraDays at h'
  obtain ⟨c, k, hc, hk, rfl⟩ : ∃ c k, (0 ≤ c ∧ c ≤ 3) ∧ (0 ≤ k ∧ k ≤ 36524 ∧ (k = 36524 → c = 3)) ∧
      n = 36524 * c + k := by
    refine ⟨min 3 (n / 36524), n - 36524 * min 3 (n / 36524), ?_, ?_, ?_⟩ <;> omega
  obtain ⟨q, l, hq, hl, rfl⟩ : ∃ q l, (0 ≤ q ∧ q ≤ 24) ∧ (0 ≤ l ∧ l ≤ 1460) ∧ k = 1461 * q + l :=
    ⟨k / 1461, k % 1461, by omega, by omega, by omega⟩
  obtain ⟨r, d, hr, hd, rfl⟩ : ∃ r d, (0 ≤ r ∧ r ≤ 3) ∧ (0 ≤ d ∧ d ≤ 365 ∧ (d = 365 → r = 3)) ∧
      l = 365 * r + d := by
    refine ⟨min 3 (l / 365), l - 365 * min 3 (l / 365), ?_, ?_, ?_⟩ <;> omega
  exact ⟨c, q, r, d, ⟨hc, hq, hr, ⟨hd.1, hd.2.1⟩, by omega⟩, by omega⟩

/-- The quotients count the leap days, so that what is left is a number of full years. -/
theorem yearOfEra_eq {c q r d : Int} (h : EraDay c q r d) :
    yearOfEra (36524 * c + 1461 * q + 365 * r + d) = 100 * c + 4 * q + r := by
  obtain ⟨⟨hc, hc'⟩, ⟨hq, hq'⟩, ⟨hr, hr'⟩, ⟨hd, hd'⟩, hleap⟩ := h
  obtain ⟨n, hn⟩ : ∃ n, 36524 * c + 1461 * q + 365 * r + d = n := ⟨_, rfl⟩
  obtain ⟨k, hk⟩ : ∃ k, (24 * c + q + 365 * r + d) / 1460 = k := ⟨_, rfl⟩
  have hcycle : n / 1460 = 25 * c + q + k := by omega
  -- the last day of an era counts as one of a fifth century
  have hcentury : n / 36524 - n / 146096 = c := by
    by_cases hlast : d = 365 ∧ q = 24
    · obtain ⟨rfl, rfl⟩ := hlast
      obtain ⟨rfl, hc3⟩ := hleap rfl
      obtain rfl := hc3 rfl
      omega
    · have hrest : 0 ≤ 1461 * q + 365 * r + d ∧ 1461 * q + 365 * r + d < 36524 := by omega
      have hquot : n / 36524 = c := by omega
      have hnone : n / 146096 = 0 := by omega
      omega
  have hyears : k ≤ d ∧ d ≤ 364 + k := by
    clear hn hcycle hcentury
    omega
  have hnum : n - n / 1460 + n / 36524 - n / 146096 = 365 * (100 * c + 4 * q + r) + (d - k) := by
    linarith
  rw [hn, yearOfEra, hnum]
  clear hn hk hcycle hcentury hnum
  omega

theorem marchDays_era {c q r d : Int} (h : EraDay c q r d) (era : Int) :
    marchDays (400 * era + (100 * c + 4 * q + r)) =
      eraDays * era + (36524 * c + 1461 * q + 365 * r) := by
  obtain ⟨hc, hq, hr, -, -⟩ := h
  rw [marchDays_eq]
  unfold eraDays
  omega

/-! ## Dates from days -/

/-- The date of a day in a year that begins in March. -/
def ofMarch (year day : Int) : Date :=
  let month := (5 * day + 2) / 153
  { year := year + if 10 ≤ month then 1 else 0
    month := (if 10 ≤ month then month - 9 else month + 3).toNat
    day := (day - daysBeforeMonth month + 1).toNat }

/-- The day exists: the last one only before the end of a February with a leap day. -/
def IsMarchDay (year day : Int) : Prop :=
  0 ≤ day ∧ day ≤ 365 ∧ (day = 365 → isLeap (year + 1) = true)

theorem ofDays_eq (n : Int) :
    ∃ year day, IsMarchDay year day ∧ ofDays n = ofMarch year day ∧
      n + epochDays = marchDays year + day := by
  have hpos : 0 < eraDays := by decide
  obtain ⟨c, q, r, d, h, hday⟩ :=
    exists_eraDay (Int.emod_nonneg (n + epochDays) hpos.ne')
      (Int.emod_lt_of_pos (n + epochDays) hpos)
  have hyear : yearOfEra ((n + epochDays) % eraDays) = 100 * c + 4 * q + r :=
    hday ▸ yearOfEra_eq h
  have hrest : (n + epochDays) % eraDays - daysBeforeYear (100 * c + 4 * q + r) = d := by
    obtain ⟨hc, hq, hr, -, -⟩ := h
    unfold daysBeforeYear
    omega
  refine ⟨(n + epochDays) / eraDays * 400 + (100 * c + 4 * q + r), d, ⟨h.day.1, h.day.2, ?_⟩,
    ?_, ?_⟩
  · obtain ⟨hc, hq, hr, hd, hleap⟩ := h
    rw [isLeap_iff]
    omega
  · simp only [ofDays, ofMarch, hyear, hrest]
  · rw [mul_comm _ 400, marchDays_era h]
    have := Int.mul_ediv_add_emod (n + epochDays) eraDays
    omega

theorem toDays_ofMarch {year day : Int} (h : IsMarchDay year day) :
    (ofMarch year day).toDays = marchDays year + day - epochDays := by
  obtain ⟨hlow, hhigh, -⟩ := h
  rw [toDays_eq]
  unfold ofMarch daysBeforeMonth
  dsimp only
  split
  · rw [if_pos (by omega), add_sub_cancel_right]
    omega
  · rw [if_neg (by omega), add_zero]
    omega

theorem valid_ofMarch {year day : Int} (h : IsMarchDay year day) : (ofMarch year day).Valid := by
  obtain ⟨hlow, hhigh, hleap⟩ := h
  have hmonth : 1 ≤ (ofMarch year day).month ∧ (ofMarch year day).month ≤ 12 := by
    unfold ofMarch
    dsimp only
    omega
  have hlength := daysInMonth_cases (ofMarch year day).year hmonth.1 hmonth.2
  refine ⟨hmonth.1, hmonth.2, ?_, ?_⟩
  · unfold ofMarch daysBeforeMonth
    dsimp only
    omega
  · rcases hlength with ⟨hm, hleap', hl⟩ | ⟨hm, hshort, hl⟩ | ⟨hm, hl⟩ | ⟨hm, hl⟩ <;> rw [hl]
    case inr.inl =>
      have hyear : (ofMarch year day).year = year + 1 := by
        unfold ofMarch at hm ⊢
        dsimp only at hm ⊢
        omega
      have hday : day ≠ 365 := by
        intro hlast
        rw [hyear, hleap hlast] at hshort
        cases hshort
      unfold ofMarch daysBeforeMonth at *
      dsimp only at *
      omega
    all_goals
      clear hl hmonth
      unfold ofMarch daysBeforeMonth at *
      dsimp only at *
      omega

/-- **The date of a day has the day's number again.** -/
theorem toDays_ofDays (n : Int) : (ofDays n).toDays = n := by
  obtain ⟨year, day, hday, hdate, hdays⟩ := ofDays_eq n
  rw [hdate, toDays_ofMarch hday]
  omega

/-- **Every day has a date of the calendar.** -/
theorem valid_ofDays (n : Int) : (ofDays n).Valid := by
  obtain ⟨year, day, hday, hdate, -⟩ := ofDays_eq n
  rw [hdate]
  exact valid_ofMarch hday

/-! ## Days from dates -/

theorem marchDays_mono {y y' : Int} (h : y < y') : marchDays (y + 1) ≤ marchDays y' := by
  rw [marchDays_eq, marchDays_eq]
  omega

/-- A day is in one year only. -/
theorem march_inj {y y' d d' : Int} (h : IsMarchDay y d) (h' : IsMarchDay y' d')
    (heq : marchDays y + d = marchDays y' + d') : y = y' ∧ d = d' := by
  have hyear := marchDays_succ y
  have hyear' := marchDays_succ y'
  obtain ⟨hlow, hhigh, hleap⟩ := h
  obtain ⟨hlow', hhigh', hleap'⟩ := h'
  rcases lt_trichotomy y y' with hlt | rfl | hlt
  · have hmono := marchDays_mono hlt
    split at hyear <;> grind
  · omega
  · have hmono := marchDays_mono hlt
    split at hyear' <;> grind

/-- The month of a day is told by the days before it. -/
theorem ofMarch_eq {year month day : Int} (hd : 1 ≤ day)
    (hd' : daysBeforeMonth month + day ≤ daysBeforeMonth (month + 1)) :
    ofMarch year (daysBeforeMonth month + (day - 1)) =
      ⟨year + if 10 ≤ month then 1 else 0, (if 10 ≤ month then month - 9 else month + 3).toNat,
        day.toNat⟩ := by
  have hmonth : (5 * (daysBeforeMonth month + (day - 1)) + 2) / 153 = month := by
    unfold daysBeforeMonth at *
    omega
  have hday : daysBeforeMonth month + (day - 1) - daysBeforeMonth month + 1 = day := by omega
  simp only [ofMarch, hmonth, hday]

theorem exists_march {d : Date} (h : d.Valid) :
    ∃ year day, IsMarchDay year day ∧ d = ofMarch year day := by
  obtain ⟨hmonth, hmonth', hday, hday'⟩ := h
  have hlength := daysInMonth_cases d.year hmonth hmonth'
  obtain ⟨year, month, day⟩ := d
  dsimp only at *
  by_cases hearly : month ≤ 2
  · refine ⟨year - 1, daysBeforeMonth (month + 9) + (day - 1), ⟨?_, ?_, fun hlast => ?_⟩, ?_⟩
    · unfold daysBeforeMonth
      omega
    · unfold daysBeforeMonth
      omega
    · rw [sub_add_cancel]
      unfold daysBeforeMonth at hlast
      by_contra hshort
      rw [Bool.not_eq_true] at hshort
      grind
    · rw [ofMarch_eq (by omega) (by unfold daysBeforeMonth; omega), Date.mk.injEq]
      omega
  · refine ⟨year, daysBeforeMonth (month - 3) + (day - 1), ⟨?_, ?_, fun hlast => ?_⟩, ?_⟩
    · unfold daysBeforeMonth
      omega
    · unfold daysBeforeMonth
      omega
    · unfold daysBeforeMonth at hlast
      omega
    · rw [ofMarch_eq (by omega) (by unfold daysBeforeMonth; omega), Date.mk.injEq]
      omega

/-- Two dates of the calendar with one number are the same. -/
theorem toDays_inj {d e : Date} (hd : d.Valid) (he : e.Valid) (h : d.toDays = e.toDays) :
    d = e := by
  obtain ⟨y, k, hk, rfl⟩ := exists_march hd
  obtain ⟨y', k', hk', rfl⟩ := exists_march he
  rw [toDays_ofMarch hk, toDays_ofMarch hk'] at h
  obtain ⟨rfl, rfl⟩ := march_inj hk hk' (by omega)
  rfl

theorem ofDays_toDays {d : Date} (h : d.Valid) : ofDays d.toDays = d :=
  toDays_inj (valid_ofDays _) h (toDays_ofDays _)

/-- **The days follow the calendar.** -/
theorem ofDays_succ (n : Int) : ofDays (n + 1) = (ofDays n).next := by
  have hvalid := valid_ofDays n
  rw [← ofDays_toDays (valid_next hvalid), toDays_next hvalid, toDays_ofDays]

-- and they are counted from here
example : ofDays 0 = ⟨1970, 1, 1⟩ := rfl

end CommandShell.Date
