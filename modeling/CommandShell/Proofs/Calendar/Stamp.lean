import CommandShell.Diagnostics.Log
import CommandShell.Proofs.Calendar.Date
import CommandShell.Proofs.Calendar.Moment
import CommandShell.Proofs.Number.Digits

/-!
# Times by the default format

By the default format a moment is shown as its day, month, year, hour, minute and second, in
numbers of at least so many digits (`clock`), and its milliseconds follow. Such a text can be
read in one way only, since the numbers end where their digits do (`clockText_inj`). With the
second of the time (`ofMillis_cases`) this says what `stamp` shows for every time that it
accepts, and that different times are shown differently.
-/

namespace CommandShell

open Diagnostics

namespace Moment

/-! ## Numbers of at least so many digits -/

theorem digits_zeroPadded (width n : Nat) : Digits (zeroPadded width n) :=
  (digits_zeros _).append (digits_toDigits n)

/-- The zeros in front do not count. -/
theorem ofDigitChars_zeroPadded (width n : Nat) :
    Nat.ofDigitChars 10 (zeroPadded width n) 0 = n := by
  simp [zeroPadded, Nat.ofDigitChars_append]

theorem zeroPadded_inj {width n m : Nat} (h : zeroPadded width n = zeroPadded width m) : n = m := by
  rw [← ofDigitChars_zeroPadded width n, h, ofDigitChars_zeroPadded]

/-- A number ends where its digits do. -/
theorem zeroPadded_append_inj {width n m : Nat} {r s : List Char}
    (hr : Text.Stops Char.isDigit r) (hs : Text.Stops Char.isDigit s)
    (h : zeroPadded width n ++ r = zeroPadded width m ++ s) : n = m ∧ r = s := by
  obtain ⟨hnumber, hrest⟩ :=
    Text.append_inj_of_stops (digits_zeroPadded width n) (digits_zeroPadded width m) hr hs h
  exact ⟨zeroPadded_inj hnumber, hrest⟩

theorem length_zeroPadded_le {width most n : Nat} (hwidth : 0 < width) (hmost : width ≤ most)
    (h : n < 10 ^ most) : (zeroPadded width n).length ≤ most := by
  have hdigits := (Nat.length_toDigits_le_iff (by decide) (by omega)).mpr h
  simp [zeroPadded]
  omega

/-- A conversion without a flag or a width fills numbers up with zeros. -/
theorem number_natCast {c : Conversion} (hfill : c.fill = none) (hwidth : c.width = none)
    (digits n : Nat) : c.number digits false n = zeroPadded digits n := by
  have htext : (toString (n : Int)).toList = Nat.toDigits 10 n := by
    rw [toList_toString, if_neg (by omega), Int.natAbs_natCast]
  rw [Conversion.number, htext, hfill, hwidth]
  simp [zeroPadded]

/-! ## Formats of plain letters -/

/-- The character is no flag, width or modifier of a conversion. -/
def IsLetter (c : Char) : Prop :=
  c.isDigit = false ∧ c ∉ ['_', '-', '0', '^', '#', 'E', 'O', '%']

instance (c : Char) : Decidable (IsLetter c) := inferInstanceAs (Decidable (_ ∧ _))

/-- The conversion that is a letter alone. -/
def Conversion.ofLetter (c : Char) : Conversion := { letter := some c, written := ['%', c] }

theorem readConversion_letter (cap : Nat) {c : Char} (h : IsLetter c) (r : List Char) :
    readConversion cap (c :: r) = (Conversion.ofLetter c, r) := by
  obtain ⟨hdigit, hflag⟩ := h
  simp only [List.mem_cons, List.not_mem_nil, or_false, not_or] at hflag
  have hflags : readFlags {} (c :: r) = ({}, c :: r) := by
    simp [readFlags, hflag]
  simp [readConversion, hflags, hdigit, hflag, Conversion.ofLetter]

section

variable (cap : Nat) (convert : Conversion → List Char) (fuel : Nat)

theorem expand_letter {c : Char} (h : IsLetter c) (r : List Char) :
    expand cap convert (fuel + 1) ('%' :: c :: r) =
      convert (.ofLetter c) ++ expand cap convert fuel r := by
  simp [expand, readConversion_letter cap h]

theorem expand_plain {c : Char} (h : c ≠ '%') (r : List Char) :
    expand cap convert (fuel + 1) (c :: r) = c :: expand cap convert fuel r := by
  rw [expand]
  exact h

theorem expand_nil : expand cap convert fuel [] = [] := by
  cases fuel <;> rfl

end

/-! ## The default format -/

/-- Numbers as the default format shows them. -/
def clockText (day month year hour minute second : Nat) : List Char :=
  zeroPadded 2 day ++ '/' :: (zeroPadded 2 month ++ '/' :: (zeroPadded 1 year ++ ' ' ::
    (zeroPadded 2 hour ++ ':' :: (zeroPadded 2 minute ++ ':' :: zeroPadded 2 second))))

/-- The date and the time of a moment, of a year that is not negative. -/
def clock (m : Moment) : List Char :=
  clockText m.date.day m.date.month m.date.year.toNat m.hour m.minute m.second

theorem expand_default (cap : Nat) (convert : Conversion → List Char) :
    expand cap convert (defaultFormat.toList.length + 1) defaultFormat.toList =
      convert (.ofLetter 'd') ++ '/' :: (convert (.ofLetter 'm') ++ '/' ::
        (convert (.ofLetter 'Y') ++ ' ' :: (convert (.ofLetter 'H') ++ ':' ::
          (convert (.ofLetter 'M') ++ ':' :: convert (.ofLetter 'S'))))) := by
  have hformat : defaultFormat.toList = ['%', 'd', '/', '%', 'm', '/', '%', 'Y', ' ', '%', 'H',
    ':', '%', 'M', ':', '%', 'S'] := rfl
  rw [hformat]
  simp +decide only [List.length_cons, expand_letter, expand_plain, expand_nil, List.append_nil]

/-- A moment of the calendar and the clock, of a year of at most four digits. -/
structure Proper (m : Moment) : Prop where
  date : m.date.Valid
  year_pos : 1 ≤ m.date.year
  year_le : m.date.year ≤ 9999
  hour : m.hour < 24
  minute : m.minute < 60
  second : m.second < 60

theorem length_clock_le {m : Moment} (h : m.Proper) : m.clock.length ≤ 29 := by
  have hday := h.date.day_le_31
  have hmonth := h.date.month_le
  have hyear := h.year_le
  have hhour := h.hour
  have hminute := h.minute
  have hsecond := h.second
  have hshort (width : Nat) {n : Nat} (hn : n < 10 ^ 4) (hwidth : 0 < width ∧ width ≤ 4) :
      (zeroPadded width n).length ≤ 4 :=
    length_zeroPadded_le hwidth.1 hwidth.2 hn
  have hday' := hshort 2 (by omega : m.date.day < 10 ^ 4) (by decide)
  have hmonth' := hshort 2 (by omega : m.date.month < 10 ^ 4) (by decide)
  have hyear' := hshort 1 (by omega : m.date.year.toNat < 10 ^ 4) (by decide)
  have hhour' := hshort 2 (by omega : m.hour < 10 ^ 4) (by decide)
  have hminute' := hshort 2 (by omega : m.minute < 10 ^ 4) (by decide)
  have hsecond' := hshort 2 (by omega : m.second < 10 ^ 4) (by decide)
  simp only [clock, clockText, List.length_append, List.length_cons]
  omega

/-- **The default format** shows the numbers of a moment. -/
theorem format_default {m : Moment} (h : m.Proper) :
    m.format defaultFormat = String.ofList m.clock := by
  have hfill : fillIn (zeroPadded 6 m.micros) defaultFormat.toList = defaultFormat.toList := rfl
  have hyear : m.date.year = (m.date.year.toNat : Int) :=
    (Int.toNat_of_nonneg (by linarith [h.year_pos])).symm
  have hexpand (cap : Nat) : expand cap (m.convert cap) (defaultFormat.toList.length + 1)
      defaultFormat.toList = m.clock := by
    have hnumber (c : Char) (digits n : Nat) :=
      number_natCast (c := .ofLetter c) rfl rfl digits n
    rw [expand_default, clock, clockText, ← hnumber 'd', ← hnumber 'm', ← hnumber 'Y',
      ← hnumber 'H', ← hnumber 'M', ← hnumber 'S', ← hyear]
    rfl
  have hshort : m.clock.length <
      max 1024 (Nat.nextPowerOfTwo (256 * defaultFormat.toList.length)) :=
    lt_of_lt_of_le (by have := length_clock_le h; omega) (le_max_left _ _)
  simp only [format, hfill, hexpand, if_pos hshort]

/-- **The text of a date and time is read in one way only.** -/
theorem clockText_inj {day month year hour minute second : Nat}
    {day' month' year' hour' minute' second' : Nat} {r s : List Char} (hr : Text.Stops Char.isDigit r) (hs : Text.Stops Char.isDigit s)
    (h : clockText day month year hour minute second ++ r =
      clockText day' month' year' hour' minute' second' ++ s) :
    (day = day' ∧ month = month' ∧ year = year' ∧ hour = hour' ∧ minute = minute' ∧
      second = second') ∧ r = s := by
  have hsep {c : Char} {xs : List Char} (hc : c.isDigit = false) :
      Text.Stops Char.isDigit (c :: xs) := Text.stops_cons hc
  simp only [clockText, List.append_assoc, List.cons_append] at h
  obtain ⟨hday, h⟩ := zeroPadded_append_inj (hsep rfl) (hsep rfl) h
  obtain ⟨hmonth, h⟩ := zeroPadded_append_inj (hsep rfl) (hsep rfl) (List.cons.inj h).2
  obtain ⟨hyear, h⟩ := zeroPadded_append_inj (hsep rfl) (hsep rfl) (List.cons.inj h).2
  obtain ⟨hhour, h⟩ := zeroPadded_append_inj (hsep rfl) (hsep rfl) (List.cons.inj h).2
  obtain ⟨hminute, h⟩ := zeroPadded_append_inj (hsep rfl) (hsep rfl) (List.cons.inj h).2
  obtain ⟨hsecond, h⟩ := zeroPadded_append_inj hr hs (List.cons.inj h).2
  exact ⟨⟨hday, hmonth, hyear, hhour, hminute, hsecond⟩, h⟩

/-! ## The moment of a second -/

theorem year_bounds {d : Date} (h : d.Valid) (hlow : firstSecond / secondsPerDay ≤ d.toDays)
    (hhigh : d.toDays ≤ lastSecond / secondsPerDay) : 1 ≤ d.year ∧ d.year ≤ 9999 := by
  have hday := h.day_le_31
  obtain ⟨hmonth, hmonth', hday', -⟩ := h
  rw [Date.toDays_eq, Date.marchDays_eq, Date.marchDays_eq] at hlow hhigh
  unfold firstSecond secondsPerDay Date.epochDays Date.daysBeforeMonth at hlow
  unfold lastSecond secondsPerDay Date.epochDays Date.daysBeforeMonth at hhigh
  split at hlow <;> omega

/-- **The moment of a second** lies on a date and at a time, and as many seconds from the start. -/
theorem proper_ofSeconds {seconds : Int} (hlow : firstSecond ≤ seconds)
    (hhigh : seconds ≤ lastSecond) (micros : Nat) : (ofSeconds seconds micros).Proper := by
  have hvalid := Date.valid_ofDays (seconds / secondsPerDay)
  have hpos : 0 < secondsPerDay := by decide
  obtain ⟨hyear, hyear'⟩ := year_bounds hvalid
    (by rw [Date.toDays_ofDays]; exact Int.ediv_le_ediv hpos hlow)
    (by rw [Date.toDays_ofDays]; exact Int.ediv_le_ediv hpos hhigh)
  refine ⟨hvalid, hyear, hyear', ?_, ?_, ?_⟩
  · simp only [ofSeconds, secondsPerDay]
    omega
  · exact Nat.mod_lt _ (by decide)
  · exact Nat.mod_lt _ (by decide)

theorem toSeconds_ofSeconds (seconds : Int) (micros : Nat) :
    (ofSeconds seconds micros).toSeconds = seconds := by
  simp only [toSeconds, ofSeconds, Date.toDays_ofDays, secondsPerDay]
  omega

end Moment

namespace Diagnostics

open Moment

/-! ## Stamps -/

/-- A moment and the milliseconds after its second, as a stamp shows them. -/
def stampText (m : Moment) (rest : Nat) : List Char := m.clock ++ '.' :: zeroPadded 3 rest

/-- **What a stamp shows**: the second of the time as a date and a time of day, and its
milliseconds. -/
theorem stamp_cases (millis : Int) :
    (∃ m : Moment, m.Proper ∧ m.toSeconds = millis / 1000 ∧
        stamp (.str defaultFormat) millis =
          .ok (String.ofList (stampText m (millis % 1000).toNat))) ∨
      (¬(firstSecond ≤ millis / 1000 ∧ millis / 1000 ≤ lastSecond) ∧
        stamp (.str defaultFormat) millis = .error (.moment (faultOf millis))) := by
  rcases ofMillis_cases millis with ⟨hlow, hhigh, micros, hmoment⟩ | ⟨hout, hfault⟩
  · have hproper := proper_ofSeconds hlow hhigh micros
    refine Or.inl ⟨_, hproper, toSeconds_ofSeconds _ micros, ?_⟩
    simp [stamp, hmoment, format_default hproper, stampText, String.ext_iff]
  · exact Or.inr ⟨hout, by simp only [stamp, hfault]⟩

/-- A stamp tells the second and the milliseconds. -/
theorem stampText_inj {m m' : Moment} {rest rest' : Nat} {r s : List Char} (hm : m.Proper)
    (hm' : m'.Proper) (hr : Text.Stops Char.isDigit r) (hs : Text.Stops Char.isDigit s)
    (h : stampText m rest ++ r = stampText m' rest' ++ s) :
    m.toSeconds = m'.toSeconds ∧ rest = rest' ∧ r = s := by
  simp only [stampText, clock, List.append_assoc, List.cons_append] at h
  obtain ⟨⟨hday, hmonth, hyear, hhour, hminute, hsecond⟩, h⟩ :=
    clockText_inj (Text.stops_cons rfl) (Text.stops_cons rfl) h
  obtain ⟨hrest, h⟩ := zeroPadded_append_inj hr hs (List.cons.inj h).2
  have hdate : m.date = m'.date := by
    have hpos := hm.year_pos
    have hpos' := hm'.year_pos
    have hyear' : m.date.year = m'.date.year := by omega
    cases hd : m.date
    cases hd' : m'.date
    simp_all
  exact ⟨by rw [toSeconds, toSeconds, hdate, hhour, hminute, hsecond], hrest, h⟩

end Diagnostics

end CommandShell
