/-
# Dates and times of day as text

A date names one day and the text of a point in time names one second, for all seconds that fit
into 32 bits.  Years are counted from March in eras of 400 years; how many days of an era come
before a year is monotone, which is all that is used of the leap years.

* `Date.ofDays_injective`: different days have different dates;
* `decimalDigits_injective`: digits of a fixed count determine the number;
* `Timestamp.text_injective`: different seconds have different texts.
-/
import FlowIntake.Timestamp
import Mathlib.Algebra.GroupWithZero.Nat

namespace FlowIntake

/-! ## 1. Years of an era -/

namespace Date

/-- The days of an era less the leap days that came before them. -/
def commonDays (d : Nat) : Nat := d - d / 1460 + d / 36524 - d / 146096

/-- The days of an era before a year. -/
def daysBefore (y : Nat) : Nat := 365 * y + y / 4 - y / 100

theorem commonDays_mono {d d' : Nat} (h : d ≤ d') (hd : d' < 146097) :
    commonDays d ≤ commonDays d' := by
  have hyears : d - d / 1460 ≤ d' - d' / 1460 := by omega
  have hcenturies : d / 36524 - d / 146096 ≤ d' / 36524 - d' / 146096 := by omega
  simp only [commonDays]
  omega

theorem commonDays_daysBefore : ∀ y < 400, commonDays (daysBefore (y + 1) - 1) < 365 * (y + 1) := by
  decide +kernel

theorem commonDays_after : ∀ y < 399, 365 * (y + 1) ≤ commonDays (daysBefore y + 366) := by
  decide +kernel

/-- A day lies in the year that is counted for it. -/
theorem year_bounds {d : Nat} (hd : d < 146097) :
    commonDays d / 365 < 400 ∧ daysBefore (commonDays d / 365) ≤ d ∧
      d ≤ daysBefore (commonDays d / 365) + 365 := by
  have hlt : commonDays d / 365 < 400 := by
    have hmost := commonDays_mono (Nat.le_of_lt_succ hd) (Nat.lt_succ_self 146096)
    have hlast : commonDays 146096 = 145999 := by decide
    omega
  generalize hy : commonDays d / 365 = y at hlt
  refine ⟨hlt, ?_, ?_⟩
  · refine Nat.le_of_not_lt fun hearly => ?_
    obtain ⟨k, rfl⟩ : ∃ k, y = k + 1 := ⟨y - 1, by
      have hzero : daysBefore 0 = 0 := rfl
      rcases Nat.eq_zero_or_pos y with rfl | hpos <;> omega⟩
    have hrange : daysBefore (k + 1) - 1 < 146097 := by
      simp only [daysBefore]
      omega
    have hmono := commonDays_mono (show d ≤ daysBefore (k + 1) - 1 by omega) hrange
    have hshort := commonDays_daysBefore k (by omega)
    omega
  · refine Nat.le_of_not_lt fun hlate => ?_
    rcases Nat.lt_or_ge y 399 with hy' | hy'
    · have hmono := commonDays_mono (show daysBefore y + 366 ≤ d by omega) hd
      have hnext := commonDays_after y hy'
      omega
    · have hlast : y = 399 := by omega
      have hdays : daysBefore 399 = 145731 := rfl
      rw [hlast] at hlate
      omega

/-! ## 2. Dates -/

/-- The parts that a date is made of: the era, the year and the day in it, counted from March. -/
theorem ofDays_eq (days : Int) : ∃ era : Int, ∃ y doy : Nat,
    days + 719468 = era * 146097 + (daysBefore y + doy : Nat) ∧ y < 400 ∧ doy ≤ 365 ∧
      ofDays days =
        if (5 * doy + 2) / 153 < 10 then
          ⟨era * 400 + y, (5 * doy + 2) / 153 + 3, doy - (153 * ((5 * doy + 2) / 153) + 2) / 5 + 1⟩
        else ⟨era * 400 + y + 1, (5 * doy + 2) / 153 - 9,
          doy - (153 * ((5 * doy + 2) / 153) + 2) / 5 + 1⟩ := by
  have hfloor : (days + 719468).fdiv 146097 = (days + 719468) / 146097 :=
    Int.fdiv_eq_ediv_of_nonneg _ (by decide)
  obtain ⟨inEra, hinEra⟩ : ∃ d : Nat, days + 719468 - (days + 719468) / 146097 * 146097 = d :=
    ⟨_, (Int.toNat_of_nonneg (by omega)).symm⟩
  obtain ⟨hlt, hstart, hend⟩ := year_bounds (show inEra < 146097 by omega)
  refine ⟨(days + 719468) / 146097, commonDays inEra / 365,
    inEra - daysBefore (commonDays inEra / 365), ?_, hlt, ?_, ?_⟩
  · omega
  · omega
  · simp only [ofDays, hfloor, hinEra, Int.toNat_natCast]
    rfl

/-- **Different days have different dates.** -/
theorem ofDays_injective {days days' : Int} (h : ofDays days = ofDays days') : days = days' := by
  obtain ⟨era, y, doy, hdays, hy, hdoy, heq⟩ := ofDays_eq days
  obtain ⟨era', y', doy', hdays', hy', hdoy', heq'⟩ := ofDays_eq days'
  have hparts : era * 400 + y = era' * 400 + y' ∧ doy = doy' := by
    rw [heq, heq'] at h
    split at h
    · split at h
      · obtain ⟨hyear, hmonth, hday⟩ := Date.mk.inj h
        omega
      · obtain ⟨-, hmonth, -⟩ := Date.mk.inj h
        omega
    · split at h
      · obtain ⟨-, hmonth, -⟩ := Date.mk.inj h
        omega
      · obtain ⟨hyear, hmonth, hday⟩ := Date.mk.inj h
        omega
  have hera : era = era' ∧ y = y' := by omega
  obtain ⟨rfl, rfl⟩ := hera
  obtain ⟨-, rfl⟩ := hparts
  omega

/-- From 1970 on, for as long as seconds fit into 32 bits, years have four digits. -/
theorem year_ofDays {days : Int} (hfirst : 0 ≤ days) (hlast : days < 49711) :
    0 ≤ (ofDays days).year ∧ (ofDays days).year ≤ 9999 ∧ (ofDays days).month < 100 ∧
      (ofDays days).day < 100 := by
  obtain ⟨era, y, doy, hdays, hy, hdoy, heq⟩ := ofDays_eq days
  have hera : 0 ≤ era ∧ era ≤ 5 := by
    have hbefore : daysBefore y ≤ 146097 := by
      simp only [daysBefore]
      omega
    omega
  rw [heq]
  split
  · refine ⟨?_, ?_, ?_, ?_⟩ <;> dsimp only <;> omega
  · refine ⟨?_, ?_, ?_, ?_⟩ <;> dsimp only <;> omega

end Date

/-! ## 3. Digits of a fixed count -/

theorem length_decimalDigits (n v : Nat) : (decimalDigits n v).length = n := by
  induction n generalizing v with
  | zero => rfl
  | succ n ih => rw [decimalDigits, List.length_append, ih, List.length_singleton]

theorem digit_injective : ∀ m < 10, ∀ n < 10,
    Char.ofNat ('0'.toNat + m) = Char.ofNat ('0'.toNat + n) → m = n := by
  decide

/-- **Digits of a fixed count determine the number** that has no more of them. -/
theorem decimalDigits_injective {n v w : Nat} (hv : v < 10 ^ n) (hw : w < 10 ^ n)
    (h : decimalDigits n v = decimalDigits n w) : v = w := by
  induction n generalizing v w with
  | zero => omega
  | succ n ih =>
    rw [decimalDigits, decimalDigits] at h
    obtain ⟨hfront, hlast⟩ := List.append_inj' h rfl
    have hdigit := digit_injective _ (Nat.mod_lt v (by decide)) _ (Nat.mod_lt w (by decide))
      (List.cons.inj hlast).1
    rw [Nat.pow_succ] at hv hw
    have hrest := ih (show v / 10 < 10 ^ n by omega) (show w / 10 < 10 ^ n by omega) hfront
    omega

/-- Digits of a fixed count in front of something else. -/
theorem decimalDigits_append_injective {n v w : Nat} {cs ds : List Char} (hv : v < 10 ^ n)
    (hw : w < 10 ^ n) (h : decimalDigits n v ++ cs = decimalDigits n w ++ ds) :
    v = w ∧ cs = ds := by
  have hlength : (decimalDigits n v).length = (decimalDigits n w).length := by
    rw [length_decimalDigits, length_decimalDigits]
  obtain ⟨hdigits, hrest⟩ := List.append_inj h hlength
  exact ⟨decimalDigits_injective hv hw hdigits, hrest⟩

/-! ## 4. Points in time -/

/-- A year of four digits stands alone. -/
theorem Date.yearText_of_four {year : Int} (hfirst : 0 ≤ year) (hlast : year ≤ 9999) :
    Date.yearText year = decimalDigits 4 year.toNat := by
  rw [Date.yearText, if_pos ⟨hfirst, hlast⟩]

/-- Dates of four-digit years with the same text are the same, whatever follows them. -/
theorem Date.text_append_injective {d d' : Date} {cs ds : List Char}
    (hd : 0 ≤ d.year ∧ d.year ≤ 9999 ∧ d.month < 100 ∧ d.day < 100)
    (hd' : 0 ≤ d'.year ∧ d'.year ≤ 9999 ∧ d'.month < 100 ∧ d'.day < 100)
    (h : d.text ++ cs = d'.text ++ ds) : d = d' ∧ cs = ds := by
  obtain ⟨year, month, day⟩ := d
  obtain ⟨year', month', day'⟩ := d'
  dsimp only at hd hd'
  rw [Date.text, Date.text, Date.yearText_of_four hd.1 hd.2.1,
    Date.yearText_of_four hd'.1 hd'.2.1] at h
  simp only [List.append_assoc, List.cons_append] at h
  obtain ⟨hyear, h⟩ := decimalDigits_append_injective (by omega) (by omega) h
  obtain ⟨hmonth, h⟩ := decimalDigits_append_injective (by omega) (by omega) (List.cons.inj h).2
  obtain ⟨hday, h⟩ := decimalDigits_append_injective (by omega) (by omega) (List.cons.inj h).2
  exact ⟨Date.mk.injEq .. ▸ ⟨by omega, hmonth, hday⟩, h⟩

/-- **Different seconds have different texts**, if they fit into 32 bits. -/
theorem Timestamp.text_injective {s s' : Nat} (hs : s < 2 ^ 32) (hs' : s' < 2 ^ 32) {zone : String}
    (h : Timestamp.text ⟨s, 0⟩ zone = Timestamp.text ⟨s', 0⟩ zone) : s = s' := by
  have hfloor (n : Nat) : (n : Int).fdiv 86400 = n / 86400 :=
    Int.fdiv_eq_ediv_of_nonneg _ (by decide)
  have hchars := congrArg String.toList h
  simp only [Timestamp.text, hfloor, String.toList_append, String.toList_ofList,
    List.append_assoc, List.cons_append] at hchars
  -- The days first, then hour, minute and second.
  obtain ⟨hdate, hclock⟩ := Date.text_append_injective
    (Date.year_ofDays (by omega) (by omega)) (Date.year_ofDays (by omega) (by omega)) hchars
  have hdays := Date.ofDays_injective hdate
  obtain ⟨hhour, hclock⟩ :=
    decimalDigits_append_injective (by omega) (by omega) (List.cons.inj hclock).2
  obtain ⟨hminute, hclock⟩ :=
    decimalDigits_append_injective (by omega) (by omega) (List.cons.inj hclock).2
  obtain ⟨hsecond, -⟩ :=
    decimalDigits_append_injective (by omega) (by omega) (List.cons.inj hclock).2
  omega

end FlowIntake
