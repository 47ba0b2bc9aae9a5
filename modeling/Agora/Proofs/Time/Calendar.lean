import Agora.Time.Calendar

/-!
# Days and dates are the same thing

Main results: the date of a day exists (`exists_ofDays`) and lies that many days after the start of
1970 (`toDays_ofDays`).

The year of a day within an era is had by a division that is off by a leap day here and there. That
it is right is seen at the ends of the years only: the quotient never falls from one day to the next
(`yearOfEra_mono`), and it is `y` on the first and on the last day of the year `y`.
-/

namespace Agora.Time

/-! ## Years of an era -/

/-- The days of an era before its year `y` begins. -/
def daysBeforeYear (y : Int) : Int := 365 * y + y / 4 - y / 100

/-- The year of an era in which one of its days lies. -/
def yearOfEra (d : Int) : Int := (d - d / 1460 + d / 36524 - d / 146096) / 365

theorem yearOfEra_mono {d e : Int} (h : d ≤ e) : yearOfEra d ≤ yearOfEra e := by
  -- one day more is never lost twice: where the last term grows, the one before it does too
  have hfour : d - d / 1460 ≤ e - e / 1460 := by omega
  have hcentury : d / 36524 - d / 146096 ≤ e / 36524 - e / 146096 := by omega
  unfold yearOfEra
  omega

theorem yearOfEra_first : ∀ y < 400, yearOfEra (daysBeforeYear (y : Nat)) = y := by
  decide +kernel

theorem yearOfEra_last : ∀ y < 399, yearOfEra (daysBeforeYear ((y : Nat) + 1) - 1) = y := by
  decide +kernel

theorem yearOfEra_range {d : Int} (hfirst : 0 ≤ d) (hlast : d < 146097) :
    0 ≤ yearOfEra d ∧ yearOfEra d < 400 := by
  unfold yearOfEra
  omega

/-- The year of a day has begun. -/
theorem daysBeforeYear_le {d : Int} (hfirst : 0 ≤ d) (hlast : d < 146097) :
    daysBeforeYear (yearOfEra d) ≤ d := by
  obtain ⟨h0, h400⟩ := yearOfEra_range hfirst hlast
  obtain ⟨y, hy⟩ := Int.eq_ofNat_of_zero_le h0
  rcases Int.lt_or_le d (daysBeforeYear (yearOfEra d)) with hearly | hbegun
  · cases y with
    | zero =>
      rw [hy] at hearly
      unfold daysBeforeYear at hearly
      omega
    | succ y =>
      -- the day lies in the year before then
      rw [hy, Int.natCast_succ] at hearly
      have hmono : yearOfEra d ≤ yearOfEra (daysBeforeYear ((y : Int) + 1) - 1) :=
        yearOfEra_mono (by omega)
      rw [yearOfEra_last y (by omega)] at hmono
      omega
  · exact hbegun

/-- The next year of the era has not begun. -/
theorem lt_daysBeforeYear {d : Int} (hfirst : 0 ≤ d) (hyear : yearOfEra d < 399) :
    d < daysBeforeYear (yearOfEra d + 1) := by
  have h0 : 0 ≤ yearOfEra d := by
    unfold yearOfEra
    omega
  obtain ⟨y, hy⟩ := Int.eq_ofNat_of_zero_le h0
  rcases Int.lt_or_le d (daysBeforeYear (yearOfEra d + 1)) with hearly | hbegun
  · exact hearly
  · have hmono := yearOfEra_mono hbegun
    have hfirst := yearOfEra_first (y + 1) (by omega)
    rw [Int.natCast_succ, ← hy] at hfirst
    omega

theorem isLeapYear_add_era (y era : Int) : isLeapYear (y + era * 400) = isLeapYear y := by
  have hfour : (y + era * 400) % 4 = y % 4 := by omega
  have hcentury : (y + era * 400) % 100 = y % 100 := by omega
  have hera : (y + era * 400) % 400 = y % 400 := by omega
  unfold isLeapYear
  rw [hfour, hcentury, hera]

theorem daysBeforeYear_succ (y : Int) : daysBeforeYear (y + 1) = daysBeforeYear y + 365 +
    (if (y + 1) % 4 = 0 then 1 else 0) - (if (y + 1) % 100 = 0 then 1 else 0) := by
  have hfour : (y + 1) / 4 = y / 4 + if (y + 1) % 4 = 0 then 1 else 0 := by omega
  have hcentury : (y + 1) / 100 = y / 100 + if (y + 1) % 100 = 0 then 1 else 0 := by omega
  unfold daysBeforeYear
  omega

/-- A year that begins in March has 366 days if the February at its end is that of a leap year. -/
theorem dayOfYear_lt {d : Int} (hfirst : 0 ≤ d) (hlast : d < 146097) :
    d - daysBeforeYear (yearOfEra d) < if isLeapYear (yearOfEra d + 1) then 366 else 365 := by
  obtain ⟨h0, h400⟩ := yearOfEra_range hfirst hlast
  by_cases hend : yearOfEra d = 399
  · -- the era ends with a leap year
    rw [hend, if_pos (show isLeapYear (399 + 1) = true by decide)]
    unfold daysBeforeYear
    omega
  · have hnext := lt_daysBeforeYear hfirst (by omega)
    rw [daysBeforeYear_succ] at hnext
    split
    next => omega
    next hleap =>
      simp only [isLeapYear, Bool.and_eq_true, Bool.or_eq_true, decide_eq_true_eq] at hleap
      omega

/-! ## Months of a year -/

/-- The days of a year that begins in March before its month `m` begins. -/
def daysBeforeMonth (m : Int) : Int := (153 * m + 2) / 5

/-- The month of a year that begins in March in which one of its days lies. -/
def monthFromMarch (d : Int) : Int := (5 * d + 2) / 153

theorem monthFromMarch_range {d : Int} (hfirst : 0 ≤ d) (hlast : d < 366) :
    0 ≤ monthFromMarch d ∧ monthFromMarch d < 12 ∧ daysBeforeMonth (monthFromMarch d) ≤ d ∧
      d < daysBeforeMonth (monthFromMarch d + 1) := by
  unfold daysBeforeMonth monthFromMarch
  omega

/-- Every month but the last one, which is February, is as long in every year. -/
theorem daysInMonth_fromMarch (y : Int) {m : Nat} (h : m < 11) :
    (daysInMonth y ((m + 2) % 12 + 1) : Int) = daysBeforeMonth (m + 1) - daysBeforeMonth m := by
  have hm : m = 0 ∨ m = 1 ∨ m = 2 ∨ m = 3 ∨ m = 4 ∨ m = 5 ∨ m = 6 ∨ m = 7 ∨ m = 8 ∨ m = 9 ∨
      m = 10 := by omega
  obtain rfl | rfl | rfl | rfl | rfl | rfl | rfl | rfl | rfl | rfl | rfl := hm
  all_goals rfl

/-! ## Dates -/

/-- What the date of a day is made from: an era, a year of it and a month from March on, and the
days that are left over. -/
structure Split (days era : Int) (year month day : Nat) : Prop where
  days_eq : days + 719468 = era * 146097 + daysBeforeYear year + daysBeforeMonth month + day
  year_lt : year < 400
  month_lt : month < 12
  day_lt : daysBeforeMonth month + day < daysBeforeMonth (month + 1)
  leap_lt : daysBeforeMonth month + day < if isLeapYear (year + 1) then 366 else 365
  date : Date.ofDays days = {
    year := year + era * 400 + (if (month + 2) % 12 + 1 ≤ 2 then 1 else 0)
    month := (month + 2) % 12 + 1
    day := day + 1 }

/-- Every day can be split. -/
theorem exists_split (days : Int) : ∃ era year month day, Split days era year month day := by
  generalize hera : (days + 719468) / 146097 = era
  generalize hrest : (days + 719468) % 146097 = d
  have hfirst : 0 ≤ d := by omega
  have hlast : d < 146097 := by omega
  have hbegun := daysBeforeYear_le hfirst hlast
  have hleap := dayOfYear_lt hfirst hlast
  have hdate : Date.ofDays days =
      let month := (monthFromMarch (d - daysBeforeYear (yearOfEra d)) + 2) % 12 + 1
      { year := yearOfEra d + era * 400 + (if month ≤ 2 then 1 else 0)
        month := month.toNat
        day := (d - daysBeforeYear (yearOfEra d) -
          daysBeforeMonth (monthFromMarch (d - daysBeforeYear (yearOfEra d))) + 1).toNat } := by
    rw [← hera, ← hrest]
    rfl
  -- year, month and the rest are natural numbers
  obtain ⟨h0, h400⟩ := yearOfEra_range hfirst hlast
  obtain ⟨year, hyear⟩ := Int.eq_ofNat_of_zero_le h0
  rw [hyear] at hbegun hleap hdate h400
  have hdays : d - daysBeforeYear year < 366 := by omega
  obtain ⟨hmonth0, hmonth12, hmonth, hnext⟩ :=
    monthFromMarch_range (Int.sub_nonneg_of_le hbegun) hdays
  obtain ⟨month, hmonths⟩ := Int.eq_ofNat_of_zero_le hmonth0
  obtain ⟨day, hday⟩ := Int.eq_ofNat_of_zero_le (Int.sub_nonneg_of_le hmonth)
  rw [hmonths] at hmonth12 hnext hday
  refine ⟨era, year, month, day, by omega, by omega, by omega, by omega, by omega, ?_⟩
  rw [hdate, hmonths, hday]
  simp only [Date.mk.injEq]
  omega

/-- The date of a day exists. -/
theorem exists_ofDays (days : Int) : (Date.ofDays days).Exists := by
  obtain ⟨era, year, month, day, h⟩ := exists_split days
  have hmonth := h.month_lt
  have hlast := h.day_lt
  have hleap := h.leap_lt
  rw [h.date]
  refine ⟨by simp, ?_⟩
  by_cases hfebruary : month = 11
  · -- the day is at the end of a year, and the date in the year after it
    subst hfebruary
    rw [← isLeapYear_add_era _ era] at hleap
    have hyear : (year : Int) + 1 + era * 400 = year + era * 400 + 1 := by omega
    rw [hyear] at hleap
    show day + 1 ≤ if isLeapYear (year + era * 400 + 1) then 29 else 28
    unfold daysBeforeMonth at hleap
    split at hleap
    next hyes =>
      rw [if_pos hyes]
      omega
    next hno =>
      rw [if_neg hno]
      omega
  · have hlength := daysInMonth_fromMarch
      ((year : Int) + era * 400 + (if (month + 2) % 12 + 1 ≤ 2 then 1 else 0))
      (show month < 11 by omega)
    simp only
    omega

/-- The date of a day lies that many days after the start of 1970. -/
theorem toDays_ofDays (days : Int) : (Date.ofDays days).toDays = days := by
  obtain ⟨era, year, month, day, h⟩ := exists_split days
  have hdays := h.days_eq
  have hmonth := h.month_lt
  have hyear := h.year_lt
  -- counting from March again
  have hmarch : (if (month + 2) % 12 + 1 ≤ 2 then
      (year : Int) + era * 400 + (if (month + 2) % 12 + 1 ≤ 2 then 1 else 0) - 1
      else year + era * 400 + (if (month + 2) % 12 + 1 ≤ 2 then 1 else 0)) =
        year + era * 400 := by
    split <;> omega
  have hback : ((((month + 2) % 12 + 1 : Nat) : Int) + 9) % 12 = month := by omega
  have hera : ((year : Int) + era * 400) / 400 = era := by omega
  have hrest : ((year : Int) + era * 400) % 400 = year := by omega
  rw [h.date]
  unfold Date.toDays
  simp only [hmarch, hback, hera, hrest]
  unfold daysBeforeYear daysBeforeMonth at hdays
  omega

/-- The days of the years -262143 to 262142 have dates in these years. -/
theorem year_ofDays {days : Int} (hfirst : -96465292 ≤ days) (hlast : days ≤ 95026236) :
    -262143 ≤ (Date.ofDays days).year ∧ (Date.ofDays days).year ≤ 262142 := by
  obtain ⟨era, year, month, day, h⟩ := exists_split days
  have hdays := h.days_eq
  have hyear := h.year_lt
  have hmonth := h.month_lt
  have hday := h.day_lt
  rw [h.date]
  unfold daysBeforeYear daysBeforeMonth at *
  simp only
  have hlow : -656 ≤ era := by omega
  have hhigh : era ≤ 655 := by omega
  constructor
  · by_cases hera : era = -656
    · -- of the first era only the years from March of its year 256 on
      have hfrom : 256 ≤ year := by omega
      by_cases hedge : year = 256
      · have hwinter : month = 10 ∨ month = 11 := by omega
        rcases hwinter with rfl | rfl
        · omega
        · omega
      · omega
    · omega
  · by_cases hera : era = 655
    · have hto : year ≤ 142 := by omega
      by_cases hedge : year = 142
      · have hautumn : month < 10 := by omega
        rw [Nat.mod_eq_of_lt (show month + 2 < 12 by omega), if_neg (by omega)]
        omega
      · omega
    · omega

end Agora.Time
