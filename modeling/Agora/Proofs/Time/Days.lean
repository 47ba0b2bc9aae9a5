import Mathlib.Data.Int.Init
import Agora.Proofs.Time.Calendar

/-!
# Days counted one by one

`IsDay` is the calendar as it is known from the wall: 1970-01-01 is day 0, and from there the dates
follow each other in both directions by the lengths of their months. Main result: `IsDay.toDays`,
the number that is computed for a date is that of its day. Every day has a date (`exists_isDay`).
-/

namespace Agora.Time

namespace Date

variable {d : Date}

/-- The date of the day after. -/
def next (d : Date) : Date :=
  if d.day < daysInMonth d.year d.month then ⟨d.year, d.month, d.day + 1⟩
  else if d.month < 12 then ⟨d.year, d.month + 1, 1⟩
  else ⟨d.year + 1, 1, 1⟩

/-- The date of the day before. -/
def previous (d : Date) : Date :=
  if 1 < d.day then ⟨d.year, d.month, d.day - 1⟩
  else if 1 < d.month then ⟨d.year, d.month - 1, daysInMonth d.year (d.month - 1)⟩
  else ⟨d.year - 1, 12, 31⟩

theorem Exists.month (h : d.Exists) : 1 ≤ d.month ∧ d.month ≤ 12 := by
  obtain ⟨hfirst, hlast⟩ := h
  unfold daysInMonth at hlast
  split at hlast
  all_goals omega

/-- The length of a month by the number that it has from March on. -/
theorem daysInMonth_eq (y : Int) {m : Nat} (hfirst : 1 ≤ m) (hlast : m ≤ 12) (hne : m ≠ 2) :
    (daysInMonth y m : Int) =
      daysBeforeMonth ((m + 9) % 12 + 1 : Nat) - daysBeforeMonth ((m + 9) % 12 : Nat) := by
  have hlength := daysInMonth_fromMarch y (show (m + 9) % 12 < 11 by omega)
  rwa [show ((m + 9) % 12 + 2) % 12 + 1 = m by omega, ← Int.natCast_succ] at hlength

theorem daysInMonth_pos (y : Int) {m : Nat} (hfirst : 1 ≤ m) (hlast : m ≤ 12) :
    1 ≤ daysInMonth y m := by
  by_cases hfebruary : m = 2
  · subst hfebruary
    show 1 ≤ if isLeapYear y then 29 else 28
    split
    next => decide
    next => decide
  · have hlength := daysInMonth_eq y hfirst hlast hfebruary
    unfold daysBeforeMonth at hlength
    omega

theorem Exists.next (h : d.Exists) : d.next.Exists := by
  obtain ⟨_, hmonth⟩ := h.month
  unfold Date.next
  split
  next hinside => exact ⟨Nat.le_add_left 1 d.day, hinside⟩
  next =>
    split
    next hyear => exact ⟨Nat.le_refl 1, daysInMonth_pos _ (Nat.le_add_left 1 d.month) hyear⟩
    next => exact ⟨Nat.le_refl 1, daysInMonth_pos _ (Nat.le_refl 1) (Nat.le_add_left 1 11)⟩

theorem Exists.previous (h : d.Exists) : d.previous.Exists := by
  obtain ⟨_, hmonth⟩ := h.month
  unfold Date.previous
  split
  next hinside => exact ⟨Nat.le_sub_one_of_lt hinside, Nat.le_trans (Nat.sub_le _ _) h.2⟩
  next =>
    split
    next hyear =>
      exact ⟨daysInMonth_pos _ (Nat.le_sub_one_of_lt hyear) (Nat.le_trans (Nat.sub_le _ _) hmonth),
        Nat.le_refl _⟩
    next => exact ⟨Nat.le_add_left 1 30, Nat.le_refl 31⟩

/-- The day before is the one whose next day it is. -/
theorem Exists.next_previous (h : d.Exists) : d.previous.next = d := by
  obtain ⟨hfirst, hlast⟩ := h.month
  obtain ⟨hday, hlength⟩ := h
  obtain ⟨year, month, day⟩ := d
  dsimp only at hfirst hlast hday hlength
  unfold Date.previous
  dsimp only
  split
  next hinside =>
    unfold Date.next
    dsimp only
    rw [if_pos (show day - 1 < daysInMonth year month by omega), Nat.sub_add_cancel hday]
  next =>
    have hone : day = 1 := by omega
    subst hone
    split
    next hyear =>
      unfold Date.next
      dsimp only
      rw [if_neg (Nat.lt_irrefl _), if_pos (show month - 1 < 12 by omega),
        Nat.sub_add_cancel hfirst]
    next =>
      have hone : month = 1 := by omega
      subst hone
      show (⟨year - 1 + 1, 1, 1⟩ : Date) = _
      rw [Int.sub_add_cancel]

/-! ## Counting -/

/-- The days before the March of a year. -/
def daysBeforeMarch (y : Int) : Int := y / 400 * 146097 + daysBeforeYear (y % 400)

/-- From March to March a leap year has its February in it. -/
theorem daysBeforeMarch_eq (y : Int) :
    daysBeforeMarch y = daysBeforeMarch (y - 1) + if isLeapYear y then 366 else 365 := by
  unfold daysBeforeMarch daysBeforeYear isLeapYear
  split
  next hleap =>
    simp only [Bool.and_eq_true, Bool.or_eq_true, decide_eq_true_eq] at hleap
    omega
  next hleap =>
    simp only [Bool.and_eq_true, Bool.or_eq_true, decide_eq_true_eq] at hleap
    omega

/-- The number of a date by the year that began in March before it. -/
theorem toDays_eq (year : Int) (month day : Nat) :
    (⟨year, month, day⟩ : Date).toDays =
      daysBeforeMarch (if month ≤ 2 then year - 1 else year) +
        daysBeforeMonth ((month + 9) % 12 : Nat) + day - 719469 := by
  unfold toDays daysBeforeMarch daysBeforeYear daysBeforeMonth
  dsimp only
  omega

theorem toDays_nextMonth (year : Int) {month : Nat} (hfirst : 1 ≤ month) (hlast : month < 12) :
    (⟨year, month + 1, 1⟩ : Date).toDays =
      (⟨year, month, 1⟩ : Date).toDays + daysInMonth year month := by
  rw [toDays_eq, toDays_eq]
  by_cases hfebruary : month = 2
  · -- between these two days a year begins that counts from March
    subst hfebruary
    have hmarch := daysBeforeMarch_eq year
    show daysBeforeMarch year + 0 + 1 - 719469 = daysBeforeMarch (year - 1) + 337 + 1 - 719469 +
      ((if isLeapYear year then 29 else 28 : Nat) : Int)
    split at hmarch
    next hleap =>
      rw [if_pos hleap]
      omega
    next hleap =>
      rw [if_neg hleap]
      omega
  · have hyear : (if month + 1 ≤ 2 then year - 1 else year) =
        if month ≤ 2 then year - 1 else year := by
      split <;> split <;> omega
    rw [hyear, daysInMonth_eq year hfirst (Nat.le_of_lt hlast) hfebruary,
      show (month + 1 + 9) % 12 = (month + 9) % 12 + 1 by omega]
    omega

theorem toDays_nextYear (year : Int) :
    (⟨year + 1, 1, 1⟩ : Date).toDays = (⟨year, 12, 1⟩ : Date).toDays + 31 := by
  rw [toDays_eq, toDays_eq]
  show daysBeforeMarch (year + 1 - 1) + 306 + 1 - 719469 =
    daysBeforeMarch year + 275 + 1 - 719469 + 31
  rw [Int.add_sub_cancel]
  omega

/-- The number of a day is one more than that of the day before. -/
theorem Exists.toDays_next (h : d.Exists) : d.next.toDays = d.toDays + 1 := by
  obtain ⟨hfirst, hlast⟩ := h.month
  obtain ⟨hday, hlength⟩ := h
  obtain ⟨year, month, day⟩ := d
  dsimp only at hfirst hlast hday hlength
  have hinMonth : ∀ day, (⟨year, month, day⟩ : Date).toDays =
      (⟨year, month, 1⟩ : Date).toDays + day - 1 := by
    intro day
    rw [toDays_eq, toDays_eq]
    omega
  unfold Date.next
  dsimp only
  rw [hinMonth day]
  split
  next =>
    rw [hinMonth (day + 1)]
    omega
  next =>
    split
    next hyear =>
      rw [toDays_nextMonth year hfirst hyear]
      omega
    next =>
      have hdecember : month = 12 := by omega
      subst hdecember
      have hthirtyOne : daysInMonth year 12 = 31 := rfl
      rw [toDays_nextYear]
      omega

end Date

/-! ## The calendar -/

/-- The date of a day, the days being counted from 1970-01-01. -/
inductive IsDay : Int → Date → Prop
  | first : IsDay 0 ⟨1970, 1, 1⟩
  | next {n : Int} {d : Date} (h : IsDay n d) : IsDay (n + 1) d.next
  | previous {n : Int} {d : Date} (h : IsDay n d) : IsDay (n - 1) d.previous

namespace IsDay

variable {n : Int} {d : Date}

theorem toDays (h : IsDay n d) : d.Exists ∧ d.toDays = n := by
  induction h with
  | first => decide
  | next _ ih =>
    obtain ⟨hexists, hdays⟩ := ih
    rw [hexists.toDays_next, hdays]
    exact ⟨hexists.next, rfl⟩
  | previous _ ih =>
    obtain ⟨hexists, hdays⟩ := ih
    have hback := hexists.previous.toDays_next
    rw [hexists.next_previous] at hback
    exact ⟨hexists.previous, by omega⟩

end IsDay

theorem exists_isDay (n : Int) : ∃ d, IsDay n d := by
  induction n using Int.induction_on with
  | zero => exact ⟨_, .first⟩
  | succ n ih =>
    obtain ⟨d, h⟩ := ih
    exact ⟨_, h.next⟩
  | pred n ih =>
    obtain ⟨d, h⟩ := ih
    exact ⟨_, h.previous⟩

end Agora.Time
