import Agora.Proofs.Decimal.Numeral
import Agora.Proofs.Time.Days
import Agora.Proofs.Time.Rfc3339

/-!
# All texts of an instant

`Spells` says which texts the format has for an instant: at any offset of whole minutes the local
date and time of day, with any of the separators, and a fraction of any number of digits that comes
to the nanoseconds. Dates are those of the calendar that counts day by day (`IsDay`).

Main result: `read?_of_spells`, each of these texts is read as the instant. There is one for every
offset at which the local year has four digits, in each way in which fraction and offset can be
written (`exists_spells`).
-/

namespace Agora.Time

namespace Rfc3339

open Decimal (IsDigit value)

variable {cs ds rest : List Char} {n nano : Nat} {offset : Int} {p : Parts}

/-! ## The grammar -/

/-- A number of a fixed number of digits. -/
structure Digits (width n : Nat) (ds : List Char) : Prop where
  length : ds.length = width
  digits : ∀ c ∈ ds, IsDigit c
  value : value ds = n

/-- The fraction of a second: nothing, or a point and digits that come to the nanoseconds, however
many there are. -/
inductive FractionText : Nat → List Char → Prop
  | none : FractionText 0 []
  | digits {nano : Nat} {ds : List Char} (hne : ds ≠ []) (hdigits : ∀ c ∈ ds, IsDigit c)
      (hvalue : value ds * 1000000000 = nano * Nat.pow 10 ds.length) : FractionText nano ('.' :: ds)

/-- The offset in seconds: a letter, or hours and minutes after a sign. -/
inductive OffsetText : Int → List Char → Prop
  | utc {c : Char} (hletter : c = 'Z' ∨ c = 'z') : OffsetText 0 [c]
  | ahead {hours minutes : Nat} {hs ms : List Char} (hhours : Digits 2 hours hs)
      (hminutes : Digits 2 minutes ms) (hday : hours < 24) (hhour : minutes < 60) :
      OffsetText (hours * 3600 + minutes * 60) ('+' :: (hs ++ ':' :: ms))
  | behind {c : Char} {hours minutes : Nat} {hs ms : List Char} (hsign : c = '-' ∨ c = '\u2212')
      (hhours : Digits 2 hours hs) (hminutes : Digits 2 minutes ms) (hday : hours < 24)
      (hhour : minutes < 60) :
      OffsetText (-(hours * 3600 + minutes * 60)) (c :: (hs ++ ':' :: ms))

/-- The text of date, time of day and offset, each part separated as the format asks. -/
inductive Parts.Text (p : Parts) : List Char → Prop
  | mk {y : Nat} {year month day hour minute second fraction offset : List Char} {separator : Char}
      (hy : p.year = y) (hyear : Digits 4 y year) (hmonth : Digits 2 p.month month)
      (hday : Digits 2 p.day day) (hseparator : separator = 'T' ∨ separator = 't' ∨ separator = ' ')
      (hhour : Digits 2 p.hour hour) (hminute : Digits 2 p.minute minute)
      (hsecond : Digits 2 p.second second) (hfraction : FractionText p.nano fraction)
      (hoffset : OffsetText p.offset offset) :
      p.Text (year ++ '-' :: (month ++ '-' :: (day ++ separator :: (hour ++
        ':' :: (minute ++ ':' :: (second ++ (fraction ++ offset)))))))

/-! ## Reading by the grammar -/

theorem nat?_of_digits (hne : ds ≠ []) (hdigits : ∀ c ∈ ds, IsDigit c) :
    Decimal.nat? ds = some (value ds) :=
  Decimal.nat?_eq_some.mpr ⟨hne, hdigits, rfl⟩

theorem Digits.read {width : Nat} (h : Digits width n ds) (hwidth : 0 < width) (rest : List Char) :
    exactly? width (ds ++ rest) = some (n, rest) := by
  have hne : ds ≠ [] := List.ne_nil_of_length_pos (by rw [h.length]; exact hwidth)
  unfold exactly?
  rw [← h.length, List.take_left, List.drop_left, if_pos rfl, nat?_of_digits hne h.digits, h.value]
  rfl

/-- What is left of a multiple by a remainder is the multiple. -/
theorem eq_of_mul_add_eq {a b m r : Nat} (h : a * m + r = b * m) (hr : r < m) : a = b := by
  have hquotient : (a * m + r) / m = b * m / m := congrArg (· / m) h
  rwa [Nat.add_comm, Nat.add_mul_div_right _ _ (Nat.zero_lt_of_lt hr), Nat.div_eq_of_lt hr,
    Nat.zero_add, Nat.mul_div_cancel _ (Nat.zero_lt_of_lt hr)] at hquotient

/-- Of the digits of a fraction nine count. If there are more, those have to be zeros. -/
theorem scaled_value (hdigits : ∀ c ∈ ds, IsDigit c)
    (hvalue : value ds * 1000000000 = nano * Nat.pow 10 ds.length) :
    value (ds.take 9) * Nat.pow 10 (9 - (ds.take 9).length) = nano := by
  have hparts := Decimal.value_append (ds.take 9) (ds.drop 9)
  have hrest : value (ds.drop 9) < Nat.pow 10 (ds.drop 9).length :=
    Decimal.value_lt fun c hc => hdigits c (List.mem_of_mem_drop hc)
  rw [List.take_append_drop] at hparts
  by_cases hshort : ds.length ≤ 9
  · rw [List.take_of_length_le hshort]
    have hnine : Nat.pow 10 (9 - ds.length) * Nat.pow 10 ds.length = 1000000000 := by
      have hsum : Nat.pow 10 (9 - ds.length + ds.length) =
          Nat.pow 10 (9 - ds.length) * Nat.pow 10 ds.length := Nat.pow_add 10 _ _
      rw [← hsum, Nat.sub_add_cancel hshort]
    rw [← hnine, ← Nat.mul_assoc] at hvalue
    exact Nat.eq_of_mul_eq_mul_right (Nat.pow_pos (by decide)) hvalue
  · have htake : (ds.take 9).length = 9 := by
      rw [List.length_take]
      omega
    have hlength : ds.length = (ds.drop 9).length + 9 := by
      rw [List.length_drop]
      omega
    have hpow : Nat.pow 10 ((ds.drop 9).length + 9) =
        Nat.pow 10 (ds.drop 9).length * Nat.pow 10 9 := Nat.pow_add 10 _ _
    rw [hlength, hpow, ← Nat.mul_assoc] at hvalue
    have hscaled : value ds = nano * Nat.pow 10 (ds.drop 9).length :=
      Nat.eq_of_mul_eq_mul_right (show 0 < Nat.pow 10 9 by decide) hvalue
    rw [htake, Nat.sub_self]
    show value (ds.take 9) * 1 = nano
    rw [Nat.mul_one]
    exact eq_of_mul_add_eq (hparts.symm.trans hscaled) hrest

/-- An offset begins with a letter or a sign. -/
theorem OffsetText.head (h : OffsetText offset cs) :
    ∃ c rest, cs = c :: rest ∧ ¬IsDigit c ∧ c ≠ '.' := by
  cases h with
  | utc hletter =>
    refine ⟨_, _, rfl, ?_⟩
    rcases hletter with rfl | rfl
    · exact ⟨by simp [IsDigit], by decide⟩
    · exact ⟨by simp [IsDigit], by decide⟩
  | ahead => exact ⟨_, _, rfl, by simp [IsDigit], by decide⟩
  | behind hsign =>
    refine ⟨_, _, rfl, ?_⟩
    rcases hsign with rfl | rfl
    · exact ⟨by simp [IsDigit], by decide⟩
    · exact ⟨by simp [IsDigit], by decide⟩

theorem FractionText.read (h : FractionText nano cs) (hrest : OffsetText offset rest) :
    fraction? (cs ++ rest) = some (nano, rest) := by
  obtain ⟨c, tail, htail, hdigit, hpoint⟩ := hrest.head
  cases h with
  | none =>
    rw [List.nil_append, htail]
    unfold fraction?
    split
    next heq =>
      cases heq
      exact absurd rfl hpoint
    next => rfl
  | digits hne hdigits hvalue =>
    have hstops : Stops rest := by
      rw [htail]
      exact stops_cons hdigit tail
    have hnine : ∀ c ∈ List.take 9 _, IsDigit c := fun c hc => hdigits c (List.mem_of_mem_take hc)
    rw [List.cons_append, fraction?_append hdigits hstops,
      nat?_of_digits (by simpa using hne) hnine, Option.map_some, scaled_value hdigits hvalue]

theorem char?_self (c : Char) (rest : List Char) : char? c (c :: rest) = some rest := if_pos rfl

/-- Hours and minutes are read after a sign. -/
theorem offset?_of_digits {c : Char} {hours minutes : Nat} {hs ms : List Char}
    (hsign : c = '+' ∨ c = '-' ∨ c = '\u2212') (hhours : Digits 2 hours hs)
    (hminutes : Digits 2 minutes ms) (hhour : minutes < 60) :
    offset? (char? ':') (c :: (hs ++ ':' :: ms)) =
      some (if c = '+' then (hours * 3600 + minutes * 60 : Int)
        else -(hours * 3600 + minutes * 60), []) := by
  have hletter : ¬(c = 'Z' ∨ c = 'z') := by
    rcases hsign with rfl | rfl | rfl
    · decide
    · decide
    · decide
  have hlast : exactly? 2 ms = some (minutes, []) := by
    have hread := hminutes.read (by decide) []
    rwa [List.append_nil] at hread
  unfold offset?
  simp only [if_neg hletter, if_pos hsign, hhours.read (show 0 < 2 by decide), char?_self, hlast,
    if_pos hhour, Option.bind_eq_bind, Option.bind_some]
  rfl

theorem OffsetText.read (h : OffsetText offset cs) :
    offset? (char? ':') cs = some (offset, []) := by
  cases h with
  | utc hletter =>
    unfold offset?
    simp only [if_pos hletter]
  | ahead hhours hminutes _ hhour =>
    rw [offset?_of_digits (Or.inl rfl) hhours hminutes hhour, if_pos rfl]
  | @behind c _ _ _ _ hsign hhours hminutes _ hhour =>
    have hnot : c ≠ '+' := by
      rcases hsign with rfl | rfl
      · decide
      · decide
    rw [offset?_of_digits (Or.inr hsign) hhours hminutes hhour, if_neg hnot]

/-- An offset is shorter than a day and of whole minutes. -/
theorem OffsetText.range (h : OffsetText offset cs) :
    (-86400 < offset ∧ offset < 86400) ∧ offset % 60 = 0 := by
  cases h with
  | utc => decide
  | ahead => omega
  | behind => omega

/-- The parts are read from their text. -/
theorem Parts.Text.read (h : p.Text cs) : parts? cs = some p := by
  obtain ⟨hy, hyear, hmonth, hday, hseparator, hhour, hminute, hsecond, hfraction, hoffset⟩ := h
  have htwo : 0 < 2 := by decide
  unfold parts?
  simp only [hyear.read (show 0 < 4 by decide), hmonth.read htwo, hday.read htwo, hhour.read htwo,
    hminute.read htwo, hsecond.read htwo, char?_self, separator?, if_pos hseparator,
    hfraction.read hoffset, hoffset.read, Option.bind_eq_bind, Option.bind_some, List.isEmpty_nil,
    if_pos, ← hy]
  rfl

theorem Parts.Text.year_range (h : p.Text cs) : 0 ≤ p.year ∧ p.year ≤ 9999 := by
  obtain ⟨hy, hyear⟩ := h
  have hfour := Decimal.value_lt hyear.digits
  rw [hyear.length, hyear.value] at hfour
  have hfour : _ < 10000 := hfour
  omega

theorem Parts.Text.offset_range (h : p.Text cs) :
    (-86400 < p.offset ∧ p.offset < 86400) ∧ p.offset % 60 = 0 := by
  cases h with
  | mk _ _ _ _ _ _ _ _ _ hoffset => exact hoffset.range

/-! ## Writing by the grammar -/

theorem digits_padded {width : Nat} (hwidth : 0 < width) (h : n < Nat.pow 10 width) :
    Digits width n (Decimal.padded width n) := by
  obtain ⟨_, hdigits, hvalue⟩ := Decimal.nat?_eq_some.mp (Decimal.nat?_padded hwidth h)
  exact ⟨Decimal.length_padded width n, hdigits, hvalue.symm⟩

/-- A fraction can have any number of zeros behind its nine digits. -/
theorem fractionText_zeros (h : nano < 1000000000) (zeros : Nat) :
    FractionText nano ('.' :: (Decimal.padded 9 nano ++ List.replicate zeros '0')) := by
  have hnine : Digits 9 nano (Decimal.padded 9 nano) := digits_padded (by decide) h
  obtain ⟨hlength, hdigits, hvalue⟩ := hnine
  refine .digits ?nonempty ?digits ?value
  case nonempty =>
    exact List.append_ne_nil_of_left_ne_nil (List.ne_nil_of_length_eq_add_one hlength) _
  case digits =>
    intro c hc
    obtain hc | hc := List.mem_append.mp hc
    · exact hdigits c hc
    · rw [List.eq_of_mem_replicate hc]
      exact ⟨by decide, by decide⟩
  case value =>
    have hpow : Nat.pow 10 (9 + zeros) = Nat.pow 10 9 * Nat.pow 10 zeros := Nat.pow_add 10 9 zeros
    rw [Decimal.value_append, Decimal.value_zeros, hvalue, List.length_append, hlength,
      List.length_replicate, hpow, Nat.add_zero, Nat.mul_assoc, Nat.mul_comm (Nat.pow 10 zeros)]

/-- There is a text for every offset of whole minutes that is shorter than a day. -/
theorem exists_offsetText {minutes : Int} (hfirst : -1439 ≤ minutes) (hlast : minutes ≤ 1439) :
    ∃ cs, OffsetText (minutes * 60) cs := by
  have htwo : ∀ {n}, n < 60 → Digits 2 n (Decimal.padded 2 n) := fun hn =>
    digits_padded (by decide) (Nat.lt_trans hn (by decide))
  have hhours := htwo (show minutes.natAbs / 60 < 60 by omega)
  have hminutes := htwo (show minutes.natAbs % 60 < 60 by omega)
  by_cases hbehind : minutes < 0
  · have hoffset := OffsetText.behind (Or.inl rfl) hhours hminutes (by omega) (by omega)
    rw [show -(((minutes.natAbs / 60 : Nat) : Int) * 3600 + (minutes.natAbs % 60 : Nat) * 60) =
      minutes * 60 by omega] at hoffset
    exact ⟨_, hoffset⟩
  · have hoffset := OffsetText.ahead hhours hminutes (by omega) (by omega)
    rw [show ((minutes.natAbs / 60 : Nat) : Int) * 3600 + (minutes.natAbs % 60 : Nat) * 60 =
      minutes * 60 by omega] at hoffset
    exact ⟨_, hoffset⟩

end Rfc3339

/-! ## Instants -/

open Rfc3339

namespace Instant

/-- The text spells the instant: what it shows is the local date and time of day. -/
inductive Spells (t : Instant) : List Char → Prop
  | mk {p : Parts} {cs : List Char}
      (hdate : IsDay ((t.second + p.offset) / 86400) ⟨p.year, p.month, p.day⟩)
      (hclock : p.Clock t) (htext : p.Text cs) : t.Spells cs

variable {t : Instant} {cs : List Char}

/-- What is shown of an instant at an offset, where it is that date. -/
def shown (t : Instant) (date : Date) (o : Int) : Parts where
  year := date.year
  month := date.month
  day := date.day
  hour := ((t.second + o) % 86400 / 3600).toNat
  minute := ((t.second + o) % 3600 / 60).toNat
  second := if t.nano < 1000000000 then ((t.second + o) % 60).toNat else 60
  nano := t.nano % 1000000000
  offset := o

theorem shown_clock (t : Instant) (date : Date) (o : Int) : (t.shown date o).Clock t := by
  have hnano := t.valid.2.2.1
  unfold shown
  refine ⟨?hour, ?minute, ?plain, ?leap⟩
  case hour => exact Int.toNat_of_nonneg (by omega)
  case minute => exact Int.toNat_of_nonneg (by omega)
  case plain =>
    intro hplain
    simp only [if_pos hplain]
    omega
  case leap =>
    intro hleap
    refine ⟨if_neg (Nat.not_lt.mpr hleap), ?_⟩
    show t.nano % 1000000000 + 1000000000 = t.nano
    omega

theorem shown_range (t : Instant) (date : Date) (o : Int) :
    (t.shown date o).hour < 100 ∧ (t.shown date o).minute < 100 ∧
      (t.shown date o).second < 100 := by
  unfold shown
  simp only
  refine ⟨by omega, by omega, ?_⟩
  split
  next => omega
  next => decide

/-- At an offset at which the year has four digits an instant is spelled with any separator, and
with any text of its fraction and of the offset. -/
theorem exists_spells {o : Int} {date : Date} {separator : Char} {fraction offset : List Char}
    (hdate : IsDay ((t.second + o) / 86400) date) (hyear : 0 ≤ date.year ∧ date.year ≤ 9999)
    (hseparator : separator = 'T' ∨ separator = 't' ∨ separator = ' ')
    (hfraction : FractionText (t.nano % 1000000000) fraction) (hoffset : OffsetText o offset) :
    ∃ day time, t.Spells (day ++ separator :: (time ++ (fraction ++ offset))) := by
  obtain ⟨hmonth, hday⟩ := hdate.toDays.1.two_digits
  obtain ⟨hhour, hminute, hsecond⟩ := t.shown_range date o
  have htwo : ∀ {n}, n < 100 → Digits 2 n (Decimal.padded 2 n) := fun hn =>
    digits_padded (by decide) hn
  have hfour : Digits 4 date.year.toNat (Decimal.padded 4 date.year.toNat) :=
    digits_padded (by decide) (show date.year.toNat < 10000 by omega)
  have htext : (t.shown date o).Text _ := .mk (Int.toNat_of_nonneg hyear.1).symm hfour (htwo hmonth)
    (htwo hday) hseparator (htwo hhour) (htwo hminute) (htwo hsecond) hfraction hoffset
  have hspells : t.Spells _ := .mk hdate (t.shown_clock date o) htext
  refine ⟨Decimal.padded 4 date.year.toNat ++ '-' :: (Decimal.padded 2 (t.shown date o).month ++
    '-' :: Decimal.padded 2 (t.shown date o).day), Decimal.padded 2 (t.shown date o).hour ++
      ':' :: (Decimal.padded 2 (t.shown date o).minute ++
        ':' :: Decimal.padded 2 (t.shown date o).second), ?_⟩
  simpa only [List.append_assoc, List.cons_append] using hspells

/-- Every text of an instant is read as the instant. -/
theorem read?_of_spells (h : t.Spells cs) : read? cs = some t := by
  obtain ⟨hdate, hclock, htext⟩ := h
  obtain ⟨hexists, hdays⟩ := hdate.toDays
  have hread := htext.read
  obtain ⟨hrange, hwhole⟩ := htext.offset_range
  have hyear := htext.year_range
  unfold read?
  rw [hread]
  exact Parts.instant?_of_clock hclock hexists hdays ⟨by omega, by omega⟩ hrange hwhole

-- one leap second in two places
example : read? "2016-12-31t23:59:60z".toList =
    some ⟨1483228799, 1000000000, by decide⟩ ∧
      read? "2017-01-01 05:44:60.000000000000+05:45".toList =
        some ⟨1483228799, 1000000000, by decide⟩ := by
  decide +kernel

end Instant

end Agora.Time
