import Agora.Proofs.Decimal
import Agora.Proofs.Time.Calendar
import Agora.Time.Rfc3339

/-!
# Instants come back from their text

Main result: `readLoose?_toChars`, the text that an instant is written as is read as that instant,
for every nanosecond and leap second of every year that instants lie in. The reader is taken through
the text part by part (`looseParts?_toChars`); what it has then names the instant
(`instant?_parts`), since the date of a day exists and lies where the day does. At any offset a date
and a time of day name an instant in this way (`instant?_of_clock`).
-/

namespace Agora.Time

namespace Rfc3339

open Decimal (IsDigit)

variable {ds rest : List Char}

/-! ## Digits -/

/-- What comes next is no digit. -/
def Stops (rest : List Char) : Prop := ∀ c, rest.head? = some c → ¬IsDigit c

theorem stops_nil : Stops [] := by
  intro c hc
  cases hc

theorem stops_cons {c : Char} (hc : ¬IsDigit c) (rest : List Char) : Stops (c :: rest) := by
  intro d hd
  cases hd
  exact hc

/-- The digits of a text end where no digit comes. -/
theorem takeWhile_digits (hds : ∀ c ∈ ds, IsDigit c) (hrest : Stops rest) :
    ((ds ++ rest).takeWhile fun c => (Decimal.digit? c).isSome) = ds := by
  rw [List.takeWhile_append_of_pos fun c hc => Decimal.digit?_isSome.mpr (hds c hc)]
  cases rest with
  | nil => rw [List.takeWhile_nil, List.append_nil]
  | cons c rest =>
    have hc : ¬(Decimal.digit? c).isSome = true := by
      rw [Decimal.digit?_isSome]
      exact hrest c rfl
    simp [hc]

/-- Digits are read up to the first other character, or as many as are asked for. -/
theorem digits?_append {most : Nat} (hds : ∀ c ∈ ds, IsDigit c) (hmost : ds.length ≤ most)
    (hrest : ds.length = most ∨ Stops rest) :
    digits? most (ds ++ rest) = (Decimal.nat? ds).map fun n => (n, rest) := by
  have hstop : Stops (rest.take (most - ds.length)) := by
    obtain hfull | hstop := hrest
    · rw [hfull, Nat.sub_self]
      exact stops_nil
    · intro c hc
      rw [List.head?_take] at hc
      split at hc
      next => cases hc
      next => exact hstop c hc
  unfold digits?
  rw [List.take_append, List.take_of_length_le hmost]
  simp only
  rw [takeWhile_digits hds hstop, List.drop_left]
  cases Decimal.nat? ds with
  | none => rfl
  | some n => rfl

theorem digits?_padded {width n : Nat} (hwidth : 0 < width) (h : n < Nat.pow 10 width)
    (rest : List Char) : digits? width (Decimal.padded width n ++ rest) = some (n, rest) := by
  rw [digits?_append (fun c hc => Decimal.isDigit_of_mem_padded hc)
    (Nat.le_of_eq (Decimal.length_padded width n)) (Or.inl (Decimal.length_padded width n)),
    Decimal.nat?_padded hwidth h, Option.map_some]

/-! ## Blanks -/

theorem trimStart_cons {c : Char} (hc : Text.isBlank c = false) (rest : List Char) :
    Text.trimStart (c :: rest) = c :: rest := by
  unfold Text.trimStart
  rw [List.dropWhile_cons_of_neg (by simp [hc])]

theorem isBlank_of_isDigit {c : Char} (h : IsDigit c) : Text.isBlank c = false := by
  obtain ⟨hlow, hhigh⟩ := h
  rw [Text.char_le_iff] at hlow hhigh
  have hlow : 48 ≤ c.toNat := hlow
  have hhigh : c.toNat ≤ 57 := hhigh
  unfold Text.isBlank
  simp only [Bool.or_eq_false_iff, Bool.and_eq_false_iff, decide_eq_false_iff_not,
    beq_eq_false_iff_ne]
  omega

theorem trimStart_padded {width : Nat} (hwidth : 0 < width) (n : Nat) (rest : List Char) :
    Text.trimStart (Decimal.padded width n ++ rest) = Decimal.padded width n ++ rest := by
  have hne : Decimal.padded width n ≠ [] :=
    List.ne_nil_of_length_pos (by rw [Decimal.length_padded]; exact hwidth)
  obtain ⟨c, ds, hcs⟩ := List.exists_cons_of_ne_nil hne
  have hmem : c ∈ Decimal.padded width n := by
    rw [hcs]
    exact List.mem_cons_self
  have hc : IsDigit c := Decimal.isDigit_of_mem_padded hmem
  rw [hcs, List.cons_append]
  exact trimStart_cons (isBlank_of_isDigit hc) _

/-! ## The parts of a text -/

/-- A part of two digits is read after its mark. -/
theorem looseNext?_padded {c : Char} (hc : Text.isBlank c = false) {n : Nat} (h : n < 100)
    (rest : List Char) :
    looseNext? c (c :: (Decimal.padded 2 n ++ rest)) = some (n, rest) := by
  unfold looseNext?
  rw [trimStart_cons hc, char?, if_pos rfl]
  show digits? 2 (Text.trimStart (Decimal.padded 2 n ++ rest)) = _
  rw [trimStart_padded (by decide), digits?_padded (by decide) h]

theorem fraction?_append (hds : ∀ c ∈ ds, IsDigit c) (hrest : Stops rest) :
    fraction? ('.' :: (ds ++ rest)) = (Decimal.nat? (ds.take 9)).map fun n =>
      (n * Nat.pow 10 (9 - (ds.take 9).length), rest) := by
  unfold fraction?
  simp only
  rw [takeWhile_digits hds hrest, List.drop_left]
  cases Decimal.nat? (ds.take 9) with
  | none => rfl
  | some n => rfl

/-- A fraction of some of the nine digits. -/
theorem fraction?_padded {width n : Nat} (hwidth : 0 < width) (hnine : width ≤ 9)
    (h : n < Nat.pow 10 width) (hrest : Stops rest) :
    fraction? ('.' :: (Decimal.padded width n ++ rest)) =
      some (n * Nat.pow 10 (9 - width), rest) := by
  have hall : (Decimal.padded width n).take 9 = Decimal.padded width n :=
    List.take_of_length_le (by rw [Decimal.length_padded]; exact hnine)
  rw [fraction?_append (fun c hc => Decimal.isDigit_of_mem_padded hc) hrest, hall,
    Decimal.nat?_padded hwidth h, Decimal.length_padded, Option.map_some]

/-- The fraction of a second is read back from the text that leaves zeros out. -/
theorem fraction?_fractionText {nano : Nat} (h : nano < 1000000000) (rest : List Char) :
    fraction? (fractionText nano ++ 'Z' :: rest) = some (nano, 'Z' :: rest) := by
  have hrest : Stops ('Z' :: rest) := stops_cons (by simp [IsDigit]) rest
  unfold fractionText
  split
  next hzero =>
    rw [hzero]
    rfl
  next =>
    split
    next hmilli =>
      rw [List.cons_append, fraction?_padded (by decide) (by decide) _ hrest]
      · show some (nano / 1000000 * 1000000, _) = _
        rw [Nat.div_mul_cancel (Nat.dvd_of_mod_eq_zero hmilli)]
      · show nano / 1000000 < 1000
        omega
    next =>
      split
      next hmicro =>
        rw [List.cons_append, fraction?_padded (by decide) (by decide) _ hrest]
        · show some (nano / 1000 * 1000, _) = _
          rw [Nat.div_mul_cancel (Nat.dvd_of_mod_eq_zero hmicro)]
        · show nano / 1000 < 1000000
          omega
      next =>
        rw [List.cons_append, fraction?_padded (by decide) (by decide) h hrest]
        rw [Nat.sub_self]
        show some (nano * 1, _) = _
        rw [Nat.mul_one]

/-- A sign is no digit. -/
theorem looseYear?_of_isDigit {c : Char} (hc : IsDigit c) (cs : List Char) :
    looseYear? (c :: cs) = (digits? 4 (c :: cs)).map fun r => ((r.1 : Int), r.2) := by
  unfold looseYear?
  split
  next heq =>
    cases heq
    simp [IsDigit] at hc
  next heq =>
    cases heq
    simp [IsDigit] at hc
  next => rfl

/-- The digits after a sign, of which there are four or more. -/
theorem digits?_signed (n : Nat) (hrest : Stops rest) :
    let cs := (if n ≤ 9999 then Decimal.padded 4 n else Decimal.ofNat n) ++ rest
    digits? cs.length cs = some (n, rest) := by
  have hmost : ∀ ds : List Char, ds.length ≤ (ds ++ rest).length := by
    intro ds
    rw [List.length_append]
    exact Nat.le_add_right _ _
  simp only
  split
  next hfour =>
    rw [digits?_append (fun c hc => Decimal.isDigit_of_mem_padded hc) (hmost _) (Or.inr hrest),
      Decimal.nat?_padded (by decide) (Nat.lt_succ_of_le hfour), Option.map_some]
  next =>
    rw [digits?_append (fun c hc => Decimal.isDigit_of_mem_ofNat hc) (hmost _) (Or.inr hrest),
      Decimal.nat?_ofNat, Option.map_some]

/-- A year is read back, with its sign if it has one. -/
theorem looseYear?_yearText (y : Int) (hrest : Stops rest) :
    looseYear? (yearText y ++ rest) = some (y, rest) := by
  have hsigned := digits?_signed y.natAbs hrest
  unfold yearText
  split
  next hplain =>
    obtain ⟨c, ds, hcs⟩ := List.exists_cons_of_ne_nil (List.ne_nil_of_length_pos
      (show 0 < (Decimal.padded 4 y.toNat).length by rw [Decimal.length_padded]; decide))
    have hmem : c ∈ Decimal.padded 4 y.toNat := by
      rw [hcs]
      exact List.mem_cons_self
    have hc : IsDigit c := Decimal.isDigit_of_mem_padded hmem
    have hread : digits? 4 (Decimal.padded 4 y.toNat ++ rest) = some (y.toNat, rest) :=
      digits?_padded (by decide) (show y.toNat < 10000 by omega) rest
    rw [hcs, List.cons_append] at hread ⊢
    rw [looseYear?_of_isDigit hc, hread]
    show some ((y.toNat : Int), rest) = _
    rw [Int.toNat_of_nonneg hplain.1]
  next hsign =>
    simp only at hsigned
    rw [List.cons_append]
    by_cases hneg : y < 0
    · rw [if_pos hneg, looseYear?, hsigned]
      show some (-(y.natAbs : Int), rest) = _
      rw [show -(y.natAbs : Int) = y by omega]
    · rw [if_neg hneg, looseYear?, hsigned]
      show some ((y.natAbs : Int), rest) = _
      rw [show (y.natAbs : Int) = y by omega]

/-- A year does not begin with a blank. -/
theorem trimStart_yearText (y : Int) (rest : List Char) :
    Text.trimStart (yearText y ++ rest) = yearText y ++ rest := by
  unfold yearText
  split
  next => exact trimStart_padded (by decide) _ rest
  next =>
    rw [List.cons_append]
    apply trimStart_cons
    split
    next => decide
    next => decide

end Rfc3339

/-! ## Whole texts -/

open Rfc3339

/-- A date that exists has a month and a day of two digits. -/
theorem Date.Exists.two_digits {d : Date} (h : d.Exists) : d.month < 100 ∧ d.day < 100 := by
  obtain ⟨hfirst, hlast⟩ := h
  unfold daysInMonth at hlast
  split at hlast
  case h_12 =>
    split at hlast
    next => omega
    next => omega
  all_goals omega

namespace Instant

/-- What there is to read in the text of an instant. -/
def parts (t : Instant) : Parts where
  year := (Date.ofDays (t.second / 86400)).year
  month := (Date.ofDays (t.second / 86400)).month
  day := (Date.ofDays (t.second / 86400)).day
  hour := (t.second % 86400).toNat / 3600
  minute := (t.second % 86400).toNat / 60 % 60
  second := (t.second % 60).toNat + (if t.nano < 1000000000 then 0 else 1)
  nano := if t.nano < 1000000000 then t.nano else t.nano - 1000000000
  offset := 0

/-- The text of an instant is made from its parts. -/
theorem toChars_eq (t : Instant) :
    t.toChars = yearText t.parts.year ++ '-' :: (Decimal.padded 2 t.parts.month ++
      '-' :: (Decimal.padded 2 t.parts.day ++ 'T' :: (Decimal.padded 2 t.parts.hour ++
        ':' :: (Decimal.padded 2 t.parts.minute ++ ':' :: (Decimal.padded 2 t.parts.second ++
          (fractionText t.parts.nano ++ ['Z'])))))) := by
  unfold toChars minuteText parts
  split
  next => simp [List.append_assoc]
  next => simp [List.append_assoc]

theorem ofParts?_self (t : Instant) {second : Int} {nano : Nat} (hsecond : second = t.second)
    (hnano : nano = t.nano) : ofParts? second nano = some t := by
  subst hsecond hnano
  unfold ofParts?
  rw [dif_pos t.valid]

/-- All parts but the year have two digits, and make a time of day. -/
theorem parts_range (t : Instant) :
    (t.parts.month < 100 ∧ t.parts.day < 100) ∧ t.parts.hour < 24 ∧ t.parts.minute < 60 ∧
      t.parts.second ≤ 60 ∧ t.parts.nano < 1000000000 := by
  have hnano := t.valid.2.2.1
  refine ⟨(exists_ofDays (t.second / 86400)).two_digits, ?_, ?_, ?_, ?_⟩
  · show (t.second % 86400).toNat / 3600 < 24
    omega
  · show (t.second % 86400).toNat / 60 % 60 < 60
    omega
  · show (t.second % 60).toNat + (if t.nano < 1000000000 then 0 else 1) ≤ 60
    split <;> omega
  · show (if t.nano < 1000000000 then t.nano else t.nano - 1000000000) < 1000000000
    split <;> omega

theorem looseParts?_toChars (t : Instant) : looseParts? t.toChars = some t.parts := by
  obtain ⟨⟨hmonth, hday⟩, hhour, hminute, hsecond, hnano⟩ := t.parts_range
  have hdash : Text.isBlank '-' = false := by decide
  have hcolon : Text.isBlank ':' = false := by decide
  rw [toChars_eq]
  unfold looseParts?
  rw [trimStart_yearText, looseYear?_yearText _ (stops_cons (by simp [Decimal.IsDigit]) _)]
  simp only [Option.bind_eq_bind, Option.bind_some]
  rw [looseNext?_padded hdash hmonth, Option.bind_some, looseNext?_padded hdash hday,
    Option.bind_some, separator?, if_pos (Or.inl rfl), Option.bind_some,
    trimStart_padded (by decide), digits?_padded (by decide) (Nat.lt_trans hhour (by decide)),
    Option.bind_some, looseNext?_padded hcolon (by omega), Option.bind_some,
    looseNext?_padded hcolon (by omega), Option.bind_some, fraction?_fractionText hnano,
    Option.bind_some]
  rfl

end Instant

namespace Rfc3339.Parts

/-- The time of day is that of an instant, where clocks are ahead of UTC by the offset. -/
structure Clock (p : Parts) (t : Instant) : Prop where
  hour : (p.hour : Int) = (t.second + p.offset) % 86400 / 3600
  minute : (p.minute : Int) = (t.second + p.offset) % 3600 / 60
  plain : t.nano < 1000000000 → (p.second : Int) = (t.second + p.offset) % 60 ∧ p.nano = t.nano
  /-- A leap second is the second after the last one of its minute. -/
  leap : 1000000000 ≤ t.nano → p.second = 60 ∧ p.nano + 1000000000 = t.nano

/-- An instant is named by its local date and the time of day. -/
theorem instant?_of_clock {p : Parts} {t : Instant} (hclock : p.Clock t)
    (hexists : (⟨p.year, p.month, p.day⟩ : Date).Exists)
    (hdays : (⟨p.year, p.month, p.day⟩ : Date).toDays = (t.second + p.offset) / 86400)
    (hyear : -262143 ≤ p.year ∧ p.year ≤ 262142)
    (hoffset : -86400 < p.offset ∧ p.offset < 86400) (hwhole : p.offset % 60 = 0) :
    p.instant? = some t := by
  obtain ⟨_, _, _, hleap⟩ := t.valid
  obtain ⟨hhour, hminute, hplain, hend⟩ := hclock
  -- the local time up to the minute
  have hminutes : (⟨p.year, p.month, p.day⟩ : Date).toDays * 86400 + p.hour * 3600 +
      p.minute * 60 - p.offset = t.second - (t.second + p.offset) % 60 := by
    rw [hdays]
    omega
  unfold instant?
  simp only
  by_cases hnano : t.nano < 1000000000
  · obtain ⟨hsecond, hsame⟩ := hplain hnano
    rw [if_pos ⟨hexists, by omega, by omega, by omega, hoffset.1, hoffset.2, hyear.1, hyear.2⟩,
      if_neg (by omega)]
    exact t.ofParts?_self (by omega) hsame
  · obtain ⟨hsecond, hrest⟩ := hend (by omega)
    have hlast := hleap (by omega)
    rw [if_pos ⟨hexists, by omega, by omega, by omega, hoffset.1, hoffset.2, hyear.1, hyear.2⟩,
      if_pos hsecond]
    exact t.ofParts?_self (by omega) (by omega)

end Rfc3339.Parts

namespace Instant

theorem parts_clock (t : Instant) : t.parts.Clock t := by
  have hnano := t.valid.2.2.1
  have hleap := t.valid.2.2.2
  unfold parts
  refine ⟨?hour, ?minute, ?plain, ?leap⟩
  case hour =>
    simp only
    omega
  case minute =>
    simp only
    omega
  case plain =>
    intro hplain
    refine ⟨?_, if_pos hplain⟩
    simp only [if_pos hplain]
    omega
  case leap =>
    intro hend
    simp only [if_neg (Nat.not_lt.mpr hend)]
    omega

/-- Every instant is named by its parts. -/
theorem instant?_parts (t : Instant) : t.parts.instant? = some t := by
  obtain ⟨hearliest, hlatest, _, _⟩ := t.valid
  have hday : earliestSecond / 86400 ≤ t.second / 86400 ∧
      t.second / 86400 ≤ latestSecond / 86400 := by
    unfold earliestSecond latestSecond at *
    omega
  refine Rfc3339.Parts.instant?_of_clock t.parts_clock (exists_ofDays (t.second / 86400)) ?_
    (year_ofDays hday.1 hday.2) (show (-86400 : Int) < 0 ∧ (0 : Int) < 86400 by decide) rfl
  show (Date.ofDays (t.second / 86400)).toDays = (t.second + 0) / 86400
  rw [toDays_ofDays, Int.add_zero]

end Instant

/-- An instant comes back from its text. -/
theorem readLoose?_toChars (t : Instant) : Instant.readLoose? t.toChars = some t := by
  unfold Instant.readLoose?
  rw [t.looseParts?_toChars]
  exact t.instant?_parts

end Agora.Time
