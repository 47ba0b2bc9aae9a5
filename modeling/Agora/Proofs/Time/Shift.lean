import Agora.Proofs.Time.Rfc3339

/-!
# Instants that lie seconds apart

`Later` and `Earlier` say where the instant lies that is a number of seconds after another one, or
before it: at the same fraction of a second, a leap second being left through its end or through its
start. Main results: `addSeconds?_later` and `addSeconds?_earlier`, by which seconds that are added
lead there, and `exists_later_iff` and `exists_earlier_iff`, by which there is such an instant as
long as the years last.
-/

namespace Agora.Time.Instant

variable {t t' : Instant} {n : Nat}

/-- The number of the second that begins when the leap second ends, or else of this one. -/
def secondAfterLeap (t : Instant) : Int := if t.nano < 1000000000 then t.second else t.second + 1

/-- The instant `t'` lies `n` seconds after `t`. -/
structure Later (n : Nat) (t t' : Instant) : Prop where
  second : t'.second = t.second + n
  nano : t'.nano = if n = 0 then t.nano else t.nano % 1000000000

/-- The instant `t'` lies `n` seconds before `t`. -/
structure Earlier (n : Nat) (t t' : Instant) : Prop where
  second : t'.second = t.secondAfterLeap - n
  nano : t'.nano = t.nano % 1000000000

theorem ofParts?_eq_some {second : Int} {nano : Nat} :
    ofParts? second nano = some t ↔ t.second = second ∧ t.nano = nano := by
  constructor
  · intro h
    unfold ofParts? at h
    split at h
    next =>
      cases h
      exact ⟨rfl, rfl⟩
    next => cases h
  · rintro ⟨hsecond, hnano⟩
    exact t.ofParts?_self hsecond.symm hnano.symm

/-- The fraction of a second, once a leap second is left. -/
theorem fraction_eq (t : Instant) :
    t.nano % 1000000000 = if t.nano < 1000000000 then t.nano else t.nano - 1000000000 := by
  have hnano := t.valid.2.2.1
  split <;> omega

theorem addSeconds?_later : t.addSeconds? n = some t' ↔ Later n t t' := by
  have hfraction := fraction_eq t
  unfold addSeconds?
  by_cases hn : n = 0
  · subst hn
    rw [if_pos (Or.inr Int.natCast_zero), ofParts?_eq_some]
    exact ⟨fun h => ⟨h.1, h.2⟩, fun h => ⟨h.second, h.nano⟩⟩
  by_cases hleap : t.nano < 1000000000
  · rw [if_pos (Or.inl hleap), ofParts?_eq_some]
    rw [if_pos hleap] at hfraction
    exact ⟨fun h => ⟨h.1, by rw [if_neg hn, hfraction, h.2]⟩,
      fun h => ⟨h.second, by rw [h.nano, if_neg hn, hfraction]⟩⟩
  · rw [if_neg (by omega), if_pos (by omega), ofParts?_eq_some]
    rw [if_neg hleap] at hfraction
    exact ⟨fun h => ⟨h.1, by rw [if_neg hn, hfraction, h.2]⟩,
      fun h => ⟨h.second, by rw [h.nano, if_neg hn, hfraction]⟩⟩

theorem addSeconds?_earlier (hn : 0 < n) : t.addSeconds? (-n) = some t' ↔ Earlier n t t' := by
  have hfraction := fraction_eq t
  have hparts : t.addSeconds? (-n) = ofParts? (t.secondAfterLeap - n) (t.nano % 1000000000) := by
    unfold addSeconds? secondAfterLeap
    by_cases hleap : t.nano < 1000000000
    · rw [if_pos (Or.inl hleap), hfraction, if_pos hleap, if_pos hleap]
      rfl
    · rw [if_neg (by omega), if_neg (by omega), hfraction, if_neg hleap, if_neg hleap]
      rfl
  rw [hparts, ofParts?_eq_some]
  exact ⟨fun h => ⟨h.1, h.2⟩, fun h => ⟨h.second, h.nano⟩⟩

/-! ## In which order they stand -/

theorem Later.le (h : Later n t t') : t ≤ t' := by
  have hnano := t.valid.2.2.1
  have hfraction := h.nano
  show t.second * 2000000000 + t.nano ≤ t'.second * 2000000000 + t'.nano
  rw [h.second]
  split at hfraction <;> omega

theorem Earlier.lt (h : Earlier n t t') (hn : 0 < n) : t' < t := by
  have hsecond := h.second
  have hfraction := h.nano
  show t'.second * 2000000000 + t'.nano < t.second * 2000000000 + t.nano
  unfold secondAfterLeap at hsecond
  split at hsecond <;> omega

/-! ## Whether there is one -/

theorem exists_later_iff : (∃ t', Later n t t') ↔ t.second + n ≤ latestSecond := by
  constructor
  · rintro ⟨t', h⟩
    have hlatest := t'.valid.2.1
    rwa [h.second] at hlatest
  · intro h
    obtain ⟨hearliest, _, hnano, hleap⟩ := t.valid
    have hvalid : IsInstant (t.second + n) (if n = 0 then t.nano else t.nano % 1000000000) := by
      refine ⟨by omega, h, ?_, ?_⟩ <;> split <;> omega
    exact ⟨⟨_, _, hvalid⟩, rfl, rfl⟩

theorem exists_earlier_iff (hn : 0 < n) :
    (∃ t', Earlier n t t') ↔ earliestSecond ≤ t.secondAfterLeap - n := by
  constructor
  · rintro ⟨t', h⟩
    have hearliest := t'.valid.1
    rwa [h.second] at hearliest
  · intro h
    obtain ⟨_, hlatest, _, _⟩ := t.valid
    have hvalid : IsInstant (t.secondAfterLeap - n) (t.nano % 1000000000) := by
      refine ⟨h, ?_, by omega, by omega⟩
      unfold secondAfterLeap
      split <;> omega
    exact ⟨⟨_, _, hvalid⟩, rfl, rfl⟩

end Agora.Time.Instant
