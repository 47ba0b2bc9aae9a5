import Agora.Time.Calendar

/-!
# Instants

An instant is a second counted from 1970-01-01T00:00:00Z and a number of nanoseconds in it. A leap
second has no number of its own: it is the second half of the second before it, with nanoseconds
from 1000000000 on, and occurs only at the end of a minute. Instants lie in the years -262143 to
262142; addition says when it would leave them. The order is by second, then by nanoseconds.
-/

namespace Agora.Time

/-- The first second of the year -262143. -/
def earliestSecond : Int := -8334601228800

/-- The last second of the year 262142. -/
def latestSecond : Int := 8210266876799

/-- What the parts of an instant have to satisfy. -/
def IsInstant (second : Int) (nano : Nat) : Prop :=
  earliestSecond ≤ second ∧ second ≤ latestSecond ∧ nano < 2000000000 ∧
    (1000000000 ≤ nano → second % 60 = 59)

instance (second : Int) (nano : Nat) : Decidable (IsInstant second nano) :=
  inferInstanceAs (Decidable (_ ∧ _ ∧ _ ∧ (_ → _)))

structure Instant where
  second : Int
  nano : Nat
  valid : IsInstant second nano
deriving DecidableEq

namespace Instant

/-- The instant with the given parts, if there is one. -/
def ofParts? (second : Int) (nano : Nat) : Option Instant :=
  if h : IsInstant second nano then some ⟨second, nano, h⟩ else none

/-- The instant a number of nanoseconds after the start of 1970, no leap second among them. -/
def ofNanos? (n : Int) : Option Instant := ofParts? (n / 1000000000) (n % 1000000000).toNat

/-- The place of an instant on a line on which every second, leap second included, has two
thousand million ticks. -/
def ticks (t : Instant) : Int := t.second * 2000000000 + t.nano

instance : LE Instant := ⟨fun a b => a.ticks ≤ b.ticks⟩
instance : LT Instant := ⟨fun a b => a.ticks < b.ticks⟩
instance (a b : Instant) : Decidable (a ≤ b) := inferInstanceAs (Decidable (a.ticks ≤ b.ticks))
instance (a b : Instant) : Decidable (a < b) := inferInstanceAs (Decidable (a.ticks < b.ticks))

/-- Instants are told apart by their ticks. -/
theorem ticks_inj {a b : Instant} : a.ticks = b.ticks ↔ a = b := by
  constructor
  · intro h
    obtain ⟨s, n, hs⟩ := a
    obtain ⟨s', n', hs'⟩ := b
    simp only [ticks] at h
    have h1 := hs.2.2.1
    have h2 := hs'.2.2.1
    have : s = s' ∧ n = n' := by omega
    simp [this]
  · rintro rfl
    rfl

/-- The instant a number of seconds later, if it is in range. A leap second is left through its
start when going back and through its end when going forward. -/
def addSeconds? (t : Instant) (seconds : Int) : Option Instant :=
  if t.nano < 1000000000 ∨ seconds = 0 then ofParts? (t.second + seconds) t.nano
  else if 0 < seconds then ofParts? (t.second + seconds) (t.nano - 1000000000)
  else ofParts? (t.second + 1 + seconds) (t.nano - 1000000000)

end Instant

end Agora.Time
