/-!
# Results in a row

How a result of two computations in a row, either of which may end in an error, comes about, and
what is known of two results that cannot be told apart.
-/

namespace Agora.Result

variable {ε α β : Type}

/-- Both computations succeeded. -/
theorem bind_eq_ok {a : Except ε α} {f : α → Except ε β} {b : β} :
    a >>= f = .ok b ↔ ∃ v, a = .ok v ∧ f v = .ok b := by
  cases a with
  | error e =>
    constructor
    · intro h
      cases h
    · rintro ⟨_, h, _⟩
      cases h
  | ok v =>
    constructor
    · intro h
      exact ⟨v, rfl, h⟩
    · rintro ⟨_, h, hb⟩
      cases h
      exact hb

/-- One of the computations failed, the second one only after the first had succeeded. -/
theorem bind_eq_error {a : Except ε α} {f : α → Except ε β} {e : ε} :
    a >>= f = .error e ↔ a = .error e ∨ ∃ v, a = .ok v ∧ f v = .error e := by
  cases a with
  | error e' =>
    constructor
    · intro h
      cases h
      exact Or.inl rfl
    · rintro (h | ⟨_, h, _⟩)
      · cases h
        rfl
      · cases h
  | ok v =>
    constructor
    · intro h
      exact Or.inr ⟨v, rfl, h⟩
    · rintro (h | ⟨_, h, he⟩)
      · cases h
      · cases h
        exact he

/-- Two results look the same from outside: they are one answer, or two errors that look the
same. -/
theorem mapError_eq_mapError {δ : Type} {view : ε → δ} {r r' : Except ε α}
    (h : r'.mapError view = r.mapError view) :
    (∃ v, r = .ok v ∧ r' = .ok v) ∨
      ∃ e e', r = .error e ∧ r' = .error e' ∧ view e' = view e := by
  cases r with
  | ok v =>
    cases r' with
    | ok v' =>
      cases h
      exact Or.inl ⟨v, rfl, rfl⟩
    | error e' => cases h
  | error e =>
    cases r' with
    | ok v' => cases h
    | error e' => exact Or.inr ⟨e, e', rfl, rfl, Except.error.inj h⟩

end Agora.Result
