import Agora.Social.World

/-!
# Tables behind their lock

A change of the tables that is made as a whole leaves the lock free; one that breaks down leaves
what it had written, and the lock with nobody to give it back. From then on nothing that needs the
tables is answered (`onStore_of_poisoned`).
-/

namespace Agora.Social.World

variable {w w' : World} {ε α : Type} {change : Store → Ending Store ε α}

theorem tables?_of_free (h : w.poisoned = false) : w.tables? = some w.store := by
  unfold tables?
  rw [h]
  rfl

theorem tables?_of_poisoned (h : w.poisoned = true) : w.tables? = none := by
  unfold tables?
  rw [h]
  rfl

theorem tables?_eq_none : w.tables? = none ↔ w.poisoned = true := by
  cases h : w.poisoned with
  | true => simp [tables?_of_poisoned h]
  | false => simp [tables?_of_free h]

/-- What is read under the lock is what the tables say. -/
theorem map_tables?_eq_some {β : Type} {f : Store → β} {b : β} :
    w.tables?.map f = some b ↔ w.poisoned = false ∧ f w.store = b := by
  cases h : w.poisoned with
  | true => simp [tables?_of_poisoned h]
  | false => simp [tables?_of_free h]

theorem onStore_of_poisoned (h : w.poisoned = true) (change : Store → Ending Store ε α) :
    w.onStore change = .broken w := by
  unfold onStore
  rw [tables?_of_poisoned h]

theorem onStore_of_free (h : w.poisoned = false) (change : Store → Ending Store ε α) :
    w.onStore change = match change w.store with
      | .ok (a, store) => .ok (a, { w with store })
      | .error e => .error e
      | .broken store => .broken { w with store, poisoned := true } := by
  have htables : w.tables? = some w.store := tables?_of_free h
  unfold onStore
  generalize w.tables? = tables at htables ⊢
  subst htables
  rfl

theorem onStore_eq_ok {a : α} (h : w.onStore change = .ok (a, w')) :
    w.poisoned = false ∧ ∃ store, change w.store = .ok (a, store) ∧ w' = { w with store } := by
  obtain hlock | hlock := Bool.eq_false_or_eq_true w.poisoned
  · rw [onStore_of_poisoned hlock] at h
    cases h
  · rw [onStore_of_free hlock] at h
    cases hchange : change w.store with
    | ok result =>
      rw [hchange] at h
      obtain ⟨rfl, rfl⟩ := Prod.mk.inj (Ending.ok.inj h)
      exact ⟨hlock, _, rfl, rfl⟩
    | error e =>
      rw [hchange] at h
      cases h
    | broken store =>
      rw [hchange] at h
      cases h

theorem onStore_eq_error {e : ε} (h : w.onStore change = .error e) :
    w.poisoned = false ∧ change w.store = .error e := by
  obtain hlock | hlock := Bool.eq_false_or_eq_true w.poisoned
  · rw [onStore_of_poisoned hlock] at h
    cases h
  · rw [onStore_of_free hlock] at h
    cases hchange : change w.store with
    | ok result =>
      rw [hchange] at h
      cases h
    | error e =>
      rw [hchange] at h
      obtain rfl := Ending.error.inj h
      exact ⟨hlock, rfl⟩
    | broken store =>
      rw [hchange] at h
      cases h

/-- The lock could not be had, or it was kept. -/
theorem onStore_eq_broken (h : w.onStore change = .broken w') :
    (w.poisoned = true ∧ w' = w) ∨
      (w.poisoned = false ∧ ∃ store, change w.store = .broken store ∧
        w' = { w with store, poisoned := true }) := by
  obtain hlock | hlock := Bool.eq_false_or_eq_true w.poisoned
  · rw [onStore_of_poisoned hlock] at h
    exact Or.inl ⟨hlock, (Ending.broken.inj h).symm⟩
  · rw [onStore_of_free hlock] at h
    cases hchange : change w.store with
    | ok result =>
      rw [hchange] at h
      cases h
    | error e =>
      rw [hchange] at h
      cases h
    | broken store =>
      rw [hchange] at h
      exact Or.inr ⟨hlock, _, rfl, (Ending.broken.inj h).symm⟩

end Agora.Social.World
