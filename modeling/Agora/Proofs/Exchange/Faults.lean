import Agora.Proofs.Exchange.Time

/-!
# Calls that are never cut

Without a deadline a call does what the first fault of its name leaves of it: the fault's error, no
row, or its effect. `write_ends` and `lookup_ends` say which, in terms of the faults that were to
come. Calls of other names do not matter to that (`takeFault_of_ne`).
-/

namespace Agora

namespace Exchange

variable {World Call : Type} {x y : Exchange World Call}

/-- The error with which the next call of a name fails. -/
def errorFor (faults : List Fault) (name : String) : Option StoreError :=
  (takeFault name faults).1.bind (·.error)

/-- The next call of a name finds no row, where it may say so. -/
def missesFor (faults : List Fault) (name : String) : Bool :=
  (takeFault name faults).1.any (·.missing)

/-- A call uses up no fault of another name. -/
theorem takeFault_of_ne {name other : String} (h : other ≠ name) (faults : List Fault) :
    (takeFault name (takeFault other faults).2).1 = (takeFault name faults).1 := by
  induction faults with
  | nil => rfl
  | cons fault rest ih =>
    by_cases hother : fault.target = other
    · have hname : fault.target ≠ name := fun h' => h (hother.symm.trans h')
      rw [takeFault, if_pos hother, takeFault, if_neg hname]
    · rw [takeFault, if_neg hother]
      by_cases hname : fault.target = name
      · simp only [takeFault, if_pos hname]
      · simp only [takeFault, if_neg hname, ih]

theorem errorFor_of_ne {name other : String} (h : other ≠ name) (faults : List Fault) :
    errorFor (takeFault other faults).2 name = errorFor faults name := by
  unfold errorFor
  rw [takeFault_of_ne h]

theorem not_cuts_of_no_deadline [HasName Call] (h : x.deadline = none) (c : Call) : ¬x.Cuts c := by
  rintro ⟨_, deadline, hdeadline, _⟩
  rw [h] at hdeadline
  cases hdeadline

theorem error_faultOf [HasName Call] (x : Exchange World Call) (c : Call) :
    (x.faultOf c).error = errorFor x.faults (HasName.name c) := by
  unfold faultOf errorFor
  cases (takeFault (HasName.name c) x.faults).1 <;> rfl

theorem missing_faultOf [HasName Call] (x : Exchange World Call) (c : Call) :
    (x.faultOf c).missing = missesFor x.faults (HasName.name c) := by
  unfold faultOf missesFor
  cases (takeFault (HasName.name c) x.faults).1 <;> rfl

/-- The exchange that a call leaves behind, apart from the world. -/
structure Passed [HasName Call] (x : Exchange World Call) (c : Call) (y : Exchange World Call) :
    Prop where
  calls : y.calls = x.calls ++ [c]
  deadline : y.deadline = x.deadline
  faults : y.faults = (takeFault (HasName.name c) x.faults).2

@[simp] theorem waitFor_world [HasName Call] (x : Exchange World Call) (c : Call) :
    (x.waitFor c).world = x.world := rfl

theorem apply_run {α : Type} (x : Exchange World Call)
    (effect : World → Ending World StoreError α) :
    x.apply effect = match effect x.world with
      | .ok (a, world) => (.ok a, { x with world })
      | .error error => (.error (.refused (.store error)), x)
      | .broken world => (.error .abandoned, { x with world }) := rfl

theorem passed_of_call [HasName Call] {α : Type} {c : Call} {absent : Option α}
    {effect : World → Ending World StoreError α} {r : Except (Stop Failure) α}
    (h : x.call c absent effect = (r, y)) : Passed x c y :=
  ⟨(call_cases h).1, (left_of_call h).1, (left_of_call h).2⟩

end Exchange

namespace Action

open Exchange

variable {World Call α : Type} {x y : Exchange World Call} [HasName Call] {c : Call}

/-- How a change ends that is not cut. -/
theorem write_ends {effect : World → Ending World StoreError α} {r : Except (Stop Failure) α}
    (hdeadline : x.deadline = none) (h : write c effect x = (r, y)) :
    Passed x c y ∧
      ((∃ e, errorFor x.faults (HasName.name c) = some e ∧ r = .error (.refused (.store e)) ∧
          y.world = x.world) ∨
        (errorFor x.faults (HasName.name c) = none ∧
          ((∃ e, effect x.world = .error e ∧ r = .error (.refused (.store e)) ∧
              y.world = x.world) ∨
            (∃ a, effect x.world = .ok (a, y.world) ∧ r = .ok a) ∨
            (effect x.world = .broken y.world ∧ r = .error .abandoned)))) := by
  refine ⟨passed_of_call h, ?_⟩
  unfold write at h
  rw [call_of_not_cuts (not_cuts_of_no_deadline hdeadline c)] at h
  rw [← error_faultOf]
  -- a change has no row to miss, so that only the error of a fault counts
  have hfaulted : faulted? (x.faultOf c) (none : Option α) = (x.faultOf c).error.map .error := by
    unfold faulted?
    cases (x.faultOf c).error <;> rfl
  rw [hfaulted] at h
  cases herror : (x.faultOf c).error with
  | some e =>
    rw [herror] at h
    obtain ⟨rfl, rfl⟩ := Prod.mk.inj h
    exact Or.inl ⟨e, rfl, rfl, rfl⟩
  | none =>
    rw [herror] at h
    refine Or.inr ⟨rfl, ?_⟩
    rw [Option.map_none, apply_run, waitFor_world] at h
    cases heffect : effect x.world with
    | error e =>
      rw [heffect] at h
      obtain ⟨rfl, rfl⟩ := Prod.mk.inj h
      exact Or.inl ⟨e, rfl, rfl, rfl⟩
    | ok result =>
      rw [heffect] at h
      obtain ⟨rfl, rfl⟩ := Prod.mk.inj h
      exact Or.inr (Or.inl ⟨result.1, rfl, rfl⟩)
    | broken world =>
      rw [heffect] at h
      obtain ⟨rfl, rfl⟩ := Prod.mk.inj h
      exact Or.inr (Or.inr ⟨rfl, rfl⟩)

/-- How a change ends that is not cut and does not break down. -/
theorem write_ends_whole {effect : World → Ending World StoreError α}
    {r : Except (Stop Failure) α} (hdeadline : x.deadline = none)
    (hwhole : ∀ w, effect x.world ≠ .broken w) (h : write c effect x = (r, y)) :
    Passed x c y ∧
      ((∃ e, (errorFor x.faults (HasName.name c) = some e ∨
            errorFor x.faults (HasName.name c) = none ∧ effect x.world = .error e) ∧
          r = .error (.refused (.store e)) ∧ y.world = x.world) ∨
        (errorFor x.faults (HasName.name c) = none ∧
          ∃ a, effect x.world = .ok (a, y.world) ∧ r = .ok a)) := by
  obtain ⟨hpassed, ⟨e, herror, hr, hleft⟩ |
    ⟨hcalm, ⟨e, heffect, hr, hleft⟩ | hdone | ⟨hbroken, _⟩⟩⟩ := write_ends hdeadline h
  · exact ⟨hpassed, Or.inl ⟨e, Or.inl herror, hr, hleft⟩⟩
  · exact ⟨hpassed, Or.inl ⟨e, Or.inr ⟨hcalm, heffect⟩, hr, hleft⟩⟩
  · exact ⟨hpassed, Or.inr ⟨hcalm, hdone⟩⟩
  · exact absurd hbroken (hwhole _)

/-- How a search ends that is not cut. -/
theorem lookup_ends {answer : World → Option (Option α)}
    {r : Except (Stop Failure) (Option α)} (hdeadline : x.deadline = none)
    (h : lookup c answer x = (r, y)) :
    Passed x c y ∧ y.world = x.world ∧
      ((∃ e, errorFor x.faults (HasName.name c) = some e ∧ r = .error (.refused (.store e))) ∨
        (missesFor x.faults (HasName.name c) = true ∧ r = .ok none) ∨
        (missesFor x.faults (HasName.name c) = false ∧
          errorFor x.faults (HasName.name c) = none ∧ r = told (answer x.world))) := by
  refine ⟨passed_of_call h, (lookup_cases h).1, ?_⟩
  unfold lookup at h
  rw [call_of_not_cuts (not_cuts_of_no_deadline hdeadline c)] at h
  rw [← error_faultOf, ← missing_faultOf]
  unfold faulted? at h
  cases hmissing : (x.faultOf c).missing with
  | true =>
    rw [hmissing] at h
    exact Or.inr (Or.inl ⟨rfl, (Prod.mk.inj h).1.symm⟩)
  | false =>
    cases herror : (x.faultOf c).error with
    | some e =>
      rw [hmissing, herror] at h
      exact Or.inl ⟨e, rfl, (Prod.mk.inj h).1.symm⟩
    | none =>
      rw [hmissing, herror] at h
      exact Or.inr (Or.inr ⟨rfl, rfl, (Prod.mk.inj ((apply_telling _ _).symm.trans h)).1.symm⟩)

end Action

end Agora
