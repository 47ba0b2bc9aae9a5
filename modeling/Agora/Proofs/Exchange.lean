import Agora.Exchange.Basic

/-!
# What one exchange can do

Actions are taken apart here once, so that no later proof opens the monad they run in. `bind_eq` and
`mapError_eq` say how a result of a composed action comes about; `call_cases` says all that one call
can do: it is logged, and then it fails or finds no row with the world as it was, or it has its
effect, or it breaks down in the middle of it. `read_cases`, `lookup_cases` and `write_cases` are
the three kinds of calls read off it.

All of them are stated on an equation `a x = (r, y)`: action `a`, run on the exchange `x`, gives the
result `r` and leaves the exchange `y`.
-/

namespace Agora

namespace Exchange

variable {World Call : Type}

@[simp] theorem log_world [HasName Call] (x : Exchange World Call) (c : Call) :
    (x.log c).world = x.world := rfl

@[simp] theorem log_calls [HasName Call] (x : Exchange World Call) (c : Call) :
    (x.log c).calls = x.calls ++ [c] := rfl

@[simp] theorem log_deadline [HasName Call] (x : Exchange World Call) (c : Call) :
    (x.log c).deadline = x.deadline := rfl

/-- An answer that a fault gives is the one for a row that is not there. -/
theorem absent_of_faulted {α : Type} {fault : Fault} {absent : Option α} {a : α}
    (h : faulted? fault absent = some (.ok a)) : absent = some a := by
  unfold faulted? at h
  split at h
  next b _ _ =>
    simp only [Option.some.injEq, Except.ok.injEq] at h
    rw [h]
  next => simp at h
  next => simp at h

/-- All that one call can do to the world and to the log. -/
theorem call_cases [HasName Call] {α : Type} {x y : Exchange World Call} {c : Call}
    {absent : Option α} {effect : World → Ending World StoreError α} {r : Except (Stop Failure) α}
    (h : x.call c absent effect = (r, y)) :
    y.calls = x.calls ++ [c] ∧
      ((∃ failure, r = .error (.refused failure) ∧ y.world = x.world) ∨
        (∃ a, absent = some a ∧ r = .ok a ∧ y.world = x.world) ∨
        (∃ a, effect x.world = .ok (a, y.world) ∧ r = .ok a) ∨
        (effect x.world = .broken y.world ∧ r = .error .abandoned)) := by
  unfold call at h
  simp only at h
  split at h
  next =>
    -- cut at the deadline
    simp only [Prod.mk.injEq] at h
    obtain ⟨rfl, rfl⟩ := h
    exact ⟨rfl, Or.inl ⟨.cancelled, rfl, rfl⟩⟩
  next elapsed _ =>
    split at h
    next a hfault =>
      simp only [Prod.mk.injEq] at h
      obtain ⟨rfl, rfl⟩ := h
      exact ⟨rfl, Or.inr (Or.inl ⟨a, absent_of_faulted hfault, rfl, rfl⟩)⟩
    next error _ =>
      simp only [Prod.mk.injEq] at h
      obtain ⟨rfl, rfl⟩ := h
      exact ⟨rfl, Or.inl ⟨.store error, rfl, rfl⟩⟩
    next =>
      -- the call has its effect, is refused by it, or breaks down
      unfold apply at h
      simp only [log_world] at h
      split at h
      next a world heffect =>
        simp only [Prod.mk.injEq] at h
        obtain ⟨rfl, rfl⟩ := h
        exact ⟨rfl, Or.inr (Or.inr (Or.inl ⟨a, heffect, rfl⟩))⟩
      next error _ =>
        simp only [Prod.mk.injEq] at h
        obtain ⟨rfl, rfl⟩ := h
        exact ⟨rfl, Or.inl ⟨.store error, rfl, rfl⟩⟩
      next world heffect =>
        simp only [Prod.mk.injEq] at h
        obtain ⟨rfl, rfl⟩ := h
        exact ⟨rfl, Or.inr (Or.inr (Or.inr ⟨heffect, rfl⟩))⟩

/-- Without faults to come a call is never cut, and comes to what its effect comes to. -/
theorem call_of_no_faults [HasName Call] {α : Type} {x : Exchange World Call} (h : x.faults = [])
    (c : Call) (absent : Option α) (effect : World → Ending World StoreError α) :
    x.call c absent effect = (x.log c).apply effect := by
  unfold call
  simp only [h, takeFault, Option.getD_none, spend?, if_true]
  cases absent <;> rfl

end Exchange

namespace Action

variable {World Call ε ε' α β : Type} {x y : Exchange World Call}

/-! ## Composed actions -/

theorem bind_run (a : Action World Call ε α) (f : α → Action World Call ε β) :
    (a >>= f) x = match a x with
      | (.ok v, z) => f v z
      | (.error e, z) => (.error e, z) := by
  simp only [bind, ExceptT.bind, ExceptT.mk, StateT.bind]
  cases a x with
  | mk result z => cases result <;> rfl

/-- Two actions in a row: the first one fails, or the second goes on from where it ended. -/
theorem bind_eq {a : Action World Call ε α} {f : α → Action World Call ε β}
    {r : Except (Stop ε) β} (h : (a >>= f) x = (r, y)) :
    (∃ e, a x = (.error e, y) ∧ r = .error e) ∨
      (∃ v z, a x = (.ok v, z) ∧ f v z = (r, y)) := by
  rw [bind_run] at h
  cases ha : a x with
  | mk result z =>
    rw [ha] at h
    cases result with
    | error e =>
      obtain ⟨rfl, rfl⟩ := Prod.mk.inj h
      exact Or.inl ⟨e, rfl, rfl⟩
    | ok v => exact Or.inr ⟨v, z, rfl, h⟩

theorem mapError_apply (f : ε → ε') (a : Action World Call ε α) (x : Exchange World Call) :
    a.mapError f x = ((a x).1.mapError (Stop.map f), (a x).2) := by
  unfold mapError
  cases a x with
  | mk result z => cases result <;> rfl

/-- With other errors an action does the same. -/
theorem mapError_eq {f : ε → ε'} {a : Action World Call ε α} {r : Except (Stop ε') α}
    (h : a.mapError f x = (r, y)) :
    (∃ stop, a x = (.error stop, y) ∧ r = .error (stop.map f)) ∨
      (∃ v, a x = (.ok v, y) ∧ r = .ok v) := by
  unfold mapError at h
  split at h
  next v z ha =>
    obtain ⟨rfl, rfl⟩ := Prod.mk.inj h
    exact Or.inr ⟨v, ha, rfl⟩
  next e z ha =>
    obtain ⟨rfl, rfl⟩ := Prod.mk.inj h
    exact Or.inl ⟨e, ha, rfl⟩

/-- Where only the exchange that is left matters, the errors do not. -/
theorem mapError_run {f : ε → ε'} {a : Action World Call ε α} {r : Except (Stop ε') α}
    (h : a.mapError f x = (r, y)) : ∃ r', a x = (r', y) := by
  obtain ⟨e, ha, _⟩ | ⟨v, ha, _⟩ := mapError_eq h
  · exact ⟨.error e, ha⟩
  · exact ⟨.ok v, ha⟩

/-- What is answered by an attempt: the result, unless there is neither answer nor error. -/
def attempted : Except (Stop ε) α → Except (Stop ε') (Except ε α)
  | .ok a => .ok (.ok a)
  | .error (.refused e) => .ok (.error e)
  | .error .abandoned => .error .abandoned

theorem attempt_apply (a : Action World Call ε α) (x : Exchange World Call) :
    (a.attempt : Action World Call ε' (Except ε α)) x = (attempted (a x).1, (a x).2) := by
  unfold attempt
  cases a x with
  | mk result z =>
    cases result with
    | ok _ => rfl
    | error stop => cases stop <;> rfl

/-- An action that is attempted does what it does, and an error of it is an answer. -/
theorem attempt_eq {a : Action World Call ε α} {r : Except (Stop ε') (Except ε α)}
    (h : a.attempt x = (r, y)) : ∃ result, a x = (result, y) ∧ r = attempted result := by
  rw [attempt_apply] at h
  obtain ⟨rfl, rfl⟩ := Prod.mk.inj h
  exact ⟨_, rfl, rfl⟩

/-- Giving an answer a form is no more than the action itself. -/
theorem bind_pure_run {a : Action World Call ε α} {form : α → β}
    {r : Except (Stop ε) β}
    (h : (a >>= fun v => pure (form v)) x = (r, y)) : ∃ r', a x = (r', y) := by
  obtain ⟨_, ha, _⟩ | ⟨_, _, ha, h⟩ := bind_eq h
  · exact ⟨_, ha⟩
  · obtain ⟨_, rfl⟩ := Prod.mk.inj h
    exact ⟨_, ha⟩

/-- What is found without a call leaves the exchange as it is. -/
theorem ofResult_eq {result r : Except (Stop ε) α}
    (h : (ofResult result : Action World Call ε α) x = (r, y)) : result = r ∧ y = x := by
  unfold ofResult at h
  obtain ⟨rfl, rfl⟩ := Prod.mk.inj h
  exact ⟨rfl, rfl⟩

theorem ofExcept_eq {result : Except ε α} {r : Except (Stop ε) α}
    (h : (ofExcept result : Action World Call ε α) x = (r, y)) :
    result.mapError .refused = r ∧ y = x :=
  ofResult_eq h

theorem ofExcept_eq_ok {result : Except ε α} {v : α}
    (h : (ofExcept result : Action World Call ε α) x = (.ok v, y)) : result = .ok v ∧ y = x := by
  obtain ⟨hresult, hy⟩ := ofExcept_eq h
  cases result with
  | error e => cases hresult
  | ok u =>
    cases hresult
    exact ⟨rfl, hy⟩

/-- What is found without a call and is an error ends the run; otherwise the run goes on from the
same exchange. -/
theorem ofExcept_bind_eq {result : Except ε α} {f : α → Action World Call ε β}
    {r : Except (Stop ε) β} (h : (ofExcept result >>= f) x = (r, y)) :
    (∃ e, result = .error e ∧ r = .error (.refused e) ∧ y = x) ∨
      (∃ v, result = .ok v ∧ f v x = (r, y)) := by
  cases result with
  | error e =>
    obtain ⟨rfl, rfl⟩ := Prod.mk.inj h
    exact Or.inl ⟨e, rfl, rfl, rfl⟩
  | ok v => exact Or.inr ⟨v, rfl, h⟩

/-- An error ends a run where it is. -/
theorem refuse_eq {e : ε} {r : Except (Stop ε) α}
    (h : (refuse e : Action World Call ε α) x = (r, y)) : r = .error (.refused e) ∧ y = x := by
  obtain ⟨rfl, rfl⟩ := Prod.mk.inj h
  exact ⟨rfl, rfl⟩

/-! ## The three kinds of calls -/

variable [HasName Call]

/-- Reading leaves the world as it is, and answers what is there. -/
theorem telling_eq_ok {answer : World → Option α} {w w' : World} {a : α}
    (h : telling answer w = .ok (a, w')) : answer w = some a ∧ w' = w := by
  unfold telling at h
  split at h
  next b hanswer =>
    simp only [Ending.ok.injEq, Prod.mk.injEq] at h
    obtain ⟨rfl, rfl⟩ := h
    exact ⟨hanswer, rfl⟩
  next => cases h

/-- Reading breaks down only if there is no answer. -/
theorem telling_eq_broken {answer : World → Option α} {w w' : World}
    (h : telling answer w = .broken w') : answer w = none ∧ w' = w := by
  unfold telling at h
  split at h
  next => cases h
  next hanswer =>
    cases h
    exact ⟨hanswer, rfl⟩

/-- A reading call tells what is there, fails, or breaks down. -/
theorem read_cases {c : Call} {answer : World → Option α} {r : Except (Stop Failure) α}
    (h : read c answer x = (r, y)) :
    y.world = x.world ∧ y.calls = x.calls ++ [c] ∧
      ((∃ failure, r = .error (.refused failure)) ∨
        (answer x.world = none ∧ r = .error .abandoned) ∨
        ∃ a, answer x.world = some a ∧ r = .ok a) := by
  obtain ⟨hcalls, ⟨failure, hr, hw⟩ | ⟨a, habsent, _⟩ | ⟨a, heffect, hr⟩ | ⟨heffect, hr⟩⟩ :=
    Exchange.call_cases h
  · exact ⟨hw, hcalls, Or.inl ⟨failure, hr⟩⟩
  · simp at habsent
  · obtain ⟨hanswer, hw⟩ := telling_eq_ok heffect
    exact ⟨hw, hcalls, Or.inr (Or.inr ⟨a, hanswer, hr⟩)⟩
  · obtain ⟨hanswer, hw⟩ := telling_eq_broken heffect
    exact ⟨hw, hcalls, Or.inr (Or.inl ⟨hanswer, hr⟩)⟩

/-- A call that looks for a row finds what is there, finds nothing, fails, or breaks down. -/
theorem lookup_cases {c : Call} {answer : World → Option (Option α)}
    {r : Except (Stop Failure) (Option α)} (h : lookup c answer x = (r, y)) :
    y.world = x.world ∧ y.calls = x.calls ++ [c] ∧
      ((∃ failure, r = .error (.refused failure)) ∨ r = .ok none ∨
        (answer x.world = none ∧ r = .error .abandoned) ∨
        ∃ found, answer x.world = some found ∧ r = .ok found) := by
  obtain ⟨hcalls, ⟨failure, hr, hw⟩ | ⟨a, habsent, hr, hw⟩ | ⟨a, heffect, hr⟩ | ⟨heffect, hr⟩⟩ :=
    Exchange.call_cases h
  · exact ⟨hw, hcalls, Or.inl ⟨failure, hr⟩⟩
  · simp only [Option.some.injEq] at habsent
    subst habsent
    exact ⟨hw, hcalls, Or.inr (Or.inl hr)⟩
  · obtain ⟨hanswer, hw⟩ := telling_eq_ok heffect
    exact ⟨hw, hcalls, Or.inr (Or.inr (Or.inr ⟨a, hanswer, hr⟩))⟩
  · obtain ⟨hanswer, hw⟩ := telling_eq_broken heffect
    exact ⟨hw, hcalls, Or.inr (Or.inr (Or.inl ⟨hanswer, hr⟩))⟩

/-- A writing call fails with the world as it was, has its whole effect, or breaks down. -/
theorem write_cases {c : Call} {effect : World → Ending World StoreError α}
    {r : Except (Stop Failure) α} (h : write c effect x = (r, y)) :
    y.calls = x.calls ++ [c] ∧
      ((∃ failure, r = .error (.refused failure) ∧ y.world = x.world) ∨
        (∃ a, effect x.world = .ok (a, y.world) ∧ r = .ok a) ∨
        (effect x.world = .broken y.world ∧ r = .error .abandoned)) := by
  obtain ⟨hcalls, hfailed | ⟨a, habsent, _⟩ | hended⟩ := Exchange.call_cases h
  · exact ⟨hcalls, Or.inl hfailed⟩
  · simp at habsent
  · exact ⟨hcalls, Or.inr hended⟩

end Action

end Agora
