import Agora.Proofs.Exchange.Faults
import Agora.Proofs.Result

/-!
# Errors that differ in their texts

Two exchanges are `Alike` if they are the same but for what is not seen of the errors in their
faults; `hide` says what is seen of an error, by the name of the call.

An action is `Discreet` if it ends alike in alike exchanges, with the same answer or with errors of
which the same is shown. Calls are (`discreet_call`), and so is what is composed of discreet
actions. So for a service only the places have to be looked at where errors of one kind are turned
into another.
-/

namespace Agora

/-- The error without its texts: only its class is left. -/
def StoreError.silent : StoreError → StoreError
  | .connection _ => .connection .rowNotFound
  | .query _ => .query .rowNotFound
  | .migration _ => .migration ""
  | .configuration _ => .configuration ""
  | .notFound => .notFound
  | .uniqueViolation _ => .uniqueViolation ""
  | .foreignKeyViolation _ => .foreignKeyViolation ""

theorem StoreError.silent_silent (error : StoreError) : error.silent.silent = error.silent := by
  cases error <;> rfl

/-- The fault with what is seen of its error. -/
def Fault.veil (hide : String → StoreError → StoreError) (fault : Fault) : Fault :=
  { fault with error := fault.error.map (hide fault.target) }

/-- The failure with what is seen of its error. -/
def Failure.veil (hide : StoreError → StoreError) : Failure → Failure
  | .cancelled => .cancelled
  | .store error => .store (hide error)

namespace Exchange

variable {World Call : Type} {x x' : Exchange World Call}
  {hide : String → StoreError → StoreError}

/-- Two exchanges that differ in what is not seen of their faults' errors, and in nothing else. -/
structure Alike (hide : String → StoreError → StoreError) (x x' : Exchange World Call) : Prop where
  world : x'.world = x.world
  deadline : x'.deadline = x.deadline
  elapsed : x'.elapsed = x.elapsed
  calls : x'.calls = x.calls
  faults : x'.faults.map (Fault.veil hide) = x.faults.map (Fault.veil hide)

/-! ## One call -/

theorem takeFault_veil (name : String) (faults : List Fault) :
    takeFault name (faults.map (Fault.veil hide)) =
      ((takeFault name faults).1.map (Fault.veil hide),
        (takeFault name faults).2.map (Fault.veil hide)) := by
  induction faults with
  | nil => rfl
  | cons fault rest ih =>
    have htarget : (fault.veil hide).target = fault.target := rfl
    rw [List.map_cons, takeFault, takeFault, ih, htarget]
    split
    next => rfl
    next => rfl

theorem target_of_takeFault {name : String} {faults : List Fault} {fault : Fault}
    (h : (takeFault name faults).1 = some fault) : fault.target = name := by
  induction faults with
  | nil => cases h
  | cons first rest ih =>
    rw [takeFault] at h
    split at h
    next htarget =>
      cases h
      exact htarget
    next => exact ih h

variable [HasName Call]

/-- What is seen of the fault that a call meets. -/
theorem veil_faultOf (x : Exchange World Call) (c : Call) :
    (x.faultOf c).veil hide =
      ((takeFault (HasName.name c) (x.faults.map (Fault.veil hide))).1).getD { target := "" } := by
  unfold faultOf
  rw [takeFault_veil]
  cases (takeFault (HasName.name c) x.faults).1 <;> rfl

theorem Alike.faultOf (h : Alike hide x x') (c : Call) :
    (x'.faultOf c).veil hide = (x.faultOf c).veil hide := by
  rw [veil_faultOf, veil_faultOf, h.faults]

theorem Alike.stall (h : Alike hide x x') (c : Call) :
    (x'.faultOf c).stall = (x.faultOf c).stall := by
  have hveil := congrArg Fault.stall (h.faultOf c)
  exact hveil

theorem Alike.missing (h : Alike hide x x') (c : Call) :
    (x'.faultOf c).missing = (x.faultOf c).missing := by
  have hveil := congrArg Fault.missing (h.faultOf c)
  exact hveil

/-- The fault of a call is of its name, if it does anything. -/
theorem error_veil_faultOf (x : Exchange World Call) (c : Call) :
    ((x.faultOf c).veil hide).error = (x.faultOf c).error.map (hide (HasName.name c)) := by
  unfold Exchange.faultOf
  cases hfault : (takeFault (HasName.name c) x.faults).1 with
  | none => rfl
  | some fault =>
    rw [← target_of_takeFault hfault]
    rfl

theorem Alike.error (h : Alike hide x x') (c : Call) :
    (x'.faultOf c).error.map (hide (HasName.name c)) =
      (x.faultOf c).error.map (hide (HasName.name c)) := by
  rw [← error_veil_faultOf, ← error_veil_faultOf, h.faultOf]

theorem Alike.log (h : Alike hide x x') (c : Call) : Alike hide (x.log c) (x'.log c) where
  world := h.world
  deadline := h.deadline
  elapsed := h.elapsed
  calls := congrArg (· ++ [c]) h.calls
  faults := by
    have hrest := congrArg (fun faults => (takeFault (HasName.name c) faults).2) h.faults
    simp only [takeFault_veil] at hrest
    exact hrest

theorem Alike.cuts (h : Alike hide x x') (c : Call) : x'.Cuts c ↔ x.Cuts c := by
  unfold Cuts
  rw [h.stall, h.deadline, h.elapsed]

theorem Alike.cutBy (h : Alike hide x x') (c : Call) : Alike hide (x.cutBy c) (x'.cutBy c) := by
  refine { h.log c with elapsed := ?_ }
  show x'.deadline.getD x'.elapsed = x.deadline.getD x.elapsed
  rw [h.deadline, h.elapsed]

theorem Alike.waitFor (h : Alike hide x x') (c : Call) :
    Alike hide (x.waitFor c) (x'.waitFor c) := by
  refine { h.log c with elapsed := ?_ }
  show x'.elapsed + (x'.faultOf c).stall = x.elapsed + (x.faultOf c).stall
  rw [h.elapsed, h.stall]

/-- What a fault makes of a call is the same as far as it is seen. -/
theorem Alike.faulted? {α : Type} (h : Alike hide x x') (c : Call) (absent : Option α) :
    (faulted? (x'.faultOf c) absent).map (Except.mapError (hide (HasName.name c))) =
      (faulted? (x.faultOf c) absent).map (Except.mapError (hide (HasName.name c))) := by
  have herror := h.error c
  unfold Exchange.faulted?
  rw [h.missing]
  cases he : (x.faultOf c).error with
  | none =>
    rw [he, Option.map_none, Option.map_eq_none_iff] at herror
    rw [herror]
  | some e =>
    rw [he, Option.map_some, Option.map_eq_some_iff] at herror
    obtain ⟨e', he', hseen⟩ := herror
    rw [he']
    cases absent with
    | none =>
      show some (Except.error _) = some (Except.error _)
      rw [hseen]
    | some a =>
      cases (x.faultOf c).missing with
      | false =>
        show some (Except.error _) = some (Except.error _)
        rw [hseen]
      | true => rfl

omit [HasName Call] in
/-- An effect is the same in both. -/
theorem Alike.apply {α : Type} (h : Alike hide x x')
    (effect : World → Ending World StoreError α) :
    (x'.apply effect).1 = (x.apply effect).1 ∧
      Alike hide (x.apply effect).2 (x'.apply effect).2 := by
  rw [apply_run, apply_run, h.world]
  cases effect x.world with
  | error e => exact ⟨rfl, h⟩
  | ok result => exact ⟨rfl, { h with world := rfl }⟩
  | broken world => exact ⟨rfl, { h with world := rfl }⟩

end Exchange

namespace Action

open Exchange (Alike)

variable {World Call ε ε' δ δ' α β : Type} {hide : String → StoreError → StoreError}
  {view : ε → δ} {view' : ε' → δ'}

/-- What is done ends alike in alike exchanges, with the same answer or with errors of which the
same is shown. -/
def Discreet (hide : String → StoreError → StoreError) (view : ε → δ)
    (a : Action World Call ε α) : Prop :=
  ∀ x x', Alike hide x x' →
    (a x').1.mapError (Stop.map view) = (a x).1.mapError (Stop.map view) ∧
      Alike hide (a x).2 (a x').2

/-- Of a failure as much is seen as of its error. -/
theorem discreet_call [HasName Call] (c : Call) (absent : Option α)
    (effect : World → Ending World StoreError α) :
    Discreet hide (Failure.veil (hide (HasName.name c))) fun x : Exchange World Call =>
      x.call c absent effect := by
  intro x x' h
  show (x'.call c absent effect).1.mapError _ = (x.call c absent effect).1.mapError _ ∧
    Alike hide (x.call c absent effect).2 (x'.call c absent effect).2
  by_cases hcuts : x.Cuts c
  · rw [Exchange.call_of_cuts hcuts, Exchange.call_of_cuts ((h.cuts c).mpr hcuts)]
    exact ⟨rfl, h.cutBy c⟩
  · have hfaulted := h.faulted? c absent
    have hwaited := h.waitFor c
    rw [Exchange.call_of_not_cuts hcuts,
      Exchange.call_of_not_cuts fun hcuts' => hcuts ((h.cuts c).mp hcuts')]
    cases hx : Exchange.faulted? (x.faultOf c) absent with
    | none =>
      rw [hx, Option.map_none, Option.map_eq_none_iff] at hfaulted
      rw [hfaulted]
      obtain ⟨hr, hleft⟩ := hwaited.apply effect
      exact ⟨congrArg _ hr, hleft⟩
    | some r =>
      rw [hx, Option.map_some, Option.map_eq_some_iff] at hfaulted
      obtain ⟨r', hx', hr⟩ := hfaulted
      rw [hx']
      obtain ⟨a, rfl, rfl⟩ | ⟨e, e', rfl, rfl, hseen⟩ := Result.mapError_eq_mapError hr
      · exact ⟨rfl, hwaited⟩
      · refine ⟨?_, hwaited⟩
        show Except.error (Stop.refused (Failure.store (hide _ e'))) =
          Except.error (Stop.refused (Failure.store (hide _ e)))
        rw [hseen]

/-! ## Actions -/

variable {a : Action World Call ε α}

theorem discreet_pure (v : α) : Discreet hide view (pure v : Action World Call ε α) :=
  fun _ _ h => ⟨rfl, h⟩

theorem discreet_refuse (e : ε) : Discreet hide view (.refuse e : Action World Call ε α) :=
  fun _ _ h => ⟨rfl, h⟩

theorem discreet_ofResult (r : Except (Stop ε) α) :
    Discreet hide view (ofResult r : Action World Call ε α) :=
  fun _ _ h => ⟨rfl, h⟩

theorem discreet_ofExcept (r : Except ε α) :
    Discreet hide view (.ofExcept r : Action World Call ε α) :=
  fun _ _ h => ⟨rfl, h⟩

theorem Discreet.bind {f : α → Action World Call ε β} (ha : Discreet hide view a)
    (hf : ∀ v, Discreet hide view (f v)) : Discreet hide view (a >>= f) := by
  intro x x' h
  obtain ⟨hr, hz⟩ := ha x x' h
  rw [bind_run, bind_run]
  cases hx : a x with
  | mk r z =>
    cases hx' : a x' with
    | mk r' z' =>
      rw [hx, hx'] at hr hz
      obtain ⟨v, rfl, rfl⟩ | ⟨e, e', rfl, rfl, hseen⟩ := Result.mapError_eq_mapError hr
      · exact hf v z z' hz
      · exact ⟨congrArg Except.error hseen, hz⟩

/-- What is seen of errors decides what is seen of those that are made of them. -/
theorem stop_map_congr {f : ε → ε'} (hf : ∀ e e', view e' = view e → view' (f e') = view' (f e))
    {stop stop' : Stop ε} (h : stop'.map view = stop.map view) :
    (stop'.map f).map view' = (stop.map f).map view' := by
  cases stop with
  | refused e =>
    cases stop' with
    | refused e' => exact congrArg Stop.refused (hf e e' (Stop.refused.inj h))
    | abandoned => cases h
  | abandoned =>
    cases stop' with
    | refused e' => cases h
    | abandoned => rfl

/-- Turning errors into others is discreet if what is not seen of them does not matter. -/
theorem Discreet.mapError {f : ε → ε'} (ha : Discreet hide view a)
    (hf : ∀ e e', view e' = view e → view' (f e') = view' (f e)) :
    Discreet hide view' (a.mapError f) := by
  intro x x' h
  obtain ⟨hr, hz⟩ := ha x x' h
  rw [mapError_apply, mapError_apply]
  refine ⟨?_, hz⟩
  obtain ⟨v, hx, hx'⟩ | ⟨e, e', hx, hx', hseen⟩ := Result.mapError_eq_mapError hr
  · simp only [hx, hx']
  · simp only [hx, hx']
    exact congrArg Except.error (stop_map_congr hf hseen)

/-- A call with errors of a service is discreet if no more of its failure is shown than is seen. -/
theorem discreet_failing [HasName Call] (c : Call) (absent : Option α)
    (effect : World → Ending World StoreError α) {f : Failure → ε}
    (hf : ∀ failure, view (f (failure.veil (hide (HasName.name c)))) = view (f failure)) :
    Discreet hide view
      (mapError f fun x : Exchange World Call => x.call c absent effect) := by
  refine (discreet_call c absent effect).mapError ?_
  intro failure failure' hseen
  rw [← hf failure', hseen, hf failure]

/-- So is going on after an error, in a way that does not depend on which one it was. -/
theorem Discreet.attempt_bind {f : Except ε α → Action World Call ε' β}
    {other : Action World Call ε' β} (ha : Discreet hide view a)
    (hok : ∀ v, Discreet hide view' (f (.ok v))) (herror : ∀ e, f (.error e) = other)
    (hother : Discreet hide view' other) : Discreet hide view' (a.attempt >>= f) := by
  intro x x' h
  obtain ⟨hr, hz⟩ := ha x x' h
  rw [bind_run, bind_run, attempt_apply, attempt_apply]
  obtain ⟨v, hx, hx'⟩ | ⟨stop, stop', hx, hx', hseen⟩ := Result.mapError_eq_mapError hr
  · rw [hx, hx']
    exact hok v _ _ hz
  rw [hx, hx']
  cases stop with
  | refused e =>
    cases stop' with
    | refused e' =>
      simp only [attempted, herror]
      exact hother _ _ hz
    | abandoned => cases hseen
  | abandoned =>
    cases stop' with
    | refused e' => cases hseen
    | abandoned => exact ⟨rfl, hz⟩

/-- So is looking at the exchange, if no more matters of it than the world. -/
theorem discreet_get {f : Exchange World Call → Action World Call ε α}
    (hworld : ∀ x x', x'.world = x.world → f x' = f x) (hf : ∀ x, Discreet hide view (f x)) :
    Discreet hide view (get >>= f) := by
  intro x x' h
  show (f x' x').1.mapError (Stop.map view) = (f x x).1.mapError (Stop.map view) ∧
    Alike hide (f x x).2 (f x' x').2
  rw [hworld x x' h.world]
  exact hf x x x' h

end Action

end Agora
