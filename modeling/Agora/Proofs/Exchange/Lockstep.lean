import Agora.Proofs.Exchange.Time

/-!
# Two runs side by side

An action runs in `Lockstep` if, begun in two exchanges that are related, it gives the same result
in both and leaves them related. What is composed of such actions is one again, whatever the
relation.

The relation that matters most is `Beside`: the worlds are related, and the exchanges are the same
but for faults that are not seen. A call whose own faults are seen takes the same course in both,
so that it runs in lockstep if its effect does (`lockstep_call`).
-/

namespace Agora.Exchange

variable {World Call : Type} {rel : Exchange World Call → Exchange World Call → Prop}

/-- Begun in exchanges that are related, the run gives the same and leaves them related. -/
def Lockstep {ρ : Type} (rel : Exchange World Call → Exchange World Call → Prop)
    (run : Exchange World Call → ρ × Exchange World Call) : Prop :=
  ∀ x x', rel x x' → (run x').1 = (run x).1 ∧ rel (run x).2 (run x').2

/-! ## Composed actions -/

section

variable {ε ε' α β : Type}

theorem lockstep_pure (v : α) : Lockstep rel (pure v : Action World Call ε α) :=
  fun _ _ hx => ⟨rfl, hx⟩

theorem lockstep_refuse (e : ε) : Lockstep rel (.refuse e : Action World Call ε α) :=
  fun _ _ hx => ⟨rfl, hx⟩

theorem lockstep_ofExcept (r : Except ε α) :
    Lockstep rel (.ofExcept r : Action World Call ε α) :=
  fun _ _ hx => ⟨rfl, hx⟩

theorem lockstep_bind {a : Action World Call ε α} {f : α → Action World Call ε β}
    (ha : Lockstep rel a) (hf : ∀ v, Lockstep rel (f v)) : Lockstep rel (a >>= f) := by
  intro x x' hx
  obtain ⟨hr, hz⟩ := ha x x' hx
  rw [Action.bind_run, Action.bind_run]
  cases h : a x with
  | mk r z =>
    cases h' : a x' with
    | mk r' z' =>
      rw [h, h'] at hr hz
      cases hr
      cases r with
      | error e => exact ⟨rfl, hz⟩
      | ok v => exact hf v z z' hz

theorem lockstep_mapError {f : ε → ε'} {a : Action World Call ε α} (ha : Lockstep rel a) :
    Lockstep rel (a.mapError f) := by
  intro x x' hx
  obtain ⟨hr, hy⟩ := ha x x' hx
  rw [Action.mapError_apply, Action.mapError_apply, hr]
  exact ⟨rfl, hy⟩

theorem lockstep_attempt {a : Action World Call ε α} (ha : Lockstep rel a) :
    Lockstep rel (a.attempt : Action World Call ε' (Except ε α)) := by
  intro x x' hx
  obtain ⟨hr, hy⟩ := ha x x' hx
  rw [Action.attempt_apply, Action.attempt_apply, hr]
  exact ⟨rfl, hy⟩

end

/-! ## Faults that are not seen -/

/-- Two exchanges whose worlds are related and which are the same but for faults that are not seen.
-/
structure Beside (seen : Fault → Bool) (worlds : World → World → Prop)
    (x x' : Exchange World Call) : Prop where
  world : worlds x.world x'.world
  deadline : x'.deadline = x.deadline
  elapsed : x'.elapsed = x.elapsed
  calls : x'.calls = x.calls
  faults : x'.faults.filter seen = x.faults.filter seen

theorem takeFault_filter {seen : Fault → Bool} {name : String}
    (hname : ∀ fault, fault.target = name → seen fault = true) (faults : List Fault) :
    takeFault name (faults.filter seen) =
      ((takeFault name faults).1, (takeFault name faults).2.filter seen) := by
  induction faults with
  | nil => rfl
  | cons fault rest ih =>
    by_cases htarget : fault.target = name
    · rw [List.filter_cons_of_pos (hname fault htarget), takeFault, takeFault, if_pos htarget,
        if_pos htarget]
    · rw [takeFault, if_neg htarget]
      by_cases hseen : seen fault = true
      · rw [List.filter_cons_of_pos hseen, takeFault, if_neg htarget, ih,
          List.filter_cons_of_pos hseen]
      · rw [List.filter_cons_of_neg hseen, ih, List.filter_cons_of_neg hseen]

variable [HasName Call] {seen : Fault → Bool} {worlds : World → World → Prop}
  {x x' : Exchange World Call} {c : Call}

/-- The faults that a call can meet are seen. -/
def Sees (seen : Fault → Bool) (c : Call) : Prop :=
  ∀ fault : Fault, fault.target = HasName.name c → seen fault = true

namespace Beside

theorem faultOf (h : Beside seen worlds x x') (hc : Sees seen c) : x'.faultOf c = x.faultOf c := by
  have htake : (takeFault (HasName.name c) x'.faults).1 =
      (takeFault (HasName.name c) x.faults).1 := by
    have hfiltered := congrArg (takeFault (HasName.name c)) h.faults
    rw [takeFault_filter hc, takeFault_filter hc] at hfiltered
    exact (Prod.mk.inj hfiltered).1
  unfold Exchange.faultOf
  rw [htake]

theorem log (h : Beside seen worlds x x') (hc : Sees seen c) :
    Beside seen worlds (x.log c) (x'.log c) := by
  refine ⟨h.world, h.deadline, h.elapsed, ?calls, ?faults⟩
  case calls => rw [log_calls, log_calls, h.calls]
  case faults =>
    have hfiltered := congrArg (takeFault (HasName.name c)) h.faults
    rw [takeFault_filter hc, takeFault_filter hc] at hfiltered
    exact (Prod.mk.inj hfiltered).2

theorem cuts_iff (h : Beside seen worlds x x') (hc : Sees seen c) : x'.Cuts c ↔ x.Cuts c := by
  unfold Cuts
  rw [h.faultOf hc, h.deadline, h.elapsed]

theorem cutBy (h : Beside seen worlds x x') (hc : Sees seen c) :
    Beside seen worlds (x.cutBy c) (x'.cutBy c) := by
  refine { h.log hc with elapsed := ?_ }
  unfold Exchange.cutBy
  rw [h.deadline, h.elapsed]

theorem waitFor (h : Beside seen worlds x x') (hc : Sees seen c) :
    Beside seen worlds (x.waitFor c) (x'.waitFor c) := by
  refine { h.log hc with elapsed := ?_ }
  unfold Exchange.waitFor
  rw [h.elapsed, h.faultOf hc]

end Beside

/-- The effect gives the same on worlds that are related, and leaves them related. -/
def Agrees {α : Type} (worlds : World → World → Prop)
    (effect : World → Ending World StoreError α) : Prop :=
  ∀ w w', worlds w w' → (∃ e, effect w = .error e ∧ effect w' = .error e) ∨
    (∃ a v v', effect w = .ok (a, v) ∧ effect w' = .ok (a, v') ∧ worlds v v') ∨
    ∃ v v', effect w = .broken v ∧ effect w' = .broken v' ∧ worlds v v'

theorem lockstep_call {α : Type} {effect : World → Ending World StoreError α}
    (hc : Sees seen c) (heffect : Agrees worlds effect) (absent : Option α) :
    Lockstep (Beside seen worlds) fun x => x.call c absent effect := by
  intro x x' hx
  simp only
  by_cases hcuts : x.Cuts c
  · rw [call_of_cuts hcuts, call_of_cuts ((hx.cuts_iff hc).mpr hcuts)]
    exact ⟨rfl, hx.cutBy hc⟩
  have hwait := hx.waitFor hc
  rw [call_of_not_cuts hcuts, call_of_not_cuts (mt (hx.cuts_iff hc).mp hcuts), hx.faultOf hc]
  cases faulted? (x.faultOf c) absent with
  | some answer =>
    cases answer with
    | error e => exact ⟨rfl, hwait⟩
    | ok a => exact ⟨rfl, hwait⟩
  | none =>
    simp only
    unfold apply
    obtain ⟨e, hleft, hright⟩ | ⟨a, v, v', hleft, hright, hv⟩ | ⟨v, v', hleft, hright, hv⟩ :=
      heffect _ _ hwait.world
    · rw [hleft, hright]
      exact ⟨rfl, hwait⟩
    · rw [hleft, hright]
      exact ⟨rfl, { hwait with world := hv }⟩
    · rw [hleft, hright]
      exact ⟨rfl, { hwait with world := hv }⟩

/-- Reading agrees where there is the same to be read. -/
theorem agrees_telling {α : Type} {answer : World → Option α}
    (hanswer : ∀ w w', worlds w w' → answer w' = answer w) :
    Agrees worlds (Action.telling answer) := by
  intro w w' hw
  unfold Action.telling
  rw [hanswer w w' hw]
  cases answer w with
  | none => exact Or.inr (Or.inr ⟨w, w', rfl, rfl, hw⟩)
  | some a => exact Or.inr (Or.inl ⟨a, w, w', rfl, rfl, hw⟩)

theorem lockstep_lookup {α : Type} {answer : World → Option (Option α)} (hc : Sees seen c)
    (hanswer : ∀ w w', worlds w w' → answer w' = answer w) :
    Lockstep (Beside seen worlds) (Action.lookup c answer) :=
  lockstep_call hc (agrees_telling hanswer) (some none)

theorem lockstep_read {α : Type} {answer : World → Option α} (hc : Sees seen c)
    (hanswer : ∀ w w', worlds w w' → answer w' = answer w) :
    Lockstep (Beside seen worlds) (Action.read c answer) :=
  lockstep_call hc (agrees_telling hanswer) none

theorem lockstep_write {α : Type} {effect : World → Ending World StoreError α}
    (hc : Sees seen c) (heffect : Agrees worlds effect) :
    Lockstep (Beside seen worlds) (Action.write c effect) :=
  lockstep_call hc heffect none

end Agora.Exchange
