import Agora.Proofs.Exchange

/-!
# Calls in time

A call is cut exactly if it stalls past the deadline (`Cuts`); `call_of_cuts` and `call_of_not_cuts`
say what is left of the exchange in either case, and `call_of_spares` that a call which meets no
fault simply has its effect.

`Ran x made y` says that `made` are the calls, one after the other, that lead from the exchange `x`
to `y`, each with what it found and what it left. What time does to one call (`OnTime`) holds of
every call of such a run, and no run outlasts the deadline (`Ran.elapsed_le`).
-/

namespace Agora

namespace Exchange

variable {World Call : Type} {x y z : Exchange World Call} {c : Call}

/-! ## One call -/

/-- An effect is one on the world only, and is not cut. -/
theorem ended_of_apply {α : Type} {effect : World → Ending World StoreError α}
    {r : Except (Stop Failure) α} (h : x.apply effect = (r, y)) :
    r ≠ .error (.refused .cancelled) ∧ y = { x with world := y.world } := by
  unfold apply at h
  split at h
  next =>
    obtain ⟨rfl, rfl⟩ := Prod.mk.inj h
    exact ⟨by simp, rfl⟩
  next =>
    obtain ⟨rfl, rfl⟩ := Prod.mk.inj h
    exact ⟨by simp, rfl⟩
  next =>
    obtain ⟨rfl, rfl⟩ := Prod.mk.inj h
    exact ⟨by simp, rfl⟩

variable [HasName Call]

/-- The fault that a call meets; one that does nothing if there is none of its name. -/
def faultOf (x : Exchange World Call) (c : Call) : Fault :=
  ((takeFault (HasName.name c) x.faults).1).getD { target := "" }

/-- The call stalls past the deadline. -/
def Cuts (x : Exchange World Call) (c : Call) : Prop :=
  0 < (x.faultOf c).stall ∧
    ∃ deadline, x.deadline = some deadline ∧ deadline < x.elapsed + (x.faultOf c).stall

/-- What is left by a call that was cut: all time is used, and nothing else has happened. -/
def cutBy (x : Exchange World Call) (c : Call) : Exchange World Call :=
  { x.log c with elapsed := x.deadline.getD x.elapsed }

/-- A call that was not cut, after its stall and before its effect. -/
def waitFor (x : Exchange World Call) (c : Call) : Exchange World Call :=
  { x.log c with elapsed := x.elapsed + (x.faultOf c).stall }

/-- With a deadline it is a matter of two numbers whether a call is cut. -/
theorem cuts_iff {deadline : Nat} (hdeadline : x.deadline = some deadline) :
    x.Cuts c ↔ 0 < (x.faultOf c).stall ∧ deadline < x.elapsed + (x.faultOf c).stall := by
  unfold Cuts
  rw [hdeadline]
  simp

theorem spend?_of_cuts (h : x.Cuts c) : (x.log c).spend? (x.faultOf c).stall = none := by
  obtain ⟨hstall, deadline, hdeadline, hlate⟩ := h
  unfold spend?
  simp only [log_deadline, hdeadline]
  rw [if_neg (Nat.ne_of_gt hstall)]
  exact if_neg (Nat.not_le.mpr hlate)

theorem spend?_of_not_cuts (h : ¬x.Cuts c) :
    (x.log c).spend? (x.faultOf c).stall = some (x.elapsed + (x.faultOf c).stall) := by
  unfold spend?
  by_cases hstall : (x.faultOf c).stall = 0
  · rw [if_pos hstall, hstall]
    rfl
  rw [if_neg hstall]
  cases hdeadline : x.deadline with
  | none =>
    simp only [log_deadline, hdeadline]
    rfl
  | some deadline =>
    simp only [log_deadline, hdeadline]
    rw [cuts_iff hdeadline] at h
    have hintime : x.elapsed + (x.faultOf c).stall ≤ deadline := by omega
    exact if_pos hintime

section

variable {α : Type} {absent : Option α} {effect : World → Ending World StoreError α}
  {r : Except (Stop Failure) α}

/-- A call that is cut fails as cancelled, and has no effect. -/
theorem call_of_cuts (h : x.Cuts c) (absent : Option α)
    (effect : World → Ending World StoreError α) :
    x.call c absent effect = (.error (.refused .cancelled), x.cutBy c) := by
  have hspend : (x.log c).spend?
      (((takeFault (HasName.name c) x.faults).1).getD { target := "" }).stall = none :=
    spend?_of_cuts h
  unfold call
  simp only [hspend]
  rfl

/-- A call that is not cut ends after its stall: with what the fault makes of it, or with its
effect. -/
theorem call_of_not_cuts (h : ¬x.Cuts c) (absent : Option α)
    (effect : World → Ending World StoreError α) :
    x.call c absent effect = match faulted? (x.faultOf c) absent with
      | some (.ok a) => (.ok a, x.waitFor c)
      | some (.error error) => (.error (.refused (.store error)), x.waitFor c)
      | none => (x.waitFor c).apply effect := by
  have hspend : (x.log c).spend?
      (((takeFault (HasName.name c) x.faults).1).getD { target := "" }).stall =
        some (x.elapsed + (x.faultOf c).stall) := spend?_of_not_cuts h
  unfold call
  simp only [hspend]
  rfl

/-- A call that is not cut does not end as cancelled, and leaves what is left after its stall, but
for its effect. -/
theorem ended_of_not_cuts (hcuts : ¬x.Cuts c) (h : x.call c absent effect = (r, y)) :
    r ≠ .error (.refused .cancelled) ∧ y = { x.waitFor c with world := y.world } := by
  rw [call_of_not_cuts hcuts] at h
  split at h
  next =>
    obtain ⟨rfl, rfl⟩ := Prod.mk.inj h
    exact ⟨by simp, rfl⟩
  next =>
    obtain ⟨rfl, rfl⟩ := Prod.mk.inj h
    exact ⟨by simp, rfl⟩
  next => exact ended_of_apply h

/-- Calls end as cancelled exactly if they are cut. -/
theorem cancelled_iff (h : x.call c absent effect = (r, y)) :
    r = .error (.refused .cancelled) ↔ x.Cuts c := by
  by_cases hcuts : x.Cuts c
  · rw [call_of_cuts hcuts] at h
    exact iff_of_true (Prod.mk.inj h).1.symm hcuts
  · exact iff_of_false (ended_of_not_cuts hcuts h).1 hcuts

/-- The deadline stays what it is, and the fault that the call met is used up. -/
theorem left_of_call (h : x.call c absent effect = (r, y)) :
    y.deadline = x.deadline ∧ y.faults = (takeFault (HasName.name c) x.faults).2 := by
  by_cases hcuts : x.Cuts c
  · rw [call_of_cuts hcuts] at h
    rw [← (Prod.mk.inj h).2]
    exact ⟨rfl, rfl⟩
  · rw [(ended_of_not_cuts hcuts h).2]
    exact ⟨rfl, rfl⟩

end

/-! ## Calls that meet no fault -/

/-- No fault that is to come is of the call's name. -/
def Spares (x : Exchange World Call) (c : Call) : Prop :=
  (takeFault (HasName.name c) x.faults).1 = none

theorem takeFault_of_forall {name : String} {faults : List Fault}
    (h : ∀ fault ∈ faults, fault.target ≠ name) : takeFault name faults = (none, faults) := by
  induction faults with
  | nil => rfl
  | cons fault rest ih =>
    obtain ⟨hfault, hrest⟩ := List.forall_mem_cons.mp h
    rw [takeFault, if_neg hfault, ih hrest]

/-- A call uses up a fault, or none. -/
theorem mem_of_mem_takeFault {name : String} {faults : List Fault} {fault : Fault}
    (h : fault ∈ (takeFault name faults).2) : fault ∈ faults := by
  induction faults with
  | nil => exact h
  | cons first rest ih =>
    unfold takeFault at h
    split at h
    next => exact List.mem_cons_of_mem _ h
    next =>
      rcases List.mem_cons.mp h with rfl | hrest
      · exact List.mem_cons_self
      · exact List.mem_cons_of_mem _ (ih hrest)

theorem spares_of_forall (h : ∀ fault ∈ x.faults, fault.target ≠ HasName.name c) : x.Spares c := by
  unfold Spares
  rw [takeFault_of_forall h]

theorem spares_of_no_faults (h : x.faults = []) : x.Spares c := by
  unfold Spares
  rw [h]
  rfl

theorem log_no_faults (h : x.faults = []) : (x.log c).faults = [] := by
  unfold log
  rw [h]
  rfl

/-- A call that meets no fault comes to what its effect comes to. -/
theorem call_of_spares {α : Type} (h : x.Spares c) (absent : Option α)
    (effect : World → Ending World StoreError α) :
    x.call c absent effect = (x.log c).apply effect := by
  have hfault : x.faultOf c = { target := "" } := by
    unfold faultOf
    rw [h]
    rfl
  have hcuts : ¬x.Cuts c := by
    rintro ⟨hstall, _⟩
    rw [hfault] at hstall
    exact absurd hstall (by decide)
  rw [call_of_not_cuts hcuts, hfault]
  unfold waitFor
  rw [hfault]
  cases absent <;> rfl

/-- What reading comes to: an answer, or nothing at all. -/
def told {ε α : Type} (answer? : Option α) : Except (Stop ε) α :=
  match answer? with
  | some a => .ok a
  | none => .error .abandoned

omit [HasName Call] in
theorem apply_telling {α : Type} (x : Exchange World Call) (answer : World → Option α) :
    x.apply (Action.telling answer) = (told (answer x.world), x) := by
  unfold apply Action.telling
  cases answer x.world <;> rfl

theorem lookup_of_spares {α : Type} (h : x.Spares c) (answer : World → Option (Option α)) :
    Action.lookup c answer x = (told (answer x.world), x.log c) :=
  (call_of_spares h _ _).trans (apply_telling _ _)

theorem read_of_spares {α : Type} (h : x.Spares c) (answer : World → Option α) :
    Action.read c answer x = (told (answer x.world), x.log c) :=
  (call_of_spares h _ _).trans (apply_telling _ _)

/-! ## All calls of a run -/

/-- One call of a run: the exchange in which it was made, the one that it left, and whether it was
cut. -/
structure Made (World Call : Type) where
  call : Call
  before : Exchange World Call
  after : Exchange World Call
  cut : Bool

/-- A call that ended like this was cut. -/
def wasCut {α : Type} : Except (Stop Failure) α → Bool
  | .error (.refused .cancelled) => true
  | _ => false

theorem wasCut_iff {α : Type} {r : Except (Stop Failure) α} :
    wasCut r = true ↔ r = .error (.refused .cancelled) := by
  unfold wasCut
  split
  next => simp
  next hother =>
    simp only [Bool.false_eq_true, false_iff]
    exact hother

/-- The calls that lead from one exchange to another, in their order. -/
inductive Ran : Exchange World Call → List (Made World Call) → Exchange World Call → Prop
  | refl (x : Exchange World Call) : Ran x [] x
  | call {x y z : Exchange World Call} {c : Call} {α : Type} {absent : Option α}
      {effect : World → Ending World StoreError α} {r : Except (Stop Failure) α}
      {made : List (Made World Call)} (hcall : x.call c absent effect = (r, y))
      (hrest : Ran y made z) : Ran x (⟨c, x, y, wasCut r⟩ :: made) z

/-- What time does to a call, with `deadline` for the whole run. -/
structure Made.OnTime (deadline : Nat) (m : Made World Call) : Prop where
  prompt : (m.before.faultOf m.call).stall = 0 → m.cut = false
  /-- A call that stalls ends exactly if it can do so before the deadline or at it. -/
  inTime : 0 < (m.before.faultOf m.call).stall →
    (m.cut = false ↔ m.before.elapsed + (m.before.faultOf m.call).stall ≤ deadline)
  /-- Time passes in the stall only. -/
  spent : m.cut = false →
    m.after.elapsed = m.before.elapsed + (m.before.faultOf m.call).stall
  /-- What is cut is cut at the deadline, and changes nothing. -/
  lost : m.cut = true → m.after.elapsed = deadline ∧ m.after.world = m.before.world

namespace Ran

variable {made made' : List (Made World Call)}

/-- A single call is a run. -/
theorem single {α : Type} {absent : Option α} {effect : World → Ending World StoreError α}
    {r : Except (Stop Failure) α} (h : x.call c absent effect = (r, y)) :
    Ran x [⟨c, x, y, wasCut r⟩] y := .call h (.refl y)

theorem trans (h : Ran x made y) (h' : Ran y made' z) : Ran x (made ++ made') z := by
  induction h with
  | refl => exact h'
  | call hcall _ ih => exact .call hcall (ih h')

theorem calls (h : Ran x made y) : y.calls = x.calls ++ made.map (·.call) := by
  induction h with
  | refl => simp
  | call hcall _ ih => rw [ih, (call_cases hcall).1, List.map_cons, List.append_assoc]; rfl

/-- A run meets no faults but those that were to come. -/
theorem mem_faults (h : Ran x made y) {fault : Fault} (hy : fault ∈ y.faults) :
    fault ∈ x.faults := by
  induction h with
  | refl => exact hy
  | call hcall _ ih =>
    have hleft := ih hy
    rw [(left_of_call hcall).2] at hleft
    exact mem_of_mem_takeFault hleft

theorem onTime (h : Ran x made y) {deadline : Nat} (hdeadline : x.deadline = some deadline) :
    ∀ m ∈ made, m.OnTime deadline := by
  induction h with
  | refl =>
    intro m hm
    cases hm
  | @call x y _ c _ _ _ r _ hcall _ ih =>
    refine List.forall_mem_cons.mpr ⟨?_, ih ((left_of_call hcall).1.trans hdeadline)⟩
    have hcut : wasCut r = true ↔ x.Cuts c := wasCut_iff.trans (cancelled_iff hcall)
    have hended : wasCut r = false ↔ ¬x.Cuts c := by rw [← hcut, Bool.not_eq_true]
    refine ⟨?prompt, ?inTime, ?spent, ?lost⟩
    case prompt =>
      intro (hstall : (x.faultOf c).stall = 0)
      rw [hended, cuts_iff hdeadline]
      omega
    case inTime =>
      intro (hstall : 0 < (x.faultOf c).stall)
      rw [hended, cuts_iff hdeadline]
      change _ ↔ x.elapsed + (x.faultOf c).stall ≤ deadline
      omega
    case spent =>
      intro hr
      rw [(ended_of_not_cuts (hended.mp hr) hcall).2]
      rfl
    case lost =>
      intro hr
      rw [call_of_cuts (hcut.mp hr)] at hcall
      rw [← (Prod.mk.inj hcall).2]
      refine ⟨?_, rfl⟩
      unfold cutBy
      rw [hdeadline]
      rfl

/-- No run outlasts the deadline. -/
theorem elapsed_le (h : Ran x made y) {deadline : Nat} (hdeadline : x.deadline = some deadline)
    (hx : x.elapsed ≤ deadline) : y.elapsed ≤ deadline := by
  induction h with
  | refl => exact hx
  | @call x y _ c _ _ _ r _ hcall _ ih =>
    refine ih ((left_of_call hcall).1.trans hdeadline) ?_
    have hcalled := (single hcall).onTime hdeadline _ List.mem_cons_self
    cases hr : wasCut r with
    | true => exact Nat.le_of_eq (hcalled.lost hr).1
    | false =>
      have hspent := hcalled.spent hr
      simp only at hspent
      rw [hspent]
      by_cases hstall : (x.faultOf c).stall = 0
      · rw [hstall]
        exact hx
      · exact (hcalled.inTime (Nat.pos_of_ne_zero hstall)).mp hr

end Ran

end Exchange

end Agora
