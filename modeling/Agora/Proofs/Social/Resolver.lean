import Agora.Proofs.Exchange
import Agora.Proofs.Social.World
import Agora.Proofs.Store
import Agora.Social.Resolver

/-!
# What finding a user can do

Finding a user never touches the tables. It asks the cache and the table for the one id that is
looked for, and writes nothing but the user that was found, under that id.
-/

namespace Agora.Social

variable {x y : Exchange World Call}

/-- Asking the cache never fails: what goes wrong counts as a miss. -/
theorem cachedUser_cases {ε : Type} {id : Int} {r : Except (Stop ε) (Option User)}
    (h : cachedUser id x = (r, y)) :
    y.world = x.world ∧
      ((y = x ∧ r = .ok none) ∨
        (y.calls = x.calls ++ [.cachedUser id] ∧
          (r = .ok none ∨ r = .ok (x.world.cached? id)))) := by
  unfold cachedUser at h
  cases hcache : x.world.cache with
  | none =>
    simp only [hcache] at h
    obtain ⟨rfl, rfl⟩ := Prod.mk.inj h
    exact ⟨rfl, Or.inl ⟨rfl, rfl⟩⟩
  | some entries =>
    simp only [hcache] at h
    cases hl : Agora.Action.lookup (Call.cachedUser id) (fun w => some (w.cached? id)) x with
    | mk result z =>
      rw [hl] at h
      obtain ⟨hw, hcalls, ⟨_, hr⟩ | hr | ⟨hnone, _⟩ | ⟨found, hfound, hr⟩⟩ :=
        Agora.Action.lookup_cases hl
      · rw [hr] at h
        obtain ⟨rfl, rfl⟩ := Prod.mk.inj h
        exact ⟨hw, Or.inr ⟨hcalls, Or.inl rfl⟩⟩
      · rw [hr] at h
        obtain ⟨rfl, rfl⟩ := Prod.mk.inj h
        exact ⟨hw, Or.inr ⟨hcalls, Or.inl rfl⟩⟩
      · cases hnone
      · rw [hr, ← Option.some.inj hfound] at h
        obtain ⟨rfl, rfl⟩ := Prod.mk.inj h
        exact ⟨hw, Or.inr ⟨hcalls, Or.inr rfl⟩⟩

/-- Putting a user into the cache never fails, and changes nothing but the cache. -/
theorem remember_cases {ε : Type} {u : User} {r : Except (Stop ε) Unit}
    (h : remember u x = (r, y)) :
    r = .ok () ∧ y.world = { x.world with cache := y.world.cache } ∧
      (y.calls = x.calls ∨ y.calls = x.calls ++ [.cacheUser u.id]) := by
  unfold remember at h
  cases hcache : x.world.cache with
  | none =>
    simp only [hcache] at h
    obtain ⟨rfl, rfl⟩ := Prod.mk.inj h
    exact ⟨rfl, rfl, Or.inl rfl⟩
  | some entries =>
    simp only [hcache] at h
    cases hw : Agora.Action.write (Call.cacheUser u.id)
        (fun w : World => .ok ((), w.remember u)) x with
    | mk result z =>
      rw [hw] at h
      obtain ⟨hcalls, ⟨_, hr, hworld⟩ | ⟨_, heffect, hr⟩ | ⟨heffect, _⟩⟩ :=
        Agora.Action.write_cases hw
      · rw [hr] at h
        obtain ⟨rfl, rfl⟩ := Prod.mk.inj h
        exact ⟨rfl, by rw [hworld], Or.inr hcalls⟩
      · rw [hr] at h
        obtain ⟨rfl, rfl⟩ := Prod.mk.inj h
        simp only [Ending.ok.injEq, Prod.mk.injEq, true_and] at heffect
        exact ⟨rfl, by rw [← heffect]; rfl, Or.inr hcalls⟩
      · cases heffect

/-- The calls that finding a user may make. -/
def resolveCalls (id : Int) : List Call := [.cachedUser id, .userById id, .cacheUser id]

/-- Further calls of those that finding a user may make. -/
def MakesOnly (allowed : List Call) (x y : Exchange World Call) : Prop :=
  ∃ made, y.calls = x.calls ++ made ∧ made ⊆ allowed

theorem MakesOnly.refl (allowed : List Call) (x : Exchange World Call) : MakesOnly allowed x x :=
  ⟨[], by simp, by simp⟩

theorem MakesOnly.trans {allowed : List Call} {x y z : Exchange World Call}
    (hxy : MakesOnly allowed x y) (hyz : MakesOnly allowed y z) : MakesOnly allowed x z := by
  obtain ⟨made, hmade, hallowed⟩ := hxy
  obtain ⟨made', hmade', hallowed'⟩ := hyz
  refine ⟨made ++ made', ?_, List.append_subset.mpr ⟨hallowed, hallowed'⟩⟩
  rw [hmade', hmade, List.append_assoc]

theorem MakesOnly.of_call {allowed : List Call} {c : Call} (hc : c ∈ allowed)
    (h : y.calls = x.calls ++ [c]) : MakesOnly allowed x y :=
  ⟨[c], h, by simpa using hc⟩

/-- The table answers with the user of its row or with nobody, unless it is locked. -/
theorem tableUser_cases {id : Int} {r : Except (Stop ResolveError) (Option User)}
    (h : (Agora.Action.lookup (Call.userById id) fun w =>
      w.tables?.map (·.user? id)).mapError ResolveError.ofFailure x = (r, y)) :
    y.world = x.world ∧ y.calls = x.calls ++ [.userById id] ∧
      ((∃ failure, r = .error (.refused (.ofFailure failure))) ∨
        (x.world.poisoned = true ∧ r = .error .abandoned) ∨ r = .ok none ∨
        ∃ u, r = .ok (some u) ∧ x.world.store.user? id = some u) := by
  obtain ⟨stop, hlookup, rfl⟩ | ⟨row, hlookup, rfl⟩ := Agora.Action.mapError_eq h
  · obtain ⟨hworld, hcalls, hended⟩ := Agora.Action.lookup_cases hlookup
    refine ⟨hworld, hcalls, ?_⟩
    obtain ⟨failure, hstop⟩ | hstop | ⟨hnone, hstop⟩ | ⟨_, _, hstop⟩ := hended
    · cases hstop
      exact Or.inl ⟨failure, rfl⟩
    · cases hstop
    · cases hstop
      rw [Option.map_eq_none_iff, World.tables?_eq_none] at hnone
      exact Or.inr (Or.inl ⟨hnone, rfl⟩)
    · cases hstop
  · obtain ⟨hworld, hcalls, hended⟩ := Agora.Action.lookup_cases hlookup
    refine ⟨hworld, hcalls, Or.inr (Or.inr ?_)⟩
    obtain ⟨_, hrow⟩ | hrow | ⟨_, hrow⟩ | ⟨found, hfound, hrow⟩ := hended
    · cases hrow
    · cases hrow
      exact Or.inl rfl
    · cases hrow
    · cases hrow
      have huser := (World.map_tables?_eq_some.mp hfound).2
      cases row with
      | none => exact Or.inl rfl
      | some u => exact Or.inr ⟨u, rfl, huser⟩

/-- The tables stay as they are, no other calls are made, a user that is found is the one of the
cache or of the table, and a user that is not found is the one that was looked for. There is no end
without an answer unless the tables are locked. -/
theorem resolve_cases {id : Int} {r : Except (Stop ResolveError) User}
    (h : resolve id x = (r, y)) :
    y.world = { x.world with cache := y.world.cache } ∧ MakesOnly (resolveCalls id) x y ∧
      ((∃ u, r = .ok u ∧ (x.world.cached? id = some u ∨ x.world.store.user? id = some u)) ∨
        r = .error (.refused (.notFound id)) ∨
        (∃ failure, r = .error (.refused (.ofFailure failure))) ∨
        (x.world.poisoned = true ∧ r = .error .abandoned)) := by
  unfold resolve at h
  obtain ⟨_, hcached, _⟩ | ⟨found, z, hcached, h⟩ := Agora.Action.bind_eq h
  · obtain ⟨_, ⟨_, hr⟩ | ⟨_, hr | hr⟩⟩ := cachedUser_cases hcached
    · cases hr
    · cases hr
    · cases hr
  have hasked : MakesOnly (resolveCalls id) x z := by
    obtain ⟨_, ⟨hz, _⟩ | ⟨hcalls, _⟩⟩ := cachedUser_cases hcached
    · rw [hz]
      exact MakesOnly.refl _ x
    · exact MakesOnly.of_call (by simp [resolveCalls]) hcalls
  obtain ⟨hz, hfound⟩ := cachedUser_cases hcached
  cases found with
  | some u =>
    obtain ⟨rfl, rfl⟩ := Prod.mk.inj h
    refine ⟨by rw [hz], hasked, Or.inl ⟨u, rfl, Or.inl ?_⟩⟩
    obtain ⟨_, hr⟩ | ⟨_, hr | hr⟩ := hfound
    · cases hr
    · cases hr
    · simpa using hr.symm
  | none =>
    -- a miss: the table decides
    obtain ⟨stop, hread, rfl⟩ | ⟨row, v, hread, h⟩ := Agora.Action.bind_eq h
    · obtain ⟨hworld, hcalls, hended⟩ := tableUser_cases hread
      refine ⟨by rw [hworld, hz], hasked.trans ?_, Or.inr (Or.inr ?_)⟩
      · exact MakesOnly.of_call (by simp [resolveCalls]) hcalls
      · rw [hz] at hended
        obtain ⟨failure, hstop⟩ | ⟨hlocked, hstop⟩ | hstop | ⟨_, hstop, _⟩ := hended
        · cases hstop
          exact Or.inl ⟨failure, rfl⟩
        · cases hstop
          exact Or.inr ⟨hlocked, rfl⟩
        · cases hstop
        · cases hstop
    obtain ⟨hworld, hcalls, hrow⟩ := tableUser_cases hread
    have hboth : MakesOnly (resolveCalls id) x v :=
      hasked.trans (MakesOnly.of_call (by simp [resolveCalls]) hcalls)
    obtain ⟨_, hr⟩ | ⟨_, hr⟩ | hr | ⟨u, hr, huser⟩ := hrow
    · cases hr
    · cases hr
    · cases hr
      obtain ⟨rfl, rfl⟩ := Prod.mk.inj h
      exact ⟨by rw [hworld, hz], hboth, Or.inr (Or.inl rfl)⟩
    · cases hr
      rw [hz] at huser
      obtain ⟨_, hremember, _⟩ | ⟨_, v', hremember, h⟩ := Agora.Action.bind_eq h
      · cases (remember_cases hremember).1
      obtain ⟨rfl, rfl⟩ := Prod.mk.inj h
      obtain ⟨_, hv, hput⟩ := remember_cases hremember
      refine ⟨by rw [hv, hworld, hz], hboth.trans ?_, Or.inl ⟨u, rfl, Or.inr huser⟩⟩
      obtain hput | hput := hput
      · exact ⟨[], by simp [hput], by simp⟩
      · rw [Store.id_of_user? huser] at hput
        exact MakesOnly.of_call (by simp [resolveCalls]) hput

end Agora.Social
