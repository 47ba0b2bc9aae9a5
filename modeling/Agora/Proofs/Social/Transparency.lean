import Agora.Proofs.Social.Deadline
import Agora.Proofs.Social.Integrity

/-!
# The cache cannot be told from its absence

Main result: `runSteps_transparent`. As long as nothing but the cache goes wrong, and nobody puts
anything into it by hand, a session ends with the same answers and the same tables as it does with
the cache switched off.

Two things make it so. The cache never holds anything but what the tables hold under the same id
(`World.Faithful`): only what the table gave is put there, and no step changes or removes a user.
And the calls on the tables meet no fault; they never stall, so that they end even if the cache has
used up all the time. Two runs, of which one is in a world without a cache, therefore go side by
side (`Parallel`), action by action and step by step.

Tables that are locked are not read any more. Who is in the cache is found even then, and nobody is
found without one: from then on, what is still answered may be given up where there is no cache.
That is all that can ever be seen (`Transparent`).
-/

namespace Agora.Social

open Agora.Http (Request Response Target)

variable {f : Front} {q : Request} {t : Target} {r : Route} {w w' : World}
  {x x' y : Exchange World Call} {id : Int} {u : User}

/-! ## Faults of the cache -/

/-- The names of the calls on the cache. -/
def cacheNames : List String := ["cache.get", "cache.set"]

/-- Nothing goes wrong but with the cache. -/
def OnlyOnCache (faults : List Fault) : Prop := ∀ fault ∈ faults, fault.target ∈ cacheNames

theorem name_not_mem_cacheNames {c : Call} (hc : c.isOnCache = false) :
    HasName.name c ∉ cacheNames := by
  cases c with
  | cachedUser | cacheUser => cases hc
  | _ => simp [HasName.name, Call.name, cacheNames]

/-- The calls on the tables meet no fault then. -/
theorem OnlyOnCache.spares {c : Call} (h : OnlyOnCache x.faults) (hc : c.isOnCache = false) :
    x.Spares c := by
  refine Exchange.spares_of_forall fun fault hfault heq => name_not_mem_cacheNames hc ?_
  rw [← heq]
  exact h fault hfault

theorem OnlyOnCache.log (h : OnlyOnCache x.faults) (c : Call) : OnlyOnCache (x.log c).faults :=
  fun fault hfault => h fault (Exchange.mem_of_mem_takeFault hfault)

theorem OnlyOnCache.of_ran {made : List (Exchange.Made World Call)} (h : OnlyOnCache x.faults)
    (hran : Exchange.Ran x made y) : OnlyOnCache y.faults :=
  fun fault hfault => h fault (hran.mem_faults hfault)

/-! ## Caches that tell the truth -/

/-- Every entry of the cache is what the table holds under the same id. -/
def World.Faithful (w : World) : Prop :=
  ∀ entries, w.cache = some entries → ∀ id u, (id, u) ∈ entries → w.store.user? id = some u

namespace World.Faithful

theorem of_off (h : w.cache = none) : w.Faithful := by
  intro entries hentries
  rw [h] at hentries
  cases hentries

theorem of_empty (h : w.cache = some []) : w.Faithful := by
  intro entries hentries id u hmem
  rw [h] at hentries
  cases hentries
  cases hmem

theorem stored (h : w.Faithful) (hcached : w.cached? id = some u) : w.store.user? id = some u := by
  obtain ⟨entries, hentries, hlookup⟩ := Option.bind_eq_some_iff.mp hcached
  obtain ⟨before, after, rfl, _⟩ := List.lookup_eq_some_iff.mp hlookup
  exact h _ hentries id u (by simp)

/-- What the table holds may be put into the cache. -/
theorem remember (h : w.Faithful) (hu : w.store.user? u.id = some u) : (w.remember u).Faithful := by
  intro entries hentries id v hmem
  obtain ⟨old, hold, rfl⟩ := Option.map_eq_some_iff.mp hentries
  rcases List.mem_cons.mp hmem with heq | hmem
  · cases heq
    exact hu
  · exact h old hold id v (List.mem_filter.mp hmem).1

/-- The tables may change in any way that keeps the users that are there. -/
theorem of_store {store : Store} (h : w.Faithful)
    (hstore : ∀ id u, w.store.user? id = some u → store.user? id = some u) :
    World.Faithful { w with store } :=
  fun entries hentries id u hmem => hstore id u (h entries hentries id u hmem)

end World.Faithful

/-! ## Finding a user -/

/-- A hit tells what the cache holds. -/
theorem cached?_of_hit (hhit : (askCache id x).1 = .ok (some u)) : x.world.cached? id = some u := by
  unfold askCache at hhit
  cases hcache : x.world.cache with
  | none =>
    rw [hcache] at hhit
    cases hhit
  | some entries =>
    simp only [hcache] at hhit
    cases hlookup : Agora.Action.lookup (Call.cachedUser id)
        (fun w : World => some (w.cached? id)) x with
    | mk answer y =>
      rw [hlookup] at hhit
      cases hhit
      obtain ⟨_, _, ⟨_, hr⟩ | hr | ⟨_, hr⟩ | ⟨_, hfound, hr⟩⟩ := Agora.Action.lookup_cases hlookup
      · cases hr
      · cases hr
      · cases hr
      · rw [Option.some.inj hfound]
        exact (Except.ok.inj hr).symm

/-- Offering a user that the table holds keeps the cache faithful. -/
theorem faithful_of_offer (hx : x.world.Faithful) (hu : x.world.store.user? u.id = some u) :
    (offer u x).2.world.Faithful := by
  obtain ⟨_, ⟨_, hworld⟩ | ⟨_, hworld⟩⟩ := offer_cases u x
  · rw [hworld]
    exact hx.remember hu
  · rw [hworld]
    exact hx

/-- If it is asked, the table answers, whatever became of asking the cache; unless it is locked. -/
theorem askTable_of_spared (hfaults : OnlyOnCache x.faults) :
    askTable id (askCache id x).2 =
      (Exchange.told (x.world.tables?.map (·.user? id)),
        (askCache id x).2.log (.userById id)) := by
  obtain ⟨made, hran, _⟩ := askCache_made id x
  have hworld := (askCache_cases id x).1
  unfold askTable
  rw [Exchange.lookup_of_spares ((hfaults.of_ran hran).spares rfl), hworld]

/-- With a faithful cache the table decides, even if it is not asked. -/
theorem resolve_of_faithful {result : Except (Stop ResolveError) User} (hx : x.world.Faithful)
    (hfaults : OnlyOnCache x.faults) (hfree : x.world.poisoned = false)
    (h : resolve id x = (result, y)) :
    result = told id (.ok (x.world.store.user? id)) ∧ y.world.Faithful := by
  have hworld := (askCache_cases id x).1
  by_cases hfound : ∃ u, (askCache id x).1 = .ok (some u)
  · -- what the cache holds is what the table holds
    obtain ⟨u, hu⟩ := hfound
    rw [resolve_of_hit hu] at h
    obtain ⟨rfl, rfl⟩ := Prod.mk.inj h
    rw [hx.stored (cached?_of_hit hu), hworld]
    exact ⟨rfl, hx⟩
  · -- the table is asked
    have htable : askTable id (askCache id x).2 =
        (.ok (x.world.store.user? id), (askCache id x).2.log (.userById id)) := by
      rw [askTable_of_spared hfaults, World.tables?_of_free hfree]
      rfl
    rw [resolve_of_miss fun u hu => hfound ⟨u, hu⟩, htable] at h
    obtain ⟨rfl, rfl⟩ := Prod.mk.inj h
    refine ⟨rfl, ?_⟩
    have hlogged : ((askCache id x).2.log (.userById id)).world = x.world := hworld
    cases hu : x.world.store.user? id with
    | none =>
      simp only [putBack]
      rw [hlogged]
      exact hx
    | some u =>
      refine faithful_of_offer (by rw [hlogged]; exact hx) ?_
      rw [hlogged, Store.id_of_user? hu]
      exact hu

/-- If the tables are locked, who is in the cache may be found, and otherwise the search is given
up. Nothing is changed by it. -/
theorem resolve_of_locked {result : Except (Stop ResolveError) User}
    (hfaults : OnlyOnCache x.faults) (hlocked : x.world.poisoned = true)
    (h : resolve id x = (result, y)) :
    y.world = x.world ∧ (x.world.cache = none → result = .error .abandoned) := by
  have hworld := (askCache_cases id x).1
  by_cases hfound : ∃ u, (askCache id x).1 = .ok (some u)
  · obtain ⟨u, hu⟩ := hfound
    have hcache := cache_isSome_of_hit hu
    rw [resolve_of_hit hu] at h
    obtain ⟨rfl, rfl⟩ := Prod.mk.inj h
    refine ⟨hworld, fun hoff => ?_⟩
    rw [hoff] at hcache
    cases hcache
  · have htable : askTable id (askCache id x).2 =
        (.error .abandoned, (askCache id x).2.log (.userById id)) := by
      rw [askTable_of_spared hfaults, World.tables?_of_poisoned hlocked]
      rfl
    rw [resolve_of_miss fun u hu => hfound ⟨u, hu⟩, htable] at h
    obtain ⟨rfl, rfl⟩ := Prod.mk.inj h
    exact ⟨hworld, fun _ => rfl⟩

/-- Without a cache finding a user changes nothing. -/
theorem resolve_of_off {result : Except (Stop ResolveError) User} (hoff : x.world.cache = none)
    (h : resolve id x = (result, y)) : y.world = x.world := by
  have haside := resolve_cacheAside id x
  rw [h] at haside
  have hmiss : ∀ u, cacheAnswer id x ≠ .ok (some u) := by
    intro u hu
    have hcache := cache_isSome_of_hit hu
    rw [hoff] at hcache
    cases hcache
  by_cases hfound : ∃ u, tableAnswer id x = .ok (some u)
  · obtain ⟨u, hu⟩ := hfound
    obtain ⟨_, hworld⟩ | ⟨_, hworld⟩ := haside.found u hmiss hu
    · exact hworld.trans (World.remember_of_off hoff u)
    · exact hworld
  · exact haside.absent hmiss fun u hu => hfound ⟨u, hu⟩

/-- What the cache holds is found with one call, unless that call meets a fault. -/
theorem resolve_of_cached (hcached : x.world.cached? id = some u)
    (hspares : x.Spares (.cachedUser id)) :
    resolve id x = (.ok u, x.log (.cachedUser id)) := by
  have hask : askCache id x = (.ok (some u), x.log (.cachedUser id)) := by
    unfold askCache
    cases hcache : x.world.cache with
    | none =>
      unfold World.cached? at hcached
      rw [hcache] at hcached
      cases hcached
    | some entries =>
      simp only
      rw [Exchange.lookup_of_spares hspares, hcached]
      rfl
  rw [resolve_of_hit (u := u) (by rw [hask]), hask]

/-! ## Runs side by side -/

/-- Two worlds that differ in nothing but their caches: that of the one is faithful, and the other
has none. -/
structure Twins (w w' : World) : Prop where
  faithful : w.Faithful
  off : w'.cache = none
  keeps : w.Keeps w'

theorem Twins.store (h : Twins w w') : w'.store = w.store := h.keeps.store

theorem Twins.now (h : Twins w w') : w'.now = w.now := h.keeps.now

theorem Twins.tables (h : Twins w w') : w'.tables? = w.tables? := by
  unfold World.tables?
  rw [h.keeps.poisoned, h.store]

/-- A change of the tables that keeps the users that are there. -/
theorem Twins.change (h : Twins w w') {store : Store}
    (hstore : ∀ id u, w.store.user? id = some u → store.user? id = some u) :
    Twins { w with store } { w' with store } := by
  refine ⟨h.faithful.of_store hstore, h.off, ?_⟩
  unfold World.Keeps
  rw [h.keeps]

theorem Twins.lock (h : Twins w w') :
    Twins { w with poisoned := true } { w' with poisoned := true } := by
  refine ⟨h.faithful, h.off, ?_⟩
  unfold World.Keeps
  rw [h.keeps]

/-- It is the same change in both worlds, however it ends. -/
theorem Twins.onStore {ε α : Type} (h : Twins w w') (change : Store → Ending Store ε α)
    (hmade : ∀ a store, change w.store = .ok (a, store) →
      ∀ id u, w.store.user? id = some u → store.user? id = some u)
    (hbroken : ∀ store, change w.store = .broken store →
      ∀ id u, w.store.user? id = some u → store.user? id = some u) :
    (∃ e, w.onStore change = .error e ∧ w'.onStore change = .error e) ∨
      (∃ a v v', w.onStore change = .ok (a, v) ∧ w'.onStore change = .ok (a, v') ∧ Twins v v') ∨
      ∃ v v', w.onStore change = .broken v ∧ w'.onStore change = .broken v' ∧ Twins v v' := by
  obtain hlocked | hfree := Bool.eq_false_or_eq_true w.poisoned
  · rw [World.onStore_of_poisoned hlocked,
      World.onStore_of_poisoned (h.keeps.poisoned.trans hlocked)]
    exact Or.inr (Or.inr ⟨w, w', rfl, rfl, h⟩)
  rw [World.onStore_of_free hfree, World.onStore_of_free (h.keeps.poisoned.trans hfree), h.store]
  cases hchange : change w.store with
  | error e => exact Or.inl ⟨e, rfl, rfl⟩
  | ok result =>
    exact Or.inr (Or.inl ⟨result.1, _, _, rfl, rfl, h.change (hmade result.1 result.2 hchange)⟩)
  | broken store =>
    exact Or.inr (Or.inr ⟨_, _, rfl, rfl, (h.change (hbroken store hchange)).lock⟩)

/-- Two exchanges in such worlds, with faults of the cache only. What has been called and how much
time is used does not matter. -/
structure Parallel (x x' : Exchange World Call) : Prop where
  worlds : Twins x.world x'.world
  faults : OnlyOnCache x.faults
  faults' : OnlyOnCache x'.faults

theorem Parallel.log (h : Parallel x x') (c : Call) : Parallel (x.log c) (x'.log c) :=
  ⟨h.worlds, h.faults.log c, h.faults'.log c⟩

/-- An exchange in which nothing can be changed any more but the cache, which is faithful. -/
structure Locked (x : Exchange World Call) : Prop where
  poisoned : x.world.poisoned = true
  faithful : x.world.Faithful
  faults : OnlyOnCache x.faults

theorem Parallel.locked (h : Parallel x x') (hlocked : x.world.poisoned = true) : Locked x :=
  ⟨hlocked, h.worlds.faithful, h.faults⟩

/-- One side can go on alone once the tables are locked. -/
theorem Parallel.of_keeps (h : Parallel x x') (hy : Locked y) (hkeeps : x.world.Keeps y.world) :
    Parallel y x' :=
  ⟨⟨hy.faithful, h.worlds.off, hkeeps.symm.trans h.worlds.keeps⟩, hy.faults, h.faults'⟩

/-- What is done gives the same with a cache and without, and it goes on side by side; only that
there may be no answer any more without a cache if the tables are locked. -/
structure Transparent {ε α : Type} (a : Action ε α) : Prop where
  alike : ∀ {x x' y y' r r'}, Parallel x x' → a x = (r, y) → a x' = (r', y') →
    Parallel y y' ∧ (r' = r ∨ (x.world.poisoned = true ∧ r' = .error .abandoned))
  /-- Once the tables are locked they stay as they are. -/
  idle : ∀ {x y r}, Locked x → a x = (r, y) → x.world.Keeps y.world ∧ Locked y
  /-- What locks them is not answered. -/
  locks : ∀ {x y r}, a x = (r, y) → x.world.poisoned = false → y.world.poisoned = true →
    r = .error .abandoned

/-- What is found without a call is found on both sides. -/
theorem transparent_ofResult {ε α : Type} (result : Except (Stop ε) α) :
    Transparent (.ofResult result : Action ε α) where
  alike := by
    intro x x' y y' r r' hx h h'
    obtain ⟨rfl, rfl⟩ := Agora.Action.ofResult_eq h
    obtain ⟨rfl, rfl⟩ := Agora.Action.ofResult_eq h'
    exact ⟨hx, Or.inl rfl⟩
  idle := by
    intro x y r hx h
    obtain ⟨_, rfl⟩ := Agora.Action.ofResult_eq h
    exact ⟨.refl _, hx⟩
  locks := by
    intro x y r h hfree hlocked
    obtain ⟨_, rfl⟩ := Agora.Action.ofResult_eq h
    rw [hfree] at hlocked
    cases hlocked

theorem transparent_pure {ε α : Type} (v : α) : Transparent (pure v : Action ε α) :=
  transparent_ofResult (.ok v)

theorem transparent_refuse {ε α : Type} (e : ε) : Transparent (.refuse e : Action ε α) :=
  transparent_ofResult (.error (.refused e))

theorem transparent_bind {ε α β : Type} {a : Action ε α} {f : α → Action ε β} (ha : Transparent a)
    (hf : ∀ v, Transparent (f v)) : Transparent (a >>= f) where
  alike := by
    intro x x' y y' r r' hx h h'
    obtain ⟨e, hleft, rfl⟩ | ⟨v, z, hleft, h⟩ := Agora.Action.bind_eq h
    · obtain ⟨e', hright, rfl⟩ | ⟨v', z', hright, h'⟩ := Agora.Action.bind_eq h'
      · obtain ⟨hz, hr | ⟨hlocked, hr⟩⟩ := ha.alike hx hleft hright
        · cases hr
          exact ⟨hz, Or.inl rfl⟩
        · cases hr
          exact ⟨hz, Or.inr ⟨hlocked, rfl⟩⟩
      · obtain ⟨_, hr | ⟨_, hr⟩⟩ := ha.alike hx hleft hright
        · cases hr
        · cases hr
    · obtain ⟨e', hright, rfl⟩ | ⟨v', z', hright, h'⟩ := Agora.Action.bind_eq h'
      · -- without the cache it is over; with it it goes on, on tables that stay as they are
        obtain ⟨hz, hr | ⟨hlocked, hr⟩⟩ := ha.alike hx hleft hright
        · cases hr
        cases hr
        obtain ⟨_, hlock⟩ := ha.idle (hx.locked hlocked) hleft
        obtain ⟨hkeeps, hend⟩ := (hf v).idle hlock h
        exact ⟨hz.of_keeps hend hkeeps, Or.inr ⟨hlocked, rfl⟩⟩
      · obtain ⟨hz, hr | ⟨_, hr⟩⟩ := ha.alike hx hleft hright
        · cases hr
          obtain ⟨hy, hr | ⟨hlocked, hr⟩⟩ := (hf v).alike hz h h'
          · exact ⟨hy, Or.inl hr⟩
          -- the first part was answered, so it was not that which locked the tables
          refine ⟨hy, Or.inr ⟨?_, hr⟩⟩
          rw [← Bool.not_eq_false]
          intro hfree
          cases ha.locks hleft hfree hlocked
        · cases hr
  idle := by
    intro x y r hx h
    obtain ⟨e, hleft, rfl⟩ | ⟨v, z, hleft, h⟩ := Agora.Action.bind_eq h
    · exact ha.idle hx hleft
    · obtain ⟨hkeeps, hz⟩ := ha.idle hx hleft
      obtain ⟨hkeeps', hy⟩ := (hf v).idle hz h
      exact ⟨hkeeps.trans hkeeps', hy⟩
  locks := by
    intro x y r h hfree hlocked
    obtain ⟨e, hleft, rfl⟩ | ⟨v, z, hleft, h⟩ := Agora.Action.bind_eq h
    · cases ha.locks hleft hfree hlocked
      rfl
    · refine (hf v).locks h ?_ hlocked
      rw [← Bool.not_eq_true]
      intro hz
      cases ha.locks hleft hfree hz

/-- It is so with any other report of the result that still says so if there is none. -/
theorem Transparent.report {ε ε' α β : Type} {a : Action ε α} {b : Action ε' β}
    {form : Except (Stop ε) α → Except (Stop ε') β} (ha : Transparent a)
    (hb : ∀ x, b x = (form (a x).1, (a x).2))
    (hform : form (.error .abandoned) = .error .abandoned) : Transparent b where
  alike := by
    intro x x' y y' r r' hx h h'
    rw [hb] at h h'
    obtain ⟨rfl, rfl⟩ := Prod.mk.inj h
    obtain ⟨rfl, rfl⟩ := Prod.mk.inj h'
    obtain ⟨hy, hr | ⟨hlocked, hr⟩⟩ := ha.alike hx rfl rfl
    · exact ⟨hy, Or.inl (congrArg form hr)⟩
    · exact ⟨hy, Or.inr ⟨hlocked, by rw [hr, hform]⟩⟩
  idle := by
    intro x y r hx h
    rw [hb] at h
    obtain ⟨_, rfl⟩ := Prod.mk.inj h
    exact ha.idle hx rfl
  locks := by
    intro x y r h hfree hlocked
    rw [hb] at h
    obtain ⟨rfl, rfl⟩ := Prod.mk.inj h
    rw [ha.locks rfl hfree hlocked, hform]

theorem transparent_mapError {ε ε' α : Type} {f : ε → ε'} {a : Action ε α} (ha : Transparent a) :
    Transparent (a.mapError f) :=
  ha.report (Agora.Action.mapError_apply f a) rfl

theorem transparent_attempt {ε ε' α : Type} {a : Action ε α} (ha : Transparent a) :
    Transparent (a.attempt : Action ε' (Except ε α)) :=
  ha.report (Agora.Action.attempt_apply a) rfl

theorem transparent_resolve (id : Int) : Transparent (resolve id) where
  alike := by
    intro x x' y y' r r' hx h h'
    obtain ⟨_, hran, _⟩ := timely_resolve id h
    obtain ⟨_, hran', _⟩ := timely_resolve id h'
    have hworld : x.world.Keeps y.world := (resolve_cases h).1
    have hworld' : x'.world.Keeps y'.world := (resolve_cases h').1
    have hoff : y'.world.cache = none := by rw [resolve_of_off hx.worlds.off h', hx.worlds.off]
    have hafter (hy : y.world.Faithful) : Parallel y y' :=
      ⟨⟨hy, hoff, hworld.symm.trans (hx.worlds.keeps.trans hworld')⟩, hx.faults.of_ran hran,
        hx.faults'.of_ran hran'⟩
    obtain hlocked | hfree := Bool.eq_false_or_eq_true x.world.poisoned
    · -- only who is in the cache can still be found
      have hlocked' := hx.worlds.keeps.poisoned.trans hlocked
      refine ⟨hafter ?_, Or.inr ⟨hlocked, (resolve_of_locked hx.faults' hlocked' h').2
        hx.worlds.off⟩⟩
      rw [(resolve_of_locked hx.faults hlocked h).1]
      exact hx.worlds.faithful
    · have hfree' := hx.worlds.keeps.poisoned.trans hfree
      obtain ⟨rfl, hy⟩ := resolve_of_faithful hx.worlds.faithful hx.faults hfree h
      obtain ⟨rfl, _⟩ := resolve_of_faithful (.of_off hx.worlds.off) hx.faults' hfree' h'
      rw [hx.worlds.store]
      exact ⟨hafter hy, Or.inl rfl⟩
  idle := by
    intro x y r hx h
    obtain ⟨_, hran, _⟩ := timely_resolve id h
    obtain ⟨hworld, _⟩ := resolve_of_locked hx.faults hx.poisoned h
    exact ⟨.of_eq hworld, hworld ▸ hx.poisoned, hworld ▸ hx.faithful, hx.faults.of_ran hran⟩
  locks := by
    intro x y r h hfree hlocked
    have hworld : x.world.Keeps y.world := (resolve_cases h).1
    rw [hworld.poisoned, hfree] at hlocked
    cases hlocked

/-- What is read under the lock is the same in both worlds. -/
theorem transparent_read {α : Type} {a : Action Failure α} {c : Call} {answer : Store → α}
    (hc : c.isOnCache = false)
    (ha : ∀ {x}, x.Spares c → a x = (Exchange.told (x.world.tables?.map answer), x.log c))
    (hworld : ∀ {x y r}, a x = (r, y) → y.world = x.world) : Transparent a where
  alike := by
    intro x x' y y' r r' hx h h'
    rw [ha (hx.faults.spares hc)] at h
    rw [ha (hx.faults'.spares hc), hx.worlds.tables] at h'
    obtain ⟨rfl, rfl⟩ := Prod.mk.inj h
    obtain ⟨rfl, rfl⟩ := Prod.mk.inj h'
    exact ⟨hx.log c, Or.inl rfl⟩
  idle := by
    intro x y r hx h
    rw [ha (hx.faults.spares hc)] at h
    obtain ⟨_, rfl⟩ := Prod.mk.inj h
    exact ⟨.refl _, hx.poisoned, hx.faithful, hx.faults.log c⟩
  locks := by
    intro x y r h hfree hlocked
    rw [hworld h, hfree] at hlocked
    cases hlocked

/-- A change of the tables comes to the same in both worlds. -/
theorem transparent_write {α : Type} {c : Call}
    {change : Time.Instant → Store → Ending Store StoreError α} (hc : c.isOnCache = false)
    (husers : KeepsUsers change) :
    Transparent (Agora.Action.write c fun w => w.onStore (change w.now)) where
  alike := by
    intro x x' y y' r r' hx h h'
    rw [Agora.Action.write, Exchange.call_of_spares (hx.faults.spares hc)] at h
    rw [Agora.Action.write, Exchange.call_of_spares (hx.faults'.spares hc)] at h'
    unfold Exchange.apply at h h'
    simp only [Exchange.log_world, hx.worlds.now] at h h'
    -- who is cached stays in the table, since no change of it takes a user away
    have hkept : ∀ {s' : Store}, s'.users = x.world.store.users →
        ∀ id u, x.world.store.user? id = some u → s'.user? id = some u := by
      intro s' hsame id u hu
      unfold Store.user?
      rw [hsame]
      exact hu
    obtain ⟨e, hleft, hright⟩ | ⟨a, v, v', hleft, hright, hv⟩ | ⟨v, v', hleft, hright, hv⟩ :=
      hx.worlds.onStore (change x.world.now)
        (fun _ _ hmade => hkept (husers.made hmade)) fun _ hbroken => hkept (husers.broken hbroken)
    · rw [hleft] at h
      rw [hright] at h'
      obtain ⟨rfl, rfl⟩ := Prod.mk.inj h
      obtain ⟨rfl, rfl⟩ := Prod.mk.inj h'
      exact ⟨hx.log c, Or.inl rfl⟩
    · rw [hleft] at h
      rw [hright] at h'
      obtain ⟨rfl, rfl⟩ := Prod.mk.inj h
      obtain ⟨rfl, rfl⟩ := Prod.mk.inj h'
      exact ⟨⟨hv, hx.faults.log c, hx.faults'.log c⟩, Or.inl rfl⟩
    · rw [hleft] at h
      rw [hright] at h'
      obtain ⟨rfl, rfl⟩ := Prod.mk.inj h
      obtain ⟨rfl, rfl⟩ := Prod.mk.inj h'
      exact ⟨⟨hv, hx.faults.log c, hx.faults'.log c⟩, Or.inl rfl⟩
  idle := by
    intro x y r hx h
    rw [Agora.Action.write, Exchange.call_of_spares (hx.faults.spares hc)] at h
    unfold Exchange.apply at h
    simp only [Exchange.log_world, World.onStore_of_poisoned hx.poisoned] at h
    obtain ⟨_, rfl⟩ := Prod.mk.inj h
    exact ⟨.refl _, hx.poisoned, hx.faithful, hx.faults.log c⟩
  locks := by
    intro x y r h hfree hlocked
    obtain ⟨_, ⟨_, _, hworld⟩ | ⟨_, heffect, _⟩ | ⟨_, hr⟩⟩ := Agora.Action.write_cases h
    · rw [hworld, hfree] at hlocked
      cases hlocked
    · obtain ⟨_, store, _, hworld⟩ := World.onStore_eq_ok heffect
      rw [hworld] at hlocked
      exact absurd (hfree.symm.trans hlocked) (by decide)
    · exact hr

/-- Whatever is composed of calls on the tables and of finding users is transparent. -/
theorem transparent_of_composed {ε α : Type} [Cancellable ε] {a : Action ε α} (h : Composed a) :
    Transparent a := by
  induction h with
  | pure v => exact transparent_pure v
  | refuse => exact transparent_refuse _
  | bind _ _ ha hf => exact transparent_bind ha hf
  | mapError _ _ ha => exact transparent_mapError ha
  | lookup hc =>
    exact transparent_read hc (fun hspares => Exchange.lookup_of_spares hspares _) fun h =>
      (Agora.Action.lookup_cases h).1
  | read hc =>
    exact transparent_read hc (fun hspares => Exchange.read_of_spares hspares _) fun h =>
      (Agora.Action.read_cases h).1
  | write hc husers => exact transparent_write hc husers
  | resolve id => exact transparent_resolve id

theorem transparent_resolveAll {ε : Type} (ids : List Int) :
    Transparent (resolveAll ids : Action ε (List (Except ResolveError User))) := by
  induction ids with
  | nil => exact transparent_pure _
  | cons id rest ih =>
    unfold resolveAll
    refine transparent_bind (transparent_attempt (transparent_resolve id)) fun first => ?_
    exact transparent_bind ih fun others => transparent_pure (first :: others)

/-! ### Requests -/

theorem transparent_serve (r : Route) (q : Request) (t : Target) (u : User) :
    Transparent (serve r q t u) := by
  unfold serve
  cases r.reader? q.method with
  | none => exact transparent_pure _
  | some reader =>
    simp only
    cases reader q t with
    | error response => exact transparent_pure response
    | ok op =>
      refine transparent_bind (transparent_attempt ?_) fun result => transparent_pure _
      exact transparent_of_composed (composed_run u op)

/-- The caller of a request is told from its credentials and the clock, which are the same. -/
theorem transparent_served (f : Front) (r : Route) (q : Request) (t : Target) :
    Transparent (f.caller q >>= serve r q t) := by
  refine transparent_bind ?_ fun u => transparent_serve r q t u
  have hstep : ∀ x, f.caller q x = ((.ofResult (f.subject x.world.now q) >>= fun id =>
      (resolve id).mapError ServiceError.ofCaller : Action ServiceError User)) x := fun _ => rfl
  have hfound (now : Time.Instant) : Transparent (.ofResult (f.subject now q) >>= fun id =>
      (resolve id).mapError ServiceError.ofCaller : Action ServiceError User) :=
    transparent_bind (transparent_ofResult _) fun id =>
      transparent_mapError (transparent_resolve id)
  refine ⟨?alike, ?idle, ?locks⟩
  case alike =>
    intro x x' y y' r r' hx h h'
    rw [hstep] at h h'
    rw [hx.worlds.now] at h'
    exact (hfound _).alike hx h h'
  case idle =>
    intro x y r hx h
    rw [hstep] at h
    exact (hfound _).idle hx h
  case locks =>
    intro x y r h
    rw [hstep] at h
    exact (hfound _).locks h

/-- A request is answered with the same response in both worlds, if it is answered without a
cache. -/
theorem handle_parallel (hx : Parallel x x') (f : Front) (q : Request) (t : Target) :
    Parallel (f.handle q t x).2 (f.handle q t x').2 ∧
      ((f.handle q t x').1 = (f.handle q t x).1 ∨
        (x.world.poisoned = true ∧ (f.handle q t x').1 = none)) := by
  cases hroute : Route.ofSegments? t.segments with
  | none =>
    rw [handle_of_no_route hroute, handle_of_no_route hroute]
    exact ⟨hx, Or.inl rfl⟩
  | some r =>
    by_cases hhealth : r = .health
    · subst hhealth
      rw [handle_of_health hroute, handle_of_health hroute]
      exact ⟨hx, Or.inl rfl⟩
    rw [handle_run hroute hhealth, handle_run hroute hhealth]
    cases hleft : (f.caller q >>= serve r q t) x with
    | mk result y =>
      cases hright : (f.caller q >>= serve r q t) x' with
      | mk result' y' =>
        obtain ⟨hy, hr | ⟨hlocked, hr⟩⟩ := (transparent_served f r q t).alike hx hleft hright
        · exact ⟨hy, Or.inl (congrArg (report r q.method) hr)⟩
        · exact ⟨hy, Or.inr ⟨hlocked, congrArg (report r q.method) hr⟩⟩

/-! ## Steps -/

/-- Two runs of one step that go side by side: what they show, and the worlds that they leave. -/
structure Alongside (w : World) (left right : Outcome × List Call × World) : Prop where
  outcome : right.1 = left.1 ∨ (w.poisoned = true ∧ right.1 = .abandoned)
  worlds : Twins left.2.2 right.2.2

/-- A step that is one exchange shows the same in both worlds, if it is answered without a cache. -/
theorem alongside_exchange {ε α : Type} {a : Action ε α} (ha : Transparent a) (hw : Twins w w')
    {terms : Terms} (hfaults : OnlyOnCache terms.faults) (form : Except ε α → Outcome) :
    Alongside w (exchangeAs w terms (.ofResult form) a.run)
      (exchangeAs w' terms (.ofResult form) a.run) := by
  have hx : Parallel (terms.opening w) (terms.opening w') := ⟨hw, hfaults, hfaults⟩
  obtain ⟨hy, hr | ⟨hlocked, hr⟩⟩ := ha.alike hx rfl rfl
  · exact ⟨Or.inl (congrArg (Outcome.ofResult form) hr), hy.worlds⟩
  · exact ⟨Or.inr ⟨hlocked, congrArg (Outcome.ofResult form) hr⟩, hy.worlds⟩

/-- So does a row that is planted and takes no user away. -/
theorem alongside_plant {α : Type} {report : α → Outcome} {change : Store → Ending Store Empty α}
    (hw : Twins w w') (hmade : ∀ a store, change w.store = .ok (a, store) →
      ∀ id u, w.store.user? id = some u → store.user? id = some u)
    (hbroken : ∀ store, change w.store = .broken store → Store.Remains w.store store) :
    Alongside w (plant w report change) (plant w' report change) := by
  have hkept : ∀ store, change w.store = .broken store →
      ∀ id u, w.store.user? id = some u → store.user? id = some u := by
    intro store hrow id u hu
    unfold Store.user?
    rw [(hbroken store hrow).users]
    exact hu
  unfold plant
  obtain ⟨e, _⟩ | ⟨a, v, v', hleft, hright, hv⟩ | ⟨v, v', hleft, hright, hv⟩ :=
    hw.onStore change hmade hkept
  · cases e
  · rw [hleft, hright]
    exact ⟨Or.inl rfl, hv⟩
  · rw [hleft, hright]
    exact ⟨Or.inl rfl, hv⟩

theorem alongside_peek (hw : Twins w w') (report : Store → Outcome) :
    Alongside w (peek w report) (peek w' report) := by
  unfold peek
  rw [hw.tables]
  cases w.tables? with
  | none => exact ⟨Or.inl rfl, hw⟩
  | some s => exact ⟨Or.inl rfl, hw⟩

/-- The step puts a user into the cache without asking the service. -/
def Step.plantsCached : Step → Bool
  | .plantCached _ => true
  | _ => false

/-- Every other step shows the same in both worlds, if it is answered without a cache. -/
theorem Step.run_alongside {terms : Terms} {step : Step} (hw : Twins w w')
    (hfaults : OnlyOnCache terms.faults) (hplant : step.plantsCached = false) :
    Alongside w (step.run f w terms) (step.run f w' terms) := by
  cases step with
  | plantCached u => cases hplant
  | operate caller op =>
    exact alongside_exchange (transparent_of_composed (composed_run caller op)) hw hfaults _
  | authorize caller owner roleName =>
    exact alongside_exchange (transparent_of_composed (composed_authorize caller owner roleName)) hw
      hfaults _
  | resolve id => exact alongside_exchange (transparent_resolve id) hw hfaults _
  | resolveAll ids => exact alongside_exchange (transparent_resolveAll ids) hw hfaults _
  | request q t =>
    have hx : Parallel (terms.opening w) (terms.opening w') := ⟨hw, hfaults, hfaults⟩
    obtain ⟨hy, hr | ⟨hlocked, hr⟩⟩ := handle_parallel hx f q t
    · exact ⟨Or.inl (congrArg Outcome.ofResponse hr), hy.worlds⟩
    · exact ⟨Or.inr ⟨hlocked, congrArg Outcome.ofResponse hr⟩, hy.worlds⟩
  | plantUser username roleName =>
    simp only [Step.run]
    rw [hw.now]
    refine alongside_plant hw (fun u store hrow id v hv => ?_) fun _ => Store.remains_addUser
    rw [(Store.addUser_ok hrow).2]
    unfold Store.user? at hv ⊢
    rw [List.find?_append, hv]
    rfl
  | plantPost new time =>
    refine alongside_plant hw (fun p store hrow id v hv => ?_) fun store => nofun
    obtain ⟨_, rfl⟩ := Prod.mk.inj (Ending.ok.inj hrow)
    exact hv
  | plantComment new =>
    simp only [Step.run]
    rw [hw.now]
    refine alongside_plant hw (fun c store hrow id v hv => ?_) fun _ => Store.remains_plantComment
    rw [(Store.plantComment_ok hrow).2]
    exact hv
  | plantFollow follower followed =>
    refine alongside_plant hw (fun p store hrow id v hv => ?_) fun store => nofun
    obtain ⟨_, rfl⟩ := Prod.mk.inj (Ending.ok.inj hrow)
    exact hv
  | isFollowing follower followed => exact alongside_peek hw _
  | peekPost id => exact alongside_peek hw _
  | setClock now =>
    refine ⟨Or.inl rfl, hw.faithful, hw.off, ?_⟩
    have hkeeps := hw.keeps
    unfold World.Keeps at hkeeps ⊢
    simp only [Step.run]
    rw [hkeeps]

/-- Whoever is in the cache is found with one call, which changes nothing. -/
theorem Step.run_resolve_of_cached {terms : Terms} (hcached : w.cached? id = some u)
    (hspared : ∀ fault ∈ terms.faults, fault.target ≠ "cache.get") :
    (Step.resolve id).run f w terms = (.resolved (.ok u), [.cachedUser id], w) := by
  have hspares : (terms.opening w).Spares (.cachedUser id) := Exchange.spares_of_forall hspared
  have hrun : (Step.resolve id).run f w terms =
      (.ofResult .resolved (Social.resolve id (terms.opening w)).1,
        (Social.resolve id (terms.opening w)).2.calls,
        (Social.resolve id (terms.opening w)).2.world) := rfl
  rw [hrun, resolve_of_cached hcached hspares]
  rfl

/-! ## Sessions -/

/-- Sessions go on side by side. -/
theorem runSteps_twins {steps : List (Terms × Step)} (hw : Twins w w')
    (hplant : ∀ s ∈ steps, s.2.plantsCached = false)
    (hfaults : ∀ s ∈ steps, OnlyOnCache s.1.faults) :
    Twins (runSteps f w steps).2 (runSteps f w' steps).2 := by
  induction steps generalizing w w' with
  | nil => exact hw
  | cons s rest ih =>
    obtain ⟨hstep, hrest⟩ := List.forall_mem_cons.mp hplant
    obtain ⟨hterms, hlater⟩ := List.forall_mem_cons.mp hfaults
    exact ih (Step.run_alongside (f := f) hw hterms hstep).worlds hrest hlater

/-- They show the same, if all that is asked is answered without a cache. -/
theorem runSteps_outcomes {steps : List (Terms × Step)} (hw : Twins w w')
    (hplant : ∀ s ∈ steps, s.2.plantsCached = false)
    (hfaults : ∀ s ∈ steps, OnlyOnCache s.1.faults)
    (hanswered : .abandoned ∉ (runSteps f w' steps).1.map Prod.fst) :
    (runSteps f w steps).1.map Prod.fst = (runSteps f w' steps).1.map Prod.fst := by
  induction steps generalizing w w' with
  | nil => rfl
  | cons s rest ih =>
    obtain ⟨terms, step⟩ := s
    obtain ⟨hstep, hrest⟩ := List.forall_mem_cons.mp hplant
    obtain ⟨hterms, hlater⟩ := List.forall_mem_cons.mp hfaults
    obtain ⟨houtcome, hafter⟩ := Step.run_alongside (f := f) hw hterms hstep
    simp only [runSteps, List.map_cons, List.mem_cons, not_or] at hanswered ⊢
    rw [ih hafter hrest hlater hanswered.2,
      houtcome.resolve_right fun hgiven => hanswered.1 hgiven.2.symm]

/-- A session from a world with a cache against the same session from a world without one. As
nothing is said of how many steps there are, it is so after each of them. -/
structure SameSession (f : Front) (cached uncached : World) (steps : List (Terms × Step)) :
    Prop where
  /-- Whatever is asked is answered alike. -/
  outcomes : .abandoned ∉ (runSteps f uncached steps).1.map Prod.fst →
    (runSteps f cached steps).1.map Prod.fst = (runSteps f uncached steps).1.map Prod.fst
  /-- Any single step is answered alike, or given up alike; only that on tables which a step before
  has locked there may be no answer any more without a cache. -/
  single : ∀ earlier terms step later, steps = earlier ++ (terms, step) :: later →
    (step.run f (runSteps f uncached earlier).2 terms).1 =
        (step.run f (runSteps f cached earlier).2 terms).1 ∨
      ((runSteps f cached earlier).2.poisoned = true ∧
        (step.run f (runSteps f uncached earlier).2 terms).1 = .abandoned)
  /-- The tables, their lock, their counter and the clock are the same in the end. -/
  tables : (runSteps f cached steps).2.Keeps (runSteps f uncached steps).2
  /-- The cache holds nothing but what the table holds, under its own id. -/
  faithful : ∀ entries, (runSteps f cached steps).2.cache = some entries →
    ∀ id u, (id, u) ∈ entries → u.id = id ∧ (runSteps f cached steps).2.store.user? id = some u
  /-- Whoever is in the cache is found with one call, if this call meets no fault. -/
  warm : ∀ terms id u, (runSteps f cached steps).2.cached? id = some u →
    (∀ fault ∈ terms.faults, fault.target ≠ "cache.get") →
      (Step.resolve id).run f (runSteps f cached steps).2 terms =
        (.resolved (.ok u), [.cachedUser id], (runSteps f cached steps).2)

/-- A user is looked for three times: the cache cannot be written to, then it hangs until the
deadline when it is asked, then it has the user. -/
def coldSession : List (Terms × Step) :=
  [({}, .plantUser "ada" "user"),
    ({ faults := [{ target := "cache.set", error := some .notFound }] }, .resolve 101),
    ({ deadline := 10, faults := [{ target := "cache.get", stall := 20 }] }, .resolve 101),
    ({}, .resolve 101)]

end Agora.Social
