import Agora.Proofs.Exchange.Time
import Agora.Proofs.Social.Resolver

/-!
# The cache beside the table

Main result: `resolve_cacheAside`. Whatever goes wrong with the cache or the table, a user that the
cache has is the answer and nothing else is asked; otherwise the table is asked once, and its answer
is the answer. What goes wrong with the cache is never seen, and only a record that the table gave
is put into it.

The three calls stand here with what goes wrong in them (`askCache`, `askTable`, `offer`);
`resolve_of_hit` and `resolve_of_miss` say how finding a user is made of them.
-/

namespace Agora.Social

variable {x y z : Exchange World Call} {id : Int} {u : User}

/-! ## The three calls -/

/-- Asks the cache for a user. With the cache switched off there is nothing to ask. -/
def askCache (id : Int) : Action Failure (Option User) := fun x =>
  match x.world.cache with
  | none => (.ok none, x)
  | some _ => Agora.Action.lookup (Call.cachedUser id) (fun w => some (w.cached? id)) x

/-- Asks the table for a user. -/
def askTable (id : Int) : Action Failure (Option User) :=
  Agora.Action.lookup (Call.userById id) fun w => w.tables?.map (·.user? id)

/-- Offers a user to the cache. -/
def offer (u : User) : Action Failure Unit := fun x =>
  match x.world.cache with
  | none => (.ok (), x)
  | some _ => Agora.Action.write (Call.cacheUser u.id) (fun w => .ok ((), w.remember u)) x

/-- The calls of which the log tells. Of a cache that is switched off it tells nothing. -/
def World.logged (w : World) (calls : List Call) : List Call :=
  if w.cache.isSome then calls else calls.filter fun c => !c.isOnCache

theorem askCache_cases (id : Int) (x : Exchange World Call) :
    (askCache id x).2.world = x.world ∧
      (askCache id x).2.calls = x.calls ++ x.world.logged [.cachedUser id] ∧
      (askCache id x).1 ≠ .error .abandoned := by
  unfold askCache World.logged
  cases hcache : x.world.cache with
  | none => exact ⟨rfl, (List.append_nil _).symm, nofun⟩
  | some entries =>
    have hlookup : Agora.Action.lookup (Call.cachedUser id)
      (fun w : World => some (w.cached? id)) x = (_, _) := rfl
    obtain ⟨hworld, hcalls, hended⟩ := Agora.Action.lookup_cases hlookup
    refine ⟨hworld, hcalls, fun hgiven => ?_⟩
    obtain ⟨_, hr⟩ | hr | ⟨hnone, _⟩ | ⟨_, _, hr⟩ := hended
    · cases hr.symm.trans hgiven
    · cases hr.symm.trans hgiven
    · cases hnone
    · cases hr.symm.trans hgiven

/-- A cache that is switched off has nobody. -/
theorem cache_isSome_of_hit (hhit : (askCache id x).1 = .ok (some u)) :
    x.world.cache.isSome = true := by
  unfold askCache at hhit
  cases hcache : x.world.cache with
  | none =>
    rw [hcache] at hhit
    cases hhit
  | some entries => rfl

theorem askTable_cases (id : Int) (x : Exchange World Call) :
    (askTable id x).2.world = x.world ∧ (askTable id x).2.calls = x.calls ++ [.userById id] ∧
      ((askTable id x).1 = .error .abandoned → x.world.poisoned = true) := by
  have hask : askTable id x = (_, _) := rfl
  obtain ⟨hworld, hcalls, hended⟩ := Agora.Action.lookup_cases hask
  refine ⟨hworld, hcalls, fun hgiven => ?_⟩
  obtain ⟨_, hr⟩ | hr | ⟨hnone, _⟩ | ⟨_, _, hr⟩ := hended
  · cases hr.symm.trans hgiven
  · cases hr.symm.trans hgiven
  · rwa [Option.map_eq_none_iff, World.tables?_eq_none] at hnone
  · cases hr.symm.trans hgiven

theorem World.remember_of_off {w : World} (h : w.cache = none) (u : User) : w.remember u = w := by
  unfold World.remember
  rw [h, Option.map_none, ← h]

/-- A user is taken by the cache, or the cache stays as it is. -/
theorem offer_cases (u : User) (x : Exchange World Call) :
    (offer u x).2.calls = x.calls ++ x.world.logged [.cacheUser u.id] ∧
      (((offer u x).1 = .ok () ∧ (offer u x).2.world = x.world.remember u) ∨
        ((∃ failure, (offer u x).1 = .error (.refused failure)) ∧
          (offer u x).2.world = x.world)) := by
  unfold offer World.logged
  cases hcache : x.world.cache with
  | none => exact ⟨(List.append_nil _).symm, Or.inl ⟨rfl, (World.remember_of_off hcache u).symm⟩⟩
  | some entries =>
    have hwrite : Agora.Action.write (Call.cacheUser u.id)
      (fun w : World => .ok ((), w.remember u)) x = (_, _) := rfl
    obtain ⟨hcalls, ⟨failure, hr, hworld⟩ | ⟨a, heffect, hr⟩ | ⟨heffect, _⟩⟩ :=
      Agora.Action.write_cases hwrite
    · exact ⟨hcalls, Or.inr ⟨⟨failure, hr⟩, hworld⟩⟩
    · simp only [Ending.ok.injEq, Prod.mk.injEq, true_and] at heffect
      exact ⟨hcalls, Or.inl ⟨hr, heffect.symm⟩⟩
    · cases heffect

/-- Failures of the cache count as misses. -/
theorem cachedUser_run {ε : Type} (id : Int) (x : Exchange World Call) :
    (cachedUser id : Action ε (Option User)) x =
      (.ok ((askCache id x).1.toOption.join), (askCache id x).2) := by
  have hanswered := (askCache_cases id x).2.2
  unfold askCache at hanswered
  unfold cachedUser askCache
  cases hcache : x.world.cache with
  | none => rfl
  | some entries =>
    rw [hcache] at hanswered
    simp only at hanswered ⊢
    cases hlookup : Agora.Action.lookup (Call.cachedUser id)
        (fun w : World => some (w.cached? id)) x with
    | mk result z =>
      rw [hlookup] at hanswered
      match result, hanswered with
      | .ok found, _ => rfl
      | .error (.refused _), _ => rfl
      | .error .abandoned, hanswered => exact absurd rfl hanswered

/-- Failures to put a user into the cache are dropped. -/
theorem remember_run {ε : Type} (u : User) (x : Exchange World Call) :
    (remember u : Action ε Unit) x = (.ok (), (offer u x).2) := by
  have hended := (offer_cases u x).2
  unfold offer at hended
  unfold remember offer
  cases hcache : x.world.cache with
  | none => rfl
  | some entries =>
    rw [hcache] at hended
    simp only at hended ⊢
    cases hwrite : Agora.Action.write (Call.cacheUser u.id)
        (fun w : World => .ok ((), w.remember u)) x with
    | mk result z =>
      rw [hwrite] at hended
      obtain ⟨rfl, _⟩ | ⟨⟨_, rfl⟩, _⟩ := hended
      · rfl
      · rfl

/-- What the table's answer says of the user with an id. -/
def told (id : Int) : Except (Stop Failure) (Option User) → Except (Stop ResolveError) User
  | .ok (some u) => .ok u
  | .ok none => .error (.refused (.notFound id))
  | .error (.refused .cancelled) => .error (.refused .cancelled)
  | .error (.refused (.store error)) => .error (.refused (.store error))
  | .error .abandoned => .error .abandoned

/-- What is left when the table's answer was put into the cache, if it is a record. -/
def putBack : Except (Stop Failure) (Option User) → Exchange World Call → Exchange World Call
  | .ok (some u), x => (offer u x).2
  | _, x => x

theorem resolve_of_hit (hhit : (askCache id x).1 = .ok (some u)) :
    resolve id x = (.ok u, (askCache id x).2) := by
  unfold resolve
  rw [Agora.Action.bind_run, cachedUser_run, hhit]
  rfl

/-- Without a user from the cache the table decides. -/
theorem resolve_of_miss (hmiss : ∀ u, (askCache id x).1 ≠ .ok (some u)) :
    resolve id x =
      (told id (askTable id (askCache id x).2).1,
        putBack (askTable id (askCache id x).2).1 (askTable id (askCache id x).2).2) := by
  have hnone : (askCache id x).1.toOption.join = none := by
    match h : (askCache id x).1 with
    | .ok none => rfl
    | .ok (some u) => exact absurd h (hmiss u)
    | .error _ => rfl
  unfold resolve
  rw [Agora.Action.bind_run, cachedUser_run, hnone]
  simp only
  rw [Agora.Action.bind_run, Agora.Action.mapError_apply]
  rw [show Agora.Action.lookup (Call.userById id) (fun w : World => w.tables?.map (·.user? id)) _ =
    askTable id (askCache id x).2 from rfl]
  match askTable id (askCache id x).2 with
  | (.ok none, v) => rfl
  | (.ok (some found), v) =>
    change (remember found >>= fun _ => pure found : Action ResolveError User) v = _
    rw [Agora.Action.bind_run, remember_run]
    rfl
  | (.error (.refused .cancelled), v) => rfl
  | (.error (.refused (.store error)), v) => rfl
  | (.error .abandoned, v) => rfl

/-! ## Finding a user -/

/-- How the cache answers when a user is looked for. -/
def cacheAnswer (id : Int) (x : Exchange World Call) : Except (Stop Failure) (Option User) :=
  (askCache id x).1

/-- How the table answers if it is asked after the cache. -/
def tableAnswer (id : Int) (x : Exchange World Call) : Except (Stop Failure) (Option User) :=
  (askTable id (askCache id x).2).1

/-- How the cache answers if a user is offered to it after the table was asked. -/
def offerAnswer (id : Int) (u : User) (x : Exchange World Call) : Except (Stop Failure) Unit :=
  (offer u (askTable id (askCache id x).2).2).1

/-- The writing calls that an answer of the table gives rise to. -/
def writesOf : Except (Stop Failure) (Option User) → List Call
  | .ok (some u) => [.cacheUser u.id]
  | _ => []

/-- The cache beside the table: what comes of looking for a user, by the answers of the two. -/
structure CacheAside (id : Int) (x : Exchange World Call) (r : Except (Stop ResolveError) User)
    (y : Exchange World Call) : Prop where
  /-- A user that the cache has is the answer; nothing else is called. -/
  hit : ∀ u, cacheAnswer id x = .ok (some u) →
    r = .ok u ∧ y.calls = x.calls ++ [.cachedUser id] ∧ y.world = x.world
  /-- Whatever else the cache answers, the table's answer is the answer. -/
  miss : (∀ u, cacheAnswer id x ≠ .ok (some u)) → r = told id (tableAnswer id x)
  /-- The table is then asked once, and the cache is written to exactly if that gave a record. -/
  calls : (∀ u, cacheAnswer id x ≠ .ok (some u)) →
    y.calls = x.calls ++ x.world.logged
      ([.cachedUser id, .userById id] ++ writesOf (tableAnswer id x))
  /-- No answer is a cancellation but that of the table's call, and only if this was cut. -/
  cancelled : r = .error (.refused .cancelled) ↔
    (∀ u, cacheAnswer id x ≠ .ok (some u)) ∧ (askCache id x).2.Cuts (.userById id)
  /-- Where the table gives no record nothing is put into the cache. -/
  absent : (∀ u, cacheAnswer id x ≠ .ok (some u)) → (∀ u, tableAnswer id x ≠ .ok (some u)) →
    y.world = x.world
  /-- A record that it gives is put there as it is, unless writing fails. -/
  found : ∀ u, (∀ v, cacheAnswer id x ≠ .ok (some v)) → tableAnswer id x = .ok (some u) →
    (offerAnswer id u x = .ok () ∧ y.world = x.world.remember u) ∨
      ((∃ failure, offerAnswer id u x = .error (.refused failure)) ∧ y.world = x.world)
  /-- There is a result, unless the tables are locked. -/
  answered : x.world.poisoned = false → r ≠ .error .abandoned

theorem World.logged_append (w : World) (calls calls' : List Call) :
    w.logged (calls ++ calls') = w.logged calls ++ w.logged calls' := by
  unfold World.logged
  split
  next => rfl
  next => exact List.filter_append ..

theorem World.logged_userById (w : World) (id : Int) :
    w.logged [.userById id] = [.userById id] := by
  unfold World.logged
  split <;> rfl

/-- Putting an answer back makes the calls of the answer. -/
theorem putBack_calls (a : Except (Stop Failure) (Option User)) (x : Exchange World Call) :
    (putBack a x).calls = x.calls ++ x.world.logged (writesOf a) := by
  have hnothing : x.calls = x.calls ++ x.world.logged [] := by
    unfold World.logged
    split <;> simp
  match a with
  | .ok (some u) => exact (offer_cases u x).1
  | .ok none => exact hnothing
  | .error _ => exact hnothing

theorem putBack_of_absent {a : Except (Stop Failure) (Option User)} (h : ∀ u, a ≠ .ok (some u))
    (x : Exchange World Call) : putBack a x = x := by
  match a with
  | .ok (some u) => exact absurd rfl (h u)
  | .ok none => rfl
  | .error _ => rfl

theorem told_cancelled {a : Except (Stop Failure) (Option User)} :
    told id a = .error (.refused .cancelled) ↔ a = .error (.refused .cancelled) := by
  match a with
  | .ok (some u) => simp [told]
  | .ok none => simp [told]
  | .error (.refused .cancelled) => simp [told]
  | .error (.refused (.store error)) => simp [told]
  | .error .abandoned => simp [told]

theorem told_abandoned {a : Except (Stop Failure) (Option User)}
    (h : told id a = .error .abandoned) : a = .error .abandoned := by
  match a with
  | .ok (some u) => cases h
  | .ok none => cases h
  | .error (.refused .cancelled) => cases h
  | .error (.refused (.store error)) => cases h
  | .error .abandoned => rfl

/-- With a hit the cache is asked, and nothing else is done. -/
theorem cacheAside_of_hit (hu : cacheAnswer id x = .ok (some u)) :
    CacheAside id x (resolve id x).1 (resolve id x).2 := by
  have hmiss : ¬∀ v, cacheAnswer id x ≠ .ok (some v) := fun h => h u hu
  obtain ⟨hworld, hcalls, _⟩ := askCache_cases id x
  rw [resolve_of_hit hu]
  refine ⟨?hit, fun h => absurd h hmiss, fun h => absurd h hmiss, ?cancelled,
    fun h => absurd h hmiss, fun _ h => absurd h hmiss, fun _ => nofun⟩
  case hit =>
    intro v hv
    rw [hu] at hv
    cases hv
    refine ⟨rfl, ?_, hworld⟩
    rw [hcalls, World.logged, if_pos (cache_isSome_of_hit hu)]
  case cancelled => exact iff_of_false (by simp) fun h => hmiss h.1

/-- Without a hit the table's answer is the answer, and is put back. -/
theorem cacheAside_of_miss (hmiss : ∀ u, cacheAnswer id x ≠ .ok (some u)) :
    CacheAside id x (resolve id x).1 (resolve id x).2 := by
  obtain ⟨hcacheWorld, hcacheCalls, _⟩ := askCache_cases id x
  obtain ⟨htableWorld, htableCalls, htableGiven⟩ := askTable_cases id (askCache id x).2
  have htable : (askTable id (askCache id x).2).1 = .error (.refused .cancelled) ↔
      (askCache id x).2.Cuts (.userById id) := Exchange.cancelled_iff rfl
  rw [resolve_of_miss hmiss]
  refine ⟨fun u hu => absurd hu (hmiss u), fun _ => rfl, fun _ => ?made, ?cancelled,
    fun _ habsent => ?absent, fun u _ hfound => ?found, fun hfree hgiven => ?answered⟩
  case made =>
    change (putBack (tableAnswer id x) (askTable id (askCache id x).2).2).calls =
      x.calls ++
        x.world.logged ([.cachedUser id] ++ ([.userById id] ++ writesOf (tableAnswer id x)))
    rw [putBack_calls, htableCalls, htableWorld, hcacheWorld, hcacheCalls, World.logged_append,
      World.logged_append, World.logged_userById, List.append_assoc, List.append_assoc]
  case cancelled =>
    rw [told_cancelled]
    exact htable.trans (and_iff_right hmiss).symm
  case absent =>
    change (putBack (tableAnswer id x) (askTable id (askCache id x).2).2).world = x.world
    rw [putBack_of_absent habsent, htableWorld, hcacheWorld]
  case found =>
    have hoffer := (offer_cases u (askTable id (askCache id x).2).2).2
    rw [htableWorld, hcacheWorld] at hoffer
    unfold tableAnswer at hfound
    rw [hfound]
    exact hoffer
  case answered =>
    have hlocked := htableGiven (told_abandoned hgiven)
    rw [hcacheWorld, hfree] at hlocked
    cases hlocked

/-- Whatever the cache and the table do, a user is found in this way. -/
theorem resolve_cacheAside (id : Int) (x : Exchange World Call) :
    CacheAside id x (resolve id x).1 (resolve id x).2 := by
  by_cases hhit : ∃ u, cacheAnswer id x = .ok (some u)
  · obtain ⟨u, hu⟩ := hhit
    exact cacheAside_of_hit hu
  · exact cacheAside_of_miss fun u hu => hhit ⟨u, hu⟩

end Agora.Social
