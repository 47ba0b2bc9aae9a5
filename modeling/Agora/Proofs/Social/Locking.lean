import Agora.Proofs.Social.Untouched

/-!
# What is given up

Main results: `locking_run` and `runSteps_free`. While the tables can be had, an operation is given
up exactly if it leaves them locked, so that whatever is given up first has broken down in a change.
None does as long as the clock can be read and no post has the last version (`World.Ready`), so that
the tables stay free through a session that is `Safe`.

The first of these goes from the calls to the operations: what is put together from parts of which
it is true is such a part itself.
-/

namespace Agora.Social

variable {f : Front} {w : World} {terms : Terms} {step : Step} {x y : Exchange World Call}
  {caller : User} {op : Operation} {ε α : Type}

/-- What begins on tables that can be had is given up exactly if it leaves them locked. -/
def Locking (a : Action ε α) : Prop :=
  ∀ {x y r}, a x = (r, y) → x.world.poisoned = false →
    (r = .error .abandoned ↔ y.world.poisoned = true)

/-! ## Parts -/

/-- It is so of what keeps the lock as it is and is not given up. -/
theorem locking_of_answered {a : Action ε α}
    (ha : ∀ {x y r}, a x = (r, y) → x.world.poisoned = false →
      y.world.poisoned = false ∧ r ≠ .error .abandoned) : Locking a := by
  intro x y r h hfree
  obtain ⟨hlock, hr⟩ := ha h hfree
  exact iff_of_false hr (ne_true_of_eq_false hlock)

theorem locking_ofExcept (result : Except ε α) : Locking (.ofExcept result : Action ε α) := by
  refine locking_of_answered fun h hfree => ?_
  obtain ⟨rfl, rfl⟩ := Agora.Action.ofExcept_eq h
  refine ⟨hfree, ?_⟩
  cases result <;> simp [Except.mapError]

theorem locking_pure (v : α) : Locking (pure v : Action ε α) := locking_ofExcept (.ok v)

theorem locking_refuse (e : ε) : Locking (.refuse e : Action ε α) := locking_ofExcept (.error e)

theorem locking_bind {β : Type} {a : Action ε α} {f : α → Action ε β} (ha : Locking a)
    (hf : ∀ v, Locking (f v)) : Locking (a >>= f) := by
  intro x y r h hfree
  obtain ⟨e, hfirst, rfl⟩ | ⟨v, z, hfirst, h⟩ := Agora.Action.bind_eq h
  · have hlock := ha hfirst hfree
    simp only [Except.error.injEq] at hlock ⊢
    exact hlock
  · -- what was answered has left the tables free
    have hz : z.world.poisoned = false := by
      rw [← Bool.not_eq_true, ← ha hfirst hfree]
      exact nofun
    exact hf v h hz

theorem locking_mapError {ε' : Type} {f : ε → ε'} {a : Action ε α} (ha : Locking a) :
    Locking (a.mapError f) := by
  intro x y r h hfree
  obtain ⟨stop, hrun, rfl⟩ | ⟨v, hrun, rfl⟩ := Agora.Action.mapError_eq h
  · rw [← ha hrun hfree]
    cases stop <;> simp [Stop.map]
  · rw [← ha hrun hfree]
    simp

/-- What only reads the tables answers while they can be had. -/
theorem locking_read (c : Call) (f : Store → α) :
    Locking (Agora.Action.read c fun w => w.tables?.map f) := by
  refine locking_of_answered fun {x y r} h hfree => ?_
  obtain ⟨hworld, _, ⟨_, rfl⟩ | ⟨hnone, _⟩ | ⟨_, _, rfl⟩⟩ := Agora.Action.read_cases h
  · exact ⟨hworld ▸ hfree, by simp⟩
  · rw [World.tables?_of_free hfree] at hnone
    cases hnone
  · exact ⟨hworld ▸ hfree, nofun⟩

theorem locking_lookup (c : Call) (f : Store → Option α) :
    Locking (Agora.Action.lookup c fun w => w.tables?.map f) := by
  refine locking_of_answered fun {x y r} h hfree => ?_
  obtain ⟨hworld, _, ⟨_, rfl⟩ | rfl | ⟨hnone, _⟩ | ⟨_, _, rfl⟩⟩ := Agora.Action.lookup_cases h
  · exact ⟨hworld ▸ hfree, by simp⟩
  · exact ⟨hworld ▸ hfree, nofun⟩
  · rw [World.tables?_of_free hfree] at hnone
    cases hnone
  · exact ⟨hworld ▸ hfree, nofun⟩

theorem locking_write (c : Call) (change : World → Store → Ending Store StoreError α) :
    Locking (Agora.Action.write c fun w => w.onStore (change w)) := by
  intro x y r h hfree
  obtain ⟨_, ⟨_, rfl, hworld⟩ | ⟨_, hended, rfl⟩ | ⟨hended, rfl⟩⟩ := Agora.Action.write_cases h
  · rw [hworld, hfree]
    simp
  · obtain ⟨_, _, _, hworld⟩ := World.onStore_eq_ok hended
    rw [hworld, hfree]
    simp
  · obtain ⟨hlocked, _⟩ | ⟨_, _, _, hworld⟩ := World.onStore_eq_broken hended
    · rw [hfree] at hlocked
      cases hlocked
    · rw [hworld]
      simp

theorem locking_resolve (id : Int) : Locking (resolve id) := by
  refine locking_of_answered fun {x y r} h hfree => ?_
  obtain ⟨hworld, _, hended⟩ := resolve_cases h
  refine ⟨by rw [hworld]; exact hfree, ?_⟩
  obtain ⟨_, rfl, _⟩ | rfl | ⟨_, rfl⟩ | ⟨hlocked, _⟩ := hended
  · exact nofun
  · simp
  · simp
  · rw [hfree] at hlocked
    cases hlocked

/-! ## Operations -/

theorem locking_loadPost (id : Int) : Locking (loadPost id) := by
  refine locking_bind (locking_mapError (locking_lookup _ fun s => s.post? id)) fun found => ?_
  cases found with
  | none => exact locking_refuse _
  | some p => exact locking_pure p

theorem locking_guardPost (caller : User) (p : Post) (roleName : String) :
    Locking (guardPost caller p roleName) := by
  refine locking_bind (locking_mapError ?_) fun allowed => ?_
  · -- the owner is let pass without a call
    unfold authorize
    split
    next => exact locking_pure true
    next =>
      refine locking_bind (locking_mapError (locking_lookup _ fun s => s.role? roleName)) ?_
      rintro (_ | role)
      · exact locking_refuse _
      · exact locking_pure _
  · cases allowed with
    | false => exact locking_refuse _
    | true => exact locking_pure ()

/-- A change of a post that is there does its part behind the guard. -/
theorem locking_guarded {id : Int} {roleName : String} {next : Post → Action ServiceError α}
    (hnext : ∀ p, Locking (next p)) : Locking (do
      let p ← loadPost id
      guardPost caller p roleName
      next p) :=
  locking_bind (locking_loadPost id) fun p =>
    locking_bind (locking_guardPost caller p roleName) fun _ => hnext p

/-- To give an answer a form does not give it up. -/
theorem locking_form {a : Action ServiceError α} (form : α → Answer) (ha : Locking a) :
    Locking (do return form (← a)) :=
  locking_bind ha fun v => locking_pure (form v)

theorem locking_run (caller : User) (op : Operation) : Locking (op.run caller) := by
  cases op with
  | create draft =>
    refine locking_form .post ?_
    exact locking_bind (locking_ofExcept _) fun _ => locking_bind (locking_ofExcept _) fun _ =>
      locking_mapError (locking_write _ _)
  | get id =>
    refine locking_form .thread ?_
    exact locking_bind (locking_loadPost id) fun _ =>
      locking_bind (locking_mapError (locking_read _ _)) fun _ => locking_pure _
  | update id edit =>
    refine locking_form .post ?_
    exact locking_bind (locking_guarded fun _ => locking_ofExcept _) fun _ =>
      locking_mapError (locking_write _ _)
  | delete id =>
    refine locking_form (fun _ => .done) ?_
    exact locking_guarded fun _ => locking_mapError (locking_write _ _)
  | comment id draft =>
    refine locking_form .comment ?_
    exact locking_guarded fun _ => locking_bind (locking_ofExcept _) fun _ =>
      locking_mapError (locking_write _ _)
  | follow id =>
    refine locking_form (fun _ => .done) ?_
    unfold Social.follow
    split
    next => exact locking_refuse _
    next => exact locking_mapError (locking_write _ _)
  | unfollow id =>
    exact locking_form (fun _ => .done) (locking_mapError (locking_write _ _))
  | profile id => exact locking_form .user (locking_mapError (locking_resolve id))
  | feed params =>
    refine locking_form .feed ?_
    unfold Social.feed
    cases params.query with
    | error e => exact locking_refuse _
    | ok q => exact locking_mapError (locking_read _ _)

/-! ## Where nothing breaks down -/

/-- No change can break down: the clock can be read, and every post has a next version. -/
structure World.Ready (w : World) : Prop where
  clock : 0 ≤ w.now.second
  room : ∀ p ∈ w.store.posts, p.version ≠ Int32.maxValue

theorem World.Ready.of_keeps {w' : World} (h : w.Ready) (hkeeps : w.Keeps w') : w'.Ready := by
  refine ⟨?_, ?_⟩
  · rw [hkeeps.now]
    exact h.clock
  · rw [hkeeps.store]
    exact h.room

theorem World.Ready.createPost_ne_broken (h : w.Ready) {new : Store.NewPost} {store : Store} :
    w.store.createPost w.now new ≠ .broken store :=
  fun hrow => absurd (Store.createPost_broken hrow).1 (Int.not_lt.mpr h.clock)

theorem World.Ready.createComment_ne_broken (h : w.Ready) {new : Store.NewComment}
    {store : Store} : w.store.createComment w.now new ≠ .broken store :=
  fun hrow => absurd (Store.createComment_broken hrow).1 (Int.not_lt.mpr h.clock)

theorem World.Ready.updatePost_ne_broken (h : w.Ready) {id : Int} {version : Int32}
    {title content : String} {store : Store} :
    w.store.updatePost w.now id version title content ≠ .broken store := by
  intro hrow
  obtain ⟨_, _, _, ⟨hlast, _⟩ | ⟨hearly, _⟩, p, hp, _, hversion⟩ := Store.updatePost_broken hrow
  · exact h.room p hp (hversion.trans hlast)
  · exact Int.not_lt.mpr h.clock hearly

/-- What breaks down was not ready for it. -/
theorem not_ready_of_breaks {store : Store} (h : Breaks x caller op store) : ¬x.world.Ready := by
  intro hready
  cases h with
  | create hrow => exact hready.createPost_ne_broken hrow
  | update _ _ _ hrow => exact hready.updatePost_ne_broken hrow
  | comment _ _ hrow => exact hready.createComment_ne_broken hrow

/-- An operation leaves free tables free where nothing can break down. -/
theorem run_free {r : Except (Stop ServiceError) Answer} (h : op.run caller x = (r, y))
    (hfree : x.world.poisoned = false) (hready : x.world.Ready) : y.world.poisoned = false := by
  obtain hkeeps | ⟨_, _, _, _, hworld⟩ | ⟨_, _, hbreak, _⟩ := operation_cases h
  · rw [hkeeps.poisoned, hfree]
  · rw [hworld]
    exact hfree
  · exact absurd hready (not_ready_of_breaks hbreak)

/-- Nothing is given up while no change can break down. -/
theorem run_answered {r : Except (Stop ServiceError) Answer} (h : op.run caller x = (r, y))
    (hfree : x.world.poisoned = false) (hready : x.world.Ready) : r ≠ .error .abandoned := by
  rw [Ne, locking_run caller op h hfree, run_free h hfree hready]
  exact Bool.false_ne_true

/-- So does what is planted, if its change does not break down. -/
theorem plant_free {report : α → Outcome} {change : Store → Ending Store Empty α}
    (hwhole : ∀ store, change w.store ≠ .broken store) (hfree : w.poisoned = false) :
    (plant w report change).2.2.poisoned = false := by
  obtain ⟨a, store, _, hrun⟩ | hrun | ⟨store, hrow, _⟩ := plant_cases w report change
  · rw [hrun]
    exact hfree
  · rw [hrun]
    exact hfree
  · exact absurd hrow (hwhole store)

/-- The step is done on a world on which nothing breaks down: changes cannot, and what is planted is
planted with the role or the author that it names. -/
structure Step.Safe (w : World) (step : Step) : Prop where
  ready : w.Ready
  role : ∀ username roleName, step = .plantUser username roleName → w.store.role? roleName ≠ none
  author : ∀ new, step = .plantComment new → w.store.user? new.userId ≠ none

/-- A step on which nothing breaks down leaves the tables free. -/
theorem Step.run_free (f : Front) (terms : Terms) (hfree : w.poisoned = false)
    (hsafe : step.Safe w) : (step.run f w terms).2.2.poisoned = false := by
  have hready := hsafe.ready
  have hclock := hready.clock
  -- what reads keeps the lock as well
  have hreading : step.reads = true → (step.run f w terms).2.2.poisoned = false := by
    intro hreads
    rw [(Step.run_keeps f w terms hreads).poisoned, hfree]
  cases step with
  | plantUser username roleName =>
    refine plant_free (fun store hrow => ?_) hfree
    obtain ⟨hnone, _⟩ | ⟨hearly, _⟩ := Store.addUser_broken hrow
    · exact hsafe.role _ _ rfl hnone
    · omega
  | plantPost new time => exact plant_free (fun _ => nofun) hfree
  | plantComment new =>
    refine plant_free (fun store hrow => ?_) hfree
    obtain ⟨hnone, _⟩ | ⟨hearly, _⟩ := Store.plantComment_broken hrow
    · exact hsafe.author _ rfl hnone
    · omega
  | plantFollow follower followed => exact plant_free (fun _ => nofun) hfree
  | plantCached user => exact hfree
  | isFollowing follower followed => exact hreading rfl
  | peekPost id => exact hreading rfl
  | setClock now => exact hfree
  | operate caller op => exact Social.run_free (x := terms.opening w) rfl hfree hready
  | authorize caller owner roleName => exact hreading rfl
  | resolve id => exact hreading rfl
  | resolveAll ids => exact hreading rfl
  | request q t =>
    rw [Step.run_request]
    cases hrun : f.handle q t (terms.opening w) with
    | mk response y =>
      obtain hkeeps | ⟨_, _, _, _, z, hz, _, hworld, _⟩ | ⟨_, _, _, z, hz, hbreak, _⟩ :=
        handle_cases hrun
      · exact hkeeps.poisoned.trans hfree
      · exact (congrArg World.poisoned hworld).trans (hz.poisoned.trans hfree)
      · exact absurd (hready.of_keeps hz) (not_ready_of_breaks hbreak)

/-- Nothing breaks down in a session. -/
def Safe (f : Front) (w : World) (steps : List (Terms × Step)) : Prop :=
  ∀ (n : Nat) (s : Terms × Step), steps[n]? = some s → s.2.Safe (runSteps f w (steps.take n)).2

/-- Through such a session the tables stay free. -/
theorem runSteps_free {steps : List (Terms × Step)} (hfree : w.poisoned = false)
    (hsafe : Safe f w steps) : (runSteps f w steps).2.poisoned = false := by
  induction steps generalizing w with
  | nil => exact hfree
  | cons s rest ih =>
    have hfirst : s.2.Safe w := hsafe 0 s rfl
    exact ih (Step.run_free f s.1 hfree hfirst) fun n next hnext => hsafe (n + 1) next hnext

end Agora.Social
