import Agora.Proofs.Social.CacheAside
import Agora.Proofs.Social.Lockstep
import Agora.Proofs.Social.Overlap
import Agora.Proofs.Store.Edges

/-!
# The order of the edges cannot be told

Main result: `runSteps_alike`. From worlds whose tables are alike, that is, have the same edges but
perhaps in another order, every session goes on alike: each step has the same outcome and makes the
same calls, whatever its faults and its deadline.

`OrderBlind` says it of one action, begun in two exchanges that are the same but for such worlds.
The calls on the tables are order-blind since what they ask and what they change is (`Store.Alike`),
and everything else is composed of them.
-/

namespace Agora.Social

open Exchange (Agrees Beside Lockstep Sees lockstep_bind lockstep_lookup lockstep_mapError
  lockstep_ofExcept lockstep_pure lockstep_read lockstep_refuse lockstep_write)

variable {f : Front} {w w' : World}

/-! ## Worlds -/

/-- The worlds are the same, except that their edges may stand in different orders. -/
structure World.Alike (w w' : World) : Prop where
  store : w.store.Alike w'.store
  cache : w'.cache = w.cache
  now : w'.now = w.now
  poisoned : w'.poisoned = w.poisoned

theorem World.Alike.remember (hw : w.Alike w') (u : User) :
    (w.remember u).Alike (w'.remember u) := by
  refine ⟨hw.store, ?_, hw.now, hw.poisoned⟩
  unfold World.remember
  rw [hw.cache]

/-- What is read under the lock. -/
theorem World.Alike.tables {α : Type} {answer : Store → α} (hw : w.Alike w')
    (h : ∀ {s s' : Store}, s.Alike s' → answer s' = answer s) :
    w'.tables?.map answer = w.tables?.map answer := by
  unfold World.tables?
  rw [hw.poisoned]
  cases w.poisoned with
  | true => rfl
  | false => exact congrArg some (h hw.store)

/-- A change of the tables that gives the same on both. -/
theorem World.Alike.onStore {ε α : Type} {change change' : Store → Ending Store ε α}
    (hw : w.Alike w') (h : Store.Same (change w.store) (change' w'.store)) :
    (∃ e, w.onStore change = .error e ∧ w'.onStore change' = .error e) ∨
      (∃ a v v', w.onStore change = .ok (a, v) ∧ w'.onStore change' = .ok (a, v') ∧ v.Alike v') ∨
      ∃ v v', w.onStore change = .broken v ∧ w'.onStore change' = .broken v' ∧ v.Alike v' := by
  obtain hlocked | hfree := Bool.eq_false_or_eq_true w.poisoned
  · rw [onStore_of_poisoned hlocked, onStore_of_poisoned (hw.poisoned.trans hlocked)]
    exact Or.inr (Or.inr ⟨w, w', rfl, rfl, hw⟩)
  rw [onStore_of_free hfree, onStore_of_free (hw.poisoned.trans hfree)]
  generalize change w.store = result at h ⊢
  generalize change' w'.store = result' at h ⊢
  cases h with
  | error e => exact Or.inl ⟨e, rfl, rfl⟩
  | ok a halike =>
    exact Or.inr (Or.inl ⟨a, _, _, rfl, rfl, halike, hw.cache, hw.now, hw.poisoned⟩)
  | broken halike => exact Or.inr (Or.inr ⟨_, _, rfl, rfl, halike, hw.cache, hw.now, rfl⟩)

/-- Begun in exchanges that are the same but for alike worlds, the run gives the same and leaves
them so. -/
def OrderBlind {ρ : Type} (run : Exchange World Call → ρ × Exchange World Call) : Prop :=
  Lockstep (Beside (fun _ => true) World.Alike) run

theorem sees_all (c : Call) : Sees (fun _ => true) c := fun _ _ => rfl

/-! ## Calls -/

section

variable {α β ε : Type} {c : Call}

theorem orderBlind_lookup {answer : Store → Option α}
    (h : ∀ {s s' : Store}, s.Alike s' → answer s' = answer s) :
    OrderBlind (Agora.Action.lookup c fun w : World => w.tables?.map answer) :=
  lockstep_lookup (sees_all c) fun _ _ hw => hw.tables h

theorem orderBlind_read {answer : Store → α}
    (h : ∀ {s s' : Store}, s.Alike s' → answer s' = answer s) :
    OrderBlind (Agora.Action.read c fun w : World => w.tables?.map answer) :=
  lockstep_read (sees_all c) fun _ _ hw => hw.tables h

theorem orderBlind_write (change : Time.Instant → Store → Ending Store StoreError α)
    (h : ∀ {now s s'}, Store.Alike s s' → Store.Same (change now s) (change now s')) :
    OrderBlind (Agora.Action.write c fun w : World => w.onStore (change w.now)) := by
  refine lockstep_write (sees_all c) ?_
  intro w w' hw
  beta_reduce
  rw [hw.now]
  exact hw.onStore (h hw.store)

/-- A write whose errors are reported in their own way, and whose answer is given a form. -/
theorem orderBlind_change (change : Time.Instant → Store → Ending Store StoreError α)
    {report : Failure → ε} {form : α → β}
    (h : ∀ {now s s'}, Store.Alike s s' → Store.Same (change now s) (change now s')) :
    OrderBlind
      (((Agora.Action.write c fun w : World => w.onStore (change w.now)).mapError report >>=
      fun a => pure (form a) : Action ε β)) :=
  lockstep_bind (lockstep_mapError (orderBlind_write change h)) fun _ => lockstep_pure _

end

/-! ## Finding users -/

theorem orderBlind_askCache (id : Int) : OrderBlind (askCache id) := by
  have hcached : ∀ w w' : World, w.Alike w' → some (w'.cached? id) = some (w.cached? id) := by
    intro w w' hw
    unfold World.cached?
    rw [hw.cache]
  intro x x' hx
  unfold askCache
  rw [hx.world.cache]
  cases x.world.cache with
  | none => exact ⟨rfl, hx⟩
  | some entries => exact lockstep_lookup (sees_all _) hcached x x' hx

theorem orderBlind_offer (u : User) : OrderBlind (offer u) := by
  have hremember : Agrees World.Alike fun w : World => .ok ((), w.remember u) := by
    intro w w' hw
    exact Or.inr (Or.inl ⟨(), w.remember u, w'.remember u, rfl, rfl, hw.remember u⟩)
  intro x x' hx
  unfold offer
  rw [hx.world.cache]
  cases x.world.cache with
  | none => exact ⟨rfl, hx⟩
  | some entries => exact lockstep_write (sees_all _) hremember x x' hx

theorem orderBlind_cachedUser {ε : Type} (id : Int) :
    OrderBlind (cachedUser id : Action ε (Option User)) := by
  intro x x' hx
  obtain ⟨hr, hy⟩ := orderBlind_askCache id x x' hx
  rw [cachedUser_run, cachedUser_run, hr]
  exact ⟨rfl, hy⟩

theorem orderBlind_remember {ε : Type} (u : User) :
    OrderBlind (remember u : Action ε Unit) := by
  intro x x' hx
  obtain ⟨_, hy⟩ := orderBlind_offer u x x' hx
  rw [remember_run, remember_run]
  exact ⟨rfl, hy⟩

theorem orderBlind_resolve (id : Int) : OrderBlind (resolve id) := by
  unfold resolve
  refine lockstep_bind (orderBlind_cachedUser id) fun cached => ?_
  cases cached with
  | some u => exact lockstep_pure u
  | none =>
    refine lockstep_bind
      (lockstep_mapError (orderBlind_lookup fun h => h.user? id)) fun found => ?_
    cases found with
    | none => exact lockstep_refuse _
    | some u => exact lockstep_bind (orderBlind_remember u) fun _ => lockstep_pure u

/-! ## Operations -/

theorem orderBlind_authorize (caller : User) (owner : Int) (roleName : String) :
    OrderBlind (authorize caller owner roleName) := by
  unfold authorize
  by_cases hown : caller.id = owner
  · rw [if_pos hown]
    exact lockstep_pure true
  · rw [if_neg hown]
    refine lockstep_bind
      (lockstep_mapError (orderBlind_lookup fun h => h.role? roleName)) fun found => ?_
    cases found with
    | none => exact lockstep_refuse _
    | some role => exact lockstep_pure _

theorem orderBlind_loadPost (id : Int) : OrderBlind (loadPost id) := by
  unfold loadPost
  refine lockstep_bind (lockstep_mapError (orderBlind_lookup fun h => h.post? id)) fun found => ?_
  cases found with
  | none => exact lockstep_refuse _
  | some p => exact lockstep_pure p

theorem orderBlind_guardPost (caller : User) (p : Post) (roleName : String) :
    OrderBlind (guardPost caller p roleName) := by
  unfold guardPost
  refine lockstep_bind (lockstep_mapError (orderBlind_authorize caller p.userId roleName))
    fun allowed => ?_
  cases allowed with
  | false => exact lockstep_refuse _
  | true => exact lockstep_pure ()

theorem orderBlind_getPost (id : Int) : OrderBlind (getPost id) := by
  unfold getPost
  refine lockstep_bind (orderBlind_loadPost id) fun p => ?_
  exact lockstep_bind (lockstep_mapError (orderBlind_read fun h => h.commentsOf id))
    fun comments => lockstep_pure _

theorem orderBlind_feed (caller : User) (params : Feed.Params) :
    OrderBlind (Social.feed caller params) := by
  unfold Social.feed
  cases params.query with
  | error e => exact lockstep_refuse _
  | ok q => exact lockstep_mapError (orderBlind_read fun h => h.feed caller.id q)

theorem orderBlind_prepare (caller : User) (op : Operation) : OrderBlind (op.prepare caller) := by
  cases op with
  | create draft =>
    exact lockstep_bind (lockstep_ofExcept _) fun _ =>
      lockstep_bind (lockstep_ofExcept _) fun _ => lockstep_pure _
  | get id => exact lockstep_bind (orderBlind_getPost id) fun _ => lockstep_pure _
  | update id edit =>
    have hedit : OrderBlind (prepareEdit caller id edit) :=
      lockstep_bind (orderBlind_loadPost id) fun p =>
        lockstep_bind (orderBlind_guardPost caller p editRole) fun _ => lockstep_ofExcept _
    exact lockstep_bind hedit fun _ => lockstep_pure _
  | delete id =>
    exact lockstep_bind (orderBlind_loadPost id) fun p =>
      lockstep_bind (orderBlind_guardPost caller p deleteRole) fun _ => lockstep_pure _
  | comment id draft =>
    exact lockstep_bind (orderBlind_loadPost id) fun p =>
      lockstep_bind (orderBlind_guardPost caller p commentRole) fun _ =>
        lockstep_bind (lockstep_ofExcept _) fun _ => lockstep_pure _
  | follow id =>
    unfold Operation.prepare
    by_cases hself : caller.id = id
    · simp only [if_pos hself]
      exact lockstep_refuse _
    · simp only [if_neg hself]
      exact lockstep_pure _
  | unfollow id => exact lockstep_pure _
  | profile id =>
    exact lockstep_bind (lockstep_mapError (orderBlind_resolve id)) fun _ => lockstep_pure _
  | feed params => exact lockstep_bind (orderBlind_feed caller params) fun _ => lockstep_pure _

theorem orderBlind_finish (plan : Plan) : OrderBlind plan.finish := by
  cases plan with
  | reply answer => exact lockstep_pure answer
  | createPost new =>
    exact orderBlind_change (fun now s => s.createPost now new)
      fun h => h.createPost new
  | commit c =>
    exact orderBlind_change
      (fun now s => s.updatePost now c.id c.version c.title c.content)
      fun h => h.updatePost c.id c.version c.title c.content
  | deletePost id =>
    exact orderBlind_change (fun _ s => s.deletePost id) fun h => h.deletePost id
  | createComment new =>
    exact orderBlind_change (fun now s => s.createComment now new)
      fun h => h.createComment new
  | follow follower followed =>
    exact orderBlind_change (fun _ s => s.follow follower followed)
      fun h => h.follow follower followed
  | unfollow follower followed =>
    exact orderBlind_change (fun _ s => s.unfollow follower followed)
      fun h => h.unfollow follower followed

theorem orderBlind_run (caller : User) (op : Operation) : OrderBlind (op.run caller) := by
  rw [run_eq_prepare_finish]
  exact lockstep_bind (orderBlind_prepare caller op) orderBlind_finish

/-! ## Sessions -/

/-- Two runs of one step that cannot be told apart, in what they show, in their calls and in the
worlds that they leave. -/
structure SameStep (run run' : Outcome × List Call × World) : Prop where
  outcome : run'.1 = run.1
  calls : run'.2.1 = run.2.1
  worlds : run.2.2.Alike run'.2.2

/-- A step that is one exchange. -/
theorem sameStep_exchange {ρ : Type} {a : StateM (Exchange World Call) ρ} (ha : OrderBlind a)
    (hw : w.Alike w') (terms : Terms) (form : ρ → Outcome) :
    SameStep (exchangeAs w terms form a) (exchangeAs w' terms form a) := by
  obtain ⟨hr, hy⟩ := ha (terms.opening w) (terms.opening w') ⟨hw, rfl, rfl, rfl, rfl⟩
  exact ⟨congrArg form hr, hy.calls, hy.world⟩

/-- A row that is planted on both sides. -/
theorem sameStep_plant {α : Type} {report : α → Outcome}
    {change change' : Store → Ending Store Empty α} (hw : w.Alike w')
    (h : Store.Same (change w.store) (change' w'.store)) :
    SameStep (plant w report change) (plant w' report change') := by
  unfold plant
  obtain ⟨e, _⟩ | ⟨a, v, v', hleft, hright, hv⟩ | ⟨v, v', hleft, hright, hv⟩ := hw.onStore h
  · cases e
  · rw [hleft, hright]
    exact ⟨rfl, rfl, hv⟩
  · rw [hleft, hright]
    exact ⟨rfl, rfl, hv⟩

theorem sameStep_peek {report : Store → Outcome} (hw : w.Alike w')
    (h : ∀ {s s' : Store}, s.Alike s' → report s' = report s) :
    SameStep (peek w report) (peek w' report) := by
  have htables := hw.tables h
  unfold peek
  cases hleft : w.tables? with
  | none =>
    rw [hleft, Option.map_none, Option.map_eq_none_iff] at htables
    rw [htables]
    exact ⟨rfl, rfl, hw⟩
  | some s =>
    rw [hleft, Option.map_some, Option.map_eq_some_iff] at htables
    obtain ⟨s', hright, hreport⟩ := htables
    rw [hright]
    exact ⟨hreport, rfl, hw⟩

/-- Every step has the same outcome and makes the same calls. -/
theorem Step.run_alike (hw : w.Alike w') (terms : Terms) (step : Step) :
    SameStep (step.run f w terms) (step.run f w' terms) := by
  cases step with
  | operate caller op => exact sameStep_exchange (orderBlind_run caller op) hw terms _
  | authorize caller owner roleName =>
    exact sameStep_exchange (orderBlind_authorize caller owner roleName) hw terms _
  | resolve id => exact sameStep_exchange (orderBlind_resolve id) hw terms _
  | resolveAll ids =>
    exact sameStep_exchange (lockstep_resolveAll orderBlind_resolve ids) hw terms _
  | request q t =>
    exact sameStep_exchange (lockstep_handle orderBlind_resolve (fun _ _ hx => hx.world.now)
      orderBlind_run f q t) hw terms _
  | plantUser username roleName =>
    simp only [Step.run]
    rw [hw.now]
    exact sameStep_plant hw (hw.store.addUser username roleName)
  | plantPost new time =>
    obtain ⟨hrow, halike⟩ := hw.store.addPost new time
    refine sameStep_plant hw ?_
    rw [← Prod.eta (w'.store.addPost new time), hrow]
    exact .ok _ halike
  | plantComment new =>
    simp only [Step.run]
    rw [hw.now]
    exact sameStep_plant hw (hw.store.plantComment new)
  | plantFollow follower followed =>
    exact sameStep_plant hw (.ok () (hw.store.addFollow follower followed))
  | plantCached u => exact ⟨rfl, rfl, hw.remember u⟩
  | isFollowing follower followed =>
    exact sameStep_peek hw fun h => congrArg Outcome.truth (h.isFollowing follower followed)
  | peekPost id => exact sameStep_peek hw fun h => congrArg Outcome.peeked (h.post? id)
  | setClock now => exact ⟨rfl, rfl, hw.store, hw.cache, rfl, hw.poisoned⟩

/-- Whatever is done next, and for as long as it may be, goes on alike. -/
theorem runSteps_alike {steps : List (Terms × Step)} (hw : w.Alike w') :
    (runSteps f w' steps).1 = (runSteps f w steps).1 ∧
      (runSteps f w steps).2.Alike (runSteps f w' steps).2 := by
  induction steps generalizing w w' with
  | nil => exact ⟨rfl, hw⟩
  | cons s rest ih =>
    obtain ⟨terms, step⟩ := s
    obtain ⟨houtcome, hcalls, hafter⟩ := Step.run_alike (f := f) hw terms step
    obtain ⟨houtcomes, hend⟩ := ih hafter
    simp only [runSteps]
    rw [houtcome, hcalls, houtcomes]
    exact ⟨rfl, hend⟩

end Agora.Social
