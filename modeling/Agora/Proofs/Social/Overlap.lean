import Agora.Proofs.Social.Locking
import Agora.Proofs.Store.Versions
import Agora.Social.Overlap

/-!
# What a half of an operation can do

`run_eq_prepare_finish` justifies the halves: one right after the other they are the operation.
`prepare_cases` says that the first half keeps the tables and, for an update, prepares a commit from
the post as it was loaded; `finish_commit` says what the commit does to the tables that it finds,
and `finish_cases` that no other second half revises a post.

`Hub.moves` sums this up for one event, whichever it is: everything that is proved about overlapping
operations is proved from its three cases. The first such result is `Hub.run_later`.
-/

namespace Agora.Social

variable {x y : Exchange World Call} {caller : User} {op : Operation} {plan : Plan} {w : World}

/-- An operation is its two halves, one right after the other. -/
theorem run_eq_prepare_finish (caller : User) (op : Operation) :
    op.run caller = op.prepare caller >>= Plan.finish := by
  cases op with
  | create draft =>
    simp only [Operation.run, Operation.prepare, createPost, Plan.finish, bind_assoc, pure_bind]
  | get id => simp only [Operation.run, Operation.prepare, Plan.finish, bind_assoc, pure_bind]
  | update id edit =>
    simp only [Operation.run, Operation.prepare, updatePost, Plan.finish, bind_assoc, pure_bind]
  | delete id =>
    simp only [Operation.run, Operation.prepare, deletePost, bind_assoc, pure_bind]
    rfl
  | comment id draft =>
    simp only [Operation.run, Operation.prepare, commentPost, Plan.finish, bind_assoc, pure_bind]
  | follow id =>
    -- both sides refuse oneself before any call
    simp only [Operation.run, Operation.prepare, Social.follow]
    split
    next => rfl
    next => rfl
  | unfollow id =>
    simp only [Operation.run, Operation.prepare, Social.unfollow, pure_bind]
    rfl
  | profile id => simp only [Operation.run, Operation.prepare, Plan.finish, bind_assoc, pure_bind]
  | feed params => simp only [Operation.run, Operation.prepare, Plan.finish, bind_assoc, pure_bind]

/-! ## The first half -/

/-- What was prepared fits the operation and the tables that it was prepared on: the commit of an
update is made from the post as it was then, and nothing else commits. -/
def Prepared (loaded : Store) (op : Operation) (plan : Plan) : Prop :=
  match op with
  | .update id edit =>
    ∃ p c, plan = .commit c ∧ loaded.post? id = some p ∧ Commit.ofEdit p edit = .ok c
  | _ => ∀ c, plan ≠ .commit c

/-- The first half of an operation as it can end: with the tables kept, and what it prepared, if
anything, fitting. -/
def Prepares (x : Exchange World Call) (op : Operation) (r : Except (Stop ServiceError) Plan)
    (y : Exchange World Call) : Prop :=
  x.world.Keeps y.world ∧ ∀ plan, r = .ok plan → Prepared x.world.store op plan

theorem prepares_error {e : Stop ServiceError} (hworld : x.world.Keeps y.world) :
    Prepares x op (.error e) y := by
  refine ⟨hworld, ?_⟩
  intro _ h
  cases h

theorem prepares_pure {z : Exchange World Call} {r : Except (Stop ServiceError) Plan}
    (h : (pure plan : Action ServiceError Plan) z = (r, y)) (hworld : x.world.Keeps z.world)
    (hplan : Prepared x.world.store op plan) : Prepares x op r y := by
  obtain ⟨rfl, rfl⟩ := Prod.mk.inj h
  refine ⟨hworld, ?_⟩
  rintro _ ⟨⟩
  exact hplan

/-- An operation that reads answers at once and prepares no commit. -/
theorem prepares_reply {α : Type} {a : Action ServiceError α} {form : α → Answer}
    {r : Except (Stop ServiceError) Plan}
    (h : (do return Plan.reply (form (← a)) : Action ServiceError Plan) x = (r, y))
    (ha : ∀ r, a x = (r, y) → x.world.Keeps y.world)
    (hplan : ∀ answer, Prepared x.world.store op (.reply answer)) : Prepares x op r y := by
  obtain ⟨_, hrun, rfl⟩ | ⟨v, z, hrun, h⟩ := Agora.Action.bind_eq h
  · exact prepares_error (ha _ hrun)
  · obtain ⟨rfl, rfl⟩ := Prod.mk.inj h
    exact prepares_pure rfl (ha _ hrun) (hplan _)

/-- All that the first half of an operation can do. -/
theorem prepare_cases {r : Except (Stop ServiceError) Plan} (h : op.prepare caller x = (r, y)) :
    Prepares x op r y := by
  cases op with
  | create draft =>
    obtain ⟨_, _, rfl, rfl⟩ | ⟨_, _, h⟩ := Agora.Action.ofExcept_bind_eq h
    · exact prepares_error (.refl _)
    obtain ⟨_, _, rfl, rfl⟩ | ⟨_, _, h⟩ := Agora.Action.ofExcept_bind_eq h
    · exact prepares_error (.refl _)
    exact prepares_pure h (.refl _) (by simp [Prepared])
  | get id =>
    exact prepares_reply h (fun _ hrun => .of_eq (getPost_world hrun)) (by simp [Prepared])
  | update id edit =>
    obtain ⟨_, hprepare, rfl⟩ | ⟨c, z, hprepare, h⟩ := Agora.Action.bind_eq h
    · obtain ⟨_, hworld⟩ | ⟨p, v, _, _, hv, hedit⟩ := guarded_cases hprepare
      · exact prepares_error (.of_eq hworld)
      · rw [(Agora.Action.ofExcept_eq hedit).2]
        exact prepares_error (.of_eq hv)
    · -- the commit is made from the post that passed the guard
      obtain ⟨⟨_, he⟩, _⟩ | ⟨p, v, hfound, _, hv, hedit⟩ := guarded_cases hprepare
      · cases he
      obtain ⟨hedit, hz⟩ := Agora.Action.ofExcept_eq_ok hedit
      rw [hz] at h
      exact prepares_pure h (.of_eq hv) ⟨p, c, rfl, hfound, hedit⟩
  | delete id =>
    obtain ⟨⟨_, rfl⟩, hworld⟩ | ⟨p, v, _, _, hv, h⟩ := guarded_cases h
    · exact prepares_error (.of_eq hworld)
    · exact prepares_pure h (.of_eq hv) (by simp [Prepared])
  | comment id draft =>
    obtain ⟨⟨_, rfl⟩, hworld⟩ | ⟨p, v, _, _, hv, h⟩ := guarded_cases h
    · exact prepares_error (.of_eq hworld)
    obtain ⟨_, _, rfl, rfl⟩ | ⟨_, _, h⟩ := Agora.Action.ofExcept_bind_eq h
    · exact prepares_error (.of_eq hv)
    · exact prepares_pure h (.of_eq hv) (by simp [Prepared])
  | follow id =>
    -- no call is made before the one that follows
    unfold Operation.prepare at h
    simp only at h
    split at h
    next =>
      obtain ⟨rfl, rfl⟩ := Prod.mk.inj h
      exact prepares_error (.refl _)
    next => exact prepares_pure h (.refl _) (by simp [Prepared])
  | unfollow id => exact prepares_pure h (.refl _) (by simp [Prepared])
  | profile id =>
    refine prepares_reply h ?_ (by simp [Prepared])
    intro _ hrun
    obtain ⟨_, hrun⟩ := Agora.Action.mapError_run hrun
    exact (resolve_cases hrun).1
  | feed params =>
    exact prepares_reply h (fun _ hrun => .of_eq (feed_world hrun)) (by simp [Prepared])

/-! ## The second half -/

section

variable {α : Type} {c : Call} {f : Failure → ServiceError} {form : α → Answer}
  (change : World → Store → Ending Store StoreError α)

/-- Where no fault is to come, a call that changes the tables comes to what the change comes to. -/
theorem write_run (hfaults : x.faults = []) :
    ((Agora.Action.write c fun w => w.onStore (change w)).mapError f : Action ServiceError α) x =
      match x.world.onStore (change x.world) with
      | .ok (a, world) => (.ok a, { x.log c with world })
      | .error e => (.error (.refused (f (.store e))), x.log c)
      | .broken world => (.error .abandoned, { x.log c with world }) := by
  unfold Agora.Action.mapError Agora.Action.write
  rw [Exchange.call_of_no_faults hfaults]
  unfold Exchange.apply
  simp only [Exchange.log_world]
  cases x.world.onStore (change x.world) with
  | ok result => rfl
  | error e => rfl
  | broken world => rfl

/-- So does a half that is one call. -/
theorem change_run (hfaults : x.faults = []) :
    ((Agora.Action.write c fun w => w.onStore (change w)).mapError f >>= fun a =>
      pure (form a) : Action ServiceError Answer) x =
        match x.world.onStore (change x.world) with
        | .ok (a, world) => (.ok (form a), { x.log c with world })
        | .error e => (.error (.refused (f (.store e))), x.log c)
        | .broken world => (.error .abandoned, { x.log c with world }) := by
  rw [Agora.Action.bind_run, write_run change hfaults]
  cases x.world.onStore (change x.world) with
  | ok result => rfl
  | error e => rfl
  | broken world => rfl

/-- It makes its change if the tables take it. -/
theorem change_ok (hfaults : x.faults = []) (hfree : x.world.poisoned = false) {a : α}
    {store : Store} (hrow : change x.world x.world.store = .ok (a, store)) :
    ((Agora.Action.write c fun w => w.onStore (change w)).mapError f >>= fun a =>
      pure (form a) : Action ServiceError Answer) x =
        (.ok (form a), { x.log c with world := { x.world with store } }) := by
  rw [change_run change hfaults, World.onStore_of_free hfree, hrow]

/-- If they do not, it is answered with their refusal. -/
theorem change_error (hfaults : x.faults = []) (hfree : x.world.poisoned = false) {e : StoreError}
    (hrow : change x.world x.world.store = .error e) :
    ((Agora.Action.write c fun w => w.onStore (change w)).mapError f >>= fun a =>
      pure (form a) : Action ServiceError Answer) x =
        (.error (.refused (f (.store e))), x.log c) := by
  rw [change_run change hfaults, World.onStore_of_free hfree, hrow]

/-- If it breaks down, nothing is answered and the tables are locked. -/
theorem change_broken (hfaults : x.faults = []) (hfree : x.world.poisoned = false) {store : Store}
    (hrow : change x.world x.world.store = .broken store) :
    ((Agora.Action.write c fun w => w.onStore (change w)).mapError f >>= fun a =>
      pure (form a) : Action ServiceError Answer) x =
        (.error .abandoned,
          { x.log c with world := { x.world with store, poisoned := true } }) := by
  rw [change_run change hfaults, World.onStore_of_free hfree, hrow]

theorem change_locked (hfaults : x.faults = []) (hlocked : x.world.poisoned = true) :
    ((Agora.Action.write c fun w => w.onStore (change w)).mapError f >>= fun a =>
      pure (form a) : Action ServiceError Answer) x = (.error .abandoned, x.log c) := by
  rw [change_run change hfaults, World.onStore_of_poisoned hlocked]
  rfl

/-- As long as it does not break down, it is answered and leaves the tables free. -/
theorem change_free (hfaults : x.faults = []) (hfree : x.world.poisoned = false)
    (hwhole : ∀ store, change x.world x.world.store ≠ .broken store)
    {r : Except (Stop ServiceError) Answer}
    (h : ((Agora.Action.write c fun w => w.onStore (change w)).mapError f >>= fun a =>
      pure (form a) : Action ServiceError Answer) x = (r, y)) :
    y.world.poisoned = false ∧ r ≠ .error .abandoned := by
  cases hrow : change x.world x.world.store with
  | ok result =>
    rw [change_ok change hfaults hfree hrow] at h
    obtain ⟨rfl, rfl⟩ := Prod.mk.inj h
    exact ⟨hfree, nofun⟩
  | error e =>
    rw [change_error change hfaults hfree hrow] at h
    obtain ⟨rfl, rfl⟩ := Prod.mk.inj h
    exact ⟨hfree, by simp⟩
  | broken store => exact absurd hrow (hwhole store)

end

/-- A commit comes to what the update of the tables comes to. -/
theorem finish_commit (c : Commit) (w : World) :
    (Plan.commit c).finish (Hub.calm w) =
      match w.onStore fun s => s.updatePost w.now c.id c.version c.title c.content with
      | .ok (q, world) =>
        (.ok (.post q),
          { (Hub.calm w).log (Call.updatePost c.id c.version c.title c.content) with world })
      | .error e =>
        (.error (.refused (Commit.error c.id (.store e))),
          (Hub.calm w).log (Call.updatePost c.id c.version c.title c.content))
      | .broken world =>
        (.error .abandoned,
          { (Hub.calm w).log (Call.updatePost c.id c.version c.title c.content) with world }) := by
  have hfaults : (Hub.calm w).faults = [] := rfl
  have hworld : (Hub.calm w).world = w := rfl
  unfold Plan.finish Commit.run
  simp only
  rw [change_run (fun w s => s.updatePost w.now c.id c.version c.title c.content) hfaults, hworld]
  cases w.onStore fun s => s.updatePost w.now c.id c.version c.title c.content with
  | ok result => rfl
  | error e => rfl
  | broken world => rfl

/-- On locked tables every half that is a call is given up. -/
theorem finish_of_locked {r : Except (Stop ServiceError) Answer} (hlocked : w.poisoned = true)
    (h : plan.finish (Hub.calm w) = (r, y)) :
    y.world = w ∧ (r = .error .abandoned ∨ ∃ answer, plan = .reply answer) := by
  have hgiven : ∀ {α : Type} {c : Call} {f : Failure → ServiceError} {form : α → Answer}
      {change : World → Store → Ending Store StoreError α},
      ((Agora.Action.write c fun w => w.onStore (change w)).mapError f >>= fun a =>
        pure (form a) : Action ServiceError Answer) (Hub.calm w) = (r, y) →
          y.world = w ∧ (r = .error .abandoned ∨ ∃ answer, plan = .reply answer) := by
    intro α c f form change hrun
    rw [change_locked (x := Hub.calm w) change rfl hlocked] at hrun
    obtain ⟨rfl, rfl⟩ := Prod.mk.inj hrun
    exact ⟨rfl, Or.inl rfl⟩
  cases plan with
  | reply answer =>
    obtain ⟨_, rfl⟩ := Prod.mk.inj h
    exact ⟨rfl, Or.inr ⟨answer, rfl⟩⟩
  | commit c => exact hgiven h
  | createPost new => exact hgiven h
  | deletePost id => exact hgiven h
  | createComment new => exact hgiven h
  | follow follower followed => exact hgiven h
  | unfollow follower followed => exact hgiven h

/-- A half that is one call keeps the world, or makes the change of the call or breaks down in it,
and revises no post if the call does not. -/
theorem finish_of_write {α : Type} {c : Call} {f : Failure → ServiceError} {form : α → Answer}
    {change : World → Store → Ending Store StoreError α} {r : Except (Stop ServiceError) Answer}
    (h : ((Agora.Action.write c fun w => w.onStore (change w)).mapError f >>= fun a =>
      pure (form a) : Action ServiceError Answer) x = (r, y))
    (hchange : ∀ {a store}, change x.world x.world.store = .ok (a, store) →
      Store.Writes x.world.now x.world.store store ∧ Store.Unrevised x.world.store store)
    (hbroken : ∀ {store}, change x.world x.world.store = .broken store →
      Store.Writes x.world.now x.world.store store ∧ Store.Unrevised x.world.store store) :
    y.world = x.world ∨ ∃ store poisoned, Store.Writes x.world.now x.world.store store ∧
      Store.Unrevised x.world.store store ∧ y.world = { x.world with store, poisoned } := by
  obtain ⟨r', hwrite⟩ := Agora.Action.bind_pure_run h
  cases r' with
  | ok a =>
    obtain ⟨store, hrow, hworld⟩ := writeStore_ok hwrite
    obtain ⟨hwrites, hposts⟩ := hchange hrow
    exact Or.inr ⟨store, x.world.poisoned, hwrites, hposts, hworld⟩
  | error stop =>
    cases stop with
    | refused e => exact Or.inl (writeStore_refused hwrite)
    | abandoned =>
      obtain ⟨_, hsame⟩ | ⟨store, hrow, hworld⟩ := writeStore_abandoned hwrite
      · exact Or.inl hsame
      · obtain ⟨hwrites, hposts⟩ := hbroken hrow
        exact Or.inr ⟨store, true, hwrites, hposts, hworld⟩

/-- Whatever else is finished revises no post. -/
theorem finish_cases {r : Except (Stop ServiceError) Answer} (h : plan.finish x = (r, y))
    (hplan : ∀ c, plan ≠ .commit c) :
    y.world = x.world ∨ ∃ store poisoned, Store.Writes x.world.now x.world.store store ∧
      Store.Unrevised x.world.store store ∧ y.world = { x.world with store, poisoned } := by
  cases plan with
  | reply answer =>
    obtain ⟨_, rfl⟩ := Prod.mk.inj h
    exact Or.inl rfl
  | commit c => exact absurd rfl (hplan c)
  | createPost new =>
    refine finish_of_write h (fun hrow => ⟨.createPost hrow, .of_createPost hrow⟩) fun hrow => ?_
    rw [(Store.createPost_broken hrow).2]
    exact ⟨.breaks .same, .of_posts rfl⟩
  | deletePost id =>
    exact finish_of_write h (fun hrow => ⟨.deletePost hrow, .of_deletePost hrow⟩) fun hrow =>
      absurd hrow Store.deletePost_broken
  | createComment new =>
    refine finish_of_write h (fun hrow => ⟨.createComment hrow, .of_posts ?_⟩) fun hrow => ?_
    · obtain ⟨_, _, _, hafter⟩ := Store.createComment_ok hrow
      rw [hafter]
    · rw [(Store.createComment_broken hrow).2]
      exact ⟨.breaks .skipped, .of_posts rfl⟩
  | follow follower followed =>
    exact finish_of_write h
      (fun hrow => ⟨.follow hrow, .of_posts (by rw [Store.follow_ok hrow])⟩) fun hrow =>
        absurd hrow Store.follow_broken
  | unfollow follower followed =>
    exact finish_of_write h
      (fun hrow => ⟨.unfollow hrow, .of_posts (by rw [Store.unfollow_ok hrow])⟩) fun hrow =>
        absurd hrow Store.unfollow_broken

/-- Nothing that is finished breaks down where nothing can. -/
theorem finish_free {r : Except (Stop ServiceError) Answer} (hfree : w.poisoned = false)
    (hready : w.Ready) (h : plan.finish (Hub.calm w) = (r, y)) :
    y.world.poisoned = false ∧ r ≠ .error .abandoned := by
  cases plan with
  | reply answer =>
    obtain ⟨rfl, rfl⟩ := Prod.mk.inj h
    exact ⟨hfree, nofun⟩
  | commit c =>
    exact change_free (x := Hub.calm w)
      (fun w s => s.updatePost w.now c.id c.version c.title c.content) rfl hfree
      (fun _ => hready.updatePost_ne_broken) h
  | createPost new =>
    exact change_free (x := Hub.calm w) (fun w s => s.createPost w.now new) rfl hfree
      (fun _ => hready.createPost_ne_broken) h
  | deletePost id =>
    exact change_free (x := Hub.calm w) (fun _ s => s.deletePost id) rfl hfree
      (fun _ => Store.deletePost_broken) h
  | createComment new =>
    exact change_free (x := Hub.calm w) (fun w s => s.createComment w.now new) rfl hfree
      (fun _ => hready.createComment_ne_broken) h
  | follow follower followed =>
    exact change_free (x := Hub.calm w) (fun _ s => s.follow follower followed) rfl hfree
      (fun _ => Store.follow_broken) h
  | unfollow follower followed =>
    exact change_free (x := Hub.calm w) (fun _ s => s.unfollow follower followed) rfl hfree
      (fun _ => Store.unfollow_broken) h

/-- Whatever is finished makes one change of the tables at most. -/
theorem finish_writes {r : Except (Stop ServiceError) Answer}
    (h : plan.finish (Hub.calm w) = (r, y)) :
    y.world.store = w.store ∨ Store.Writes w.now w.store y.world.store := by
  by_cases hplan : ∃ c, plan = .commit c
  · obtain ⟨c, rfl⟩ := hplan
    rw [finish_commit] at h
    split at h
    next q world hended =>
      obtain ⟨_, rfl⟩ := Prod.mk.inj h
      obtain ⟨_, store, hrow, rfl⟩ := World.onStore_eq_ok hended
      exact Or.inr (.updatePost hrow)
    next =>
      obtain ⟨_, rfl⟩ := Prod.mk.inj h
      exact Or.inl rfl
    next world hended =>
      obtain ⟨_, rfl⟩ := Prod.mk.inj h
      obtain ⟨_, rfl⟩ | ⟨_, store, hrow, rfl⟩ := World.onStore_eq_broken hended
      · exact Or.inl rfl
      · obtain ⟨_, hf, rfl, _⟩ := Store.updatePost_broken hrow
        exact Or.inr (.breaks (.edited hf))
  · -- any other half either makes its call or keeps the tables
    rcases finish_cases h fun c hc => hplan ⟨c, hc⟩ with hsame | ⟨store, _, hwrites, _, hworld⟩
    · rw [hsame]
      exact Or.inl rfl
    · rw [hworld]
      exact Or.inr hwrites

/-- Nothing but the tables and their lock is touched by it. -/
theorem finish_world {r : Except (Stop ServiceError) Answer}
    (h : plan.finish (Hub.calm w) = (r, y)) :
    ∃ store poisoned, y.world = { w with store, poisoned } := by
  by_cases hplan : ∃ c, plan = .commit c
  · obtain ⟨c, rfl⟩ := hplan
    rw [finish_commit] at h
    split at h
    next q world hended =>
      obtain ⟨_, rfl⟩ := Prod.mk.inj h
      obtain ⟨_, store, _, rfl⟩ := World.onStore_eq_ok hended
      exact ⟨store, w.poisoned, rfl⟩
    next =>
      obtain ⟨_, rfl⟩ := Prod.mk.inj h
      exact ⟨w.store, w.poisoned, rfl⟩
    next world hended =>
      obtain ⟨_, rfl⟩ := Prod.mk.inj h
      obtain ⟨_, rfl⟩ | ⟨_, store, _, rfl⟩ := World.onStore_eq_broken hended
      · exact ⟨_, _, rfl⟩
      · exact ⟨store, true, rfl⟩
  · obtain hsame | ⟨store, poisoned, _, _, hworld⟩ := finish_cases h fun c hc => hplan ⟨c, hc⟩
    · exact ⟨w.store, w.poisoned, hsame⟩
    · exact ⟨store, poisoned, hworld⟩

/-! ## One event -/

namespace Hub

variable {h h' : Hub}

/-- All that one event can do. -/
inductive Moves (h : Hub) : Hub → Prop
  /-- The tables stay, and what was prepared, if anything, fits them. -/
  | prepares {world : World} {jobs : List Job} (hstore : world.store = h.world.store)
      (hlock : world.poisoned = h.world.poisoned)
      (hjobs : ∀ job ∈ jobs,
        job ∈ h.jobs ∨ (job.loaded = h.world.store ∧ Prepared job.loaded job.op job.plan)) :
      Moves h { h with world, jobs }
  /-- A row is put in from outside, or is not since the tables are locked. -/
  | plants {world : World} (hlocked : h.world.poisoned = true → world = h.world)
      (hcounts : Store.Counts h.world.store world.store)
      (hlater : Store.Later h.world.store world.store)
      (hposts : Store.Unrevised h.world.store world.store) : Moves h { h with world }
  /-- A job is finished on the tables as they are. -/
  | finishes {job : Job} {result : Except (Stop ServiceError) Answer} {x : Exchange World Call}
      {jobs : List Job} (hjob : job ∈ h.jobs)
      (hfinish : job.plan.finish (calm h.world) = (result, x)) (hjobs : ∀ j ∈ jobs, j ∈ h.jobs) :
      Moves h {
        world := x.world
        jobs
        closings := h.closings ++ [⟨job, h.world.store, result, x.world.store⟩] }

theorem Moves.refl (h : Hub) : Moves h h := .prepares rfl rfl fun _ hjob => Or.inl hjob

/-- A change from outside is one move, if each way in which it ends is. -/
theorem moves_plant {α : Type} (h : Hub) {change : Store → Ending Store Empty α}
    (hmade : ∀ a store, change h.world.store = .ok (a, store) →
      Store.Counts h.world.store store ∧ Store.Later h.world.store store ∧
        Store.Unrevised h.world.store store)
    (hbroken : ∀ store, change h.world.store = .broken store →
      store.posts = h.world.store.posts ∧ Store.Remains h.world.store store) :
    Moves h (h.plant change) := by
  unfold plant
  split
  next a world hended =>
    obtain ⟨hfree, store, hrow, rfl⟩ := World.onStore_eq_ok hended
    obtain ⟨hcounts, hlater, hposts⟩ := hmade a store hrow
    exact .plants (fun hlocked => by rw [hfree] at hlocked; cases hlocked) hcounts hlater hposts
  next world hended =>
    obtain ⟨_, rfl⟩ | ⟨hfree, store, hrow, rfl⟩ := World.onStore_eq_broken hended
    · exact .refl h
    · obtain ⟨hposts, hremains⟩ := hbroken store hrow
      have hwrites : Store.Writes h.world.now h.world.store store := .breaks hremains
      exact .plants (fun hlocked => by rw [hfree] at hlocked; cases hlocked) hwrites.counts
        hwrites.later (.of_posts hposts)

theorem moves (h : Hub) (event : Event) : Moves h (h.step event) := by
  cases event with
  | addUser username roleName =>
    refine moves_plant h (fun u store hrow => ?_) fun store hrow => ⟨?_, Store.remains_addUser hrow⟩
    · refine ⟨Store.counts_addUser hrow, .of_addUser hrow, .of_posts ?_⟩
      rw [(Store.addUser_ok hrow).2]
    · obtain ⟨_, rfl⟩ | ⟨_, rfl⟩ := Store.addUser_broken hrow
      · rfl
      · rfl
  | addPost new time =>
    refine moves_plant h (fun p store hrow => ?_) fun store => nofun
    obtain ⟨rfl, rfl⟩ := Prod.mk.inj (Ending.ok.inj hrow)
    exact ⟨Store.counts_addPost _ new time, .of_addPost _ new time,
      .of_newPost (p := (h.world.store.addPost new time).1) rfl rfl rfl⟩
  | setClock now => exact .prepares rfl rfl fun _ hjob => Or.inl hjob
  | prepare caller op =>
    unfold step
    simp only
    split
    next plan x hrun =>
      obtain ⟨hworld, hplan⟩ := prepare_cases hrun
      refine .prepares hworld.store hworld.poisoned ?_
      intro job hjob
      rcases List.mem_append.mp hjob with hold | hnew
      · exact Or.inl hold
      · rw [List.mem_singleton.mp hnew]
        exact Or.inr ⟨rfl, hplan plan rfl⟩
    next hrun =>
      have hworld := (prepare_cases hrun).1
      exact .prepares hworld.store hworld.poisoned fun _ hjob => Or.inl hjob
  | finish index =>
    unfold step
    simp only
    split
    next => exact .refl h
    next job hjob =>
      exact .finishes (List.mem_of_getElem? hjob) rfl fun _ hj => List.mem_of_mem_eraseIdx hj

/-- What is locked stays so, with the tables as they are. -/
theorem Moves.locked (hmoves : Moves h h') (hlocked : h.world.poisoned = true) :
    h'.world.poisoned = true ∧ h'.world.store = h.world.store := by
  cases hmoves with
  | prepares hstore hlock _ => exact ⟨hlock.trans hlocked, hstore⟩
  | plants hsame _ _ _ =>
    simp only
    rw [hsame hlocked]
    exact ⟨hlocked, rfl⟩
  | finishes _ hfinish _ =>
    simp only
    rw [(finish_of_locked hlocked hfinish).1]
    exact ⟨hlocked, rfl⟩

theorem Moves.counts (hmoves : Moves h h') : Store.Counts h.world.store h'.world.store := by
  cases hmoves with
  | prepares hstore _ _ =>
    simp only [hstore]
    exact .refl _
  | plants _ hcounts _ _ => exact hcounts
  | finishes _ hfinish _ =>
    rcases finish_writes hfinish with hsame | hwrites
    · simp only [hsame]
      exact .refl _
    · exact hwrites.counts

theorem Moves.later (hmoves : Moves h h') : Store.Later h.world.store h'.world.store := by
  cases hmoves with
  | prepares hstore _ _ =>
    simp only [hstore]
    exact .refl _
  | plants _ _ hlater _ => exact hlater
  | finishes _ hfinish _ =>
    rcases finish_writes hfinish with hsame | hwrites
    · simp only [hsame]
      exact .refl _
    · exact hwrites.later

/-! ### What is kept -/

/-- What is finished stays on record. -/
theorem Moves.closings (hmoves : Moves h h') : ∃ made, h'.closings = h.closings ++ made := by
  cases hmoves with
  | prepares _ _ _ => exact ⟨[], (List.append_nil _).symm⟩
  | plants _ _ _ _ => exact ⟨[], (List.append_nil _).symm⟩
  | finishes _ _ _ => exact ⟨_, rfl⟩

/-- What is put in from outside leaves the clock, and the roles if the change does. -/
theorem plant_keeps {α : Type} (h : Hub) {change : Store → Ending Store Empty α}
    (hmade : ∀ a store, change h.world.store = .ok (a, store) → store.roles = h.world.store.roles)
    (hbroken : ∀ store, change h.world.store = .broken store →
      store.roles = h.world.store.roles) :
    (h.plant change).world.now = h.world.now ∧
      (h.plant change).world.store.roles = h.world.store.roles := by
  unfold plant
  split
  next a world hended =>
    obtain ⟨_, store, hrow, rfl⟩ := World.onStore_eq_ok hended
    exact ⟨rfl, hmade a store hrow⟩
  next world hended =>
    obtain ⟨_, rfl⟩ | ⟨_, store, hrow, rfl⟩ := World.onStore_eq_broken hended
    · exact ⟨rfl, rfl⟩
    · exact ⟨rfl, hbroken store hrow⟩

/-- Only the event that sets the clock moves it, and none changes the roles. -/
theorem step_keeps (h : Hub) (event : Event) :
    ((h.step event).world.now = match event with | .setClock now => now | _ => h.world.now) ∧
      (h.step event).world.store.roles = h.world.store.roles := by
  cases event with
  | addUser username roleName =>
    refine h.plant_keeps (fun u store hrow => ?_) fun store hrow =>
      (Store.remains_addUser hrow).roles
    rw [(Store.addUser_ok hrow).2]
  | addPost new time =>
    refine h.plant_keeps (fun p store hrow => ?_) fun store => nofun
    obtain ⟨_, rfl⟩ := Prod.mk.inj (Ending.ok.inj hrow)
    rfl
  | setClock now => exact ⟨rfl, rfl⟩
  | prepare caller op =>
    unfold step
    simp only
    split
    next hrun =>
      have hworld := (prepare_cases hrun).1
      exact ⟨hworld.now, congrArg Store.roles hworld.store⟩
    next hrun =>
      have hworld := (prepare_cases hrun).1
      exact ⟨hworld.now, congrArg Store.roles hworld.store⟩
  | finish index =>
    unfold step
    simp only
    split
    next => exact ⟨rfl, rfl⟩
    next job _ =>
      rcases hfinish : job.plan.finish (calm h.world) with ⟨result, x⟩
      obtain ⟨store, poisoned, hworld⟩ := finish_world hfinish
      have hnow : x.world.now = h.world.now := by rw [hworld]
      refine ⟨hnow, ?_⟩
      obtain hsame | hwrites := finish_writes hfinish
      · exact congrArg Store.roles hsame
      · exact hwrites.roles

/-- What is put in from outside finishes nothing, and does not lock the tables if the change does
not break down. -/
theorem plant_free {α : Type} (change : Store → Ending Store Empty α)
    (hfree : h.world.poisoned = false) (hwhole : ∀ store, change h.world.store ≠ .broken store) :
    (h.plant change).world.poisoned = false ∧ (h.plant change).closings = h.closings := by
  unfold plant
  split
  next a world hended =>
    obtain ⟨_, store, _, rfl⟩ := World.onStore_eq_ok hended
    exact ⟨hfree, rfl⟩
  next world hended =>
    obtain ⟨_, rfl⟩ | ⟨_, store, hrow, _⟩ := World.onStore_eq_broken hended
    · exact ⟨hfree, rfl⟩
    · exact absurd hrow (hwhole store)

/-- Nothing is given up in one event where nothing can break down, if no user is added without a
role. -/
theorem step_free {event : Event} (hfree : h.world.poisoned = false) (hready : h.world.Ready)
    (hroles : ∀ username roleName, event = .addUser username roleName →
      h.world.store.role? roleName ≠ none) :
    (h.step event).world.poisoned = false ∧
      ∀ c ∈ (h.step event).closings, c ∈ h.closings ∨ c.result ≠ .error .abandoned := by
  cases event with
  | addUser username roleName =>
    obtain ⟨hafter, hclosings⟩ := plant_free (h := h)
      (fun s => s.addUser h.world.now username roleName) hfree fun store hrow => by
        obtain ⟨hnone, _⟩ | ⟨hearly, _⟩ := Store.addUser_broken hrow
        · exact hroles username roleName rfl hnone
        · exact Int.not_lt.mpr hready.clock hearly
    exact ⟨hafter, fun c hc => Or.inl (hclosings ▸ hc)⟩
  | addPost new time =>
    obtain ⟨hafter, hclosings⟩ := plant_free (h := h) (fun s => .ok (s.addPost new time)) hfree
      fun store => nofun
    exact ⟨hafter, fun c hc => Or.inl (hclosings ▸ hc)⟩
  | setClock now => exact ⟨hfree, fun _ => Or.inl⟩
  | prepare caller op =>
    unfold step
    simp only
    split
    next hrun => exact ⟨(prepare_cases hrun).1.poisoned.trans hfree, fun _ => Or.inl⟩
    next hrun => exact ⟨(prepare_cases hrun).1.poisoned.trans hfree, fun _ => Or.inl⟩
  | finish index =>
    unfold step
    simp only
    split
    next => exact ⟨hfree, fun _ => Or.inl⟩
    next job _ =>
      have hfinish : job.plan.finish (calm h.world) =
          ((job.plan.finish (calm h.world)).1, (job.plan.finish (calm h.world)).2) := rfl
      obtain ⟨hafter, hanswer⟩ := finish_free hfree hready hfinish
      refine ⟨hafter, fun c hc => ?_⟩
      rcases List.mem_append.mp hc with hold | hnew
      · exact Or.inl hold
      · rw [List.mem_singleton.mp hnew]
        exact Or.inr hanswer

/-- Whatever overlaps, the tables that are left are of a later time. -/
theorem run_later (h : Hub) (events : List Event) :
    Store.Later h.world.store (h.run events).world.store := by
  induction events generalizing h with
  | nil => exact .refl _
  | cons event rest ih => exact (h.moves event).later.trans (ih (h.step event))

end Hub

end Agora.Social
