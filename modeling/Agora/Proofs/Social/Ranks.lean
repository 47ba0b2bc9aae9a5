import Agora.Proofs.Exchange.Lockstep
import Agora.Proofs.Social.Feed
import Agora.Proofs.Social.Guard
import Agora.Proofs.Store.Roles

/-!
# What a role is good for

Main result: `run_ranked`. Owners do not need a role: whatever is in the table of roles, whatever
becomes of the lookup of one, and whatever role the owner of a post has, an operation on the post
does the same. For others a higher role is as good as a lower one that suffices, in the same
exchange with the same faults: the two runs are equal.

`ButRoles` relates exchanges that differ in the table of roles and in the faults of looking one up.
Everything that an operation does but asking the guard runs in lockstep under it, and the guard asks
nothing about an owner.
-/

namespace Agora.Social

open Exchange (Beside Lockstep Sees lockstep_bind lockstep_lookup lockstep_mapError
  lockstep_ofExcept lockstep_pure lockstep_refuse lockstep_write)

variable {roles : List Role} {x x' : Exchange World Call}

/-! ## Other roles -/

/-- The world with another table of roles. -/
def World.withRoles (w : World) (roles : List Role) : World :=
  { w with store := w.store.withRoles roles }

/-- The fault is not one of looking up a role. -/
def sparesRoles (fault : Fault) : Bool := fault.target ≠ "roles.get_by_name"

/-- The second exchange has the table `roles` and perhaps other faults of looking one up, and is the
same as the first for the rest. -/
def ButRoles (roles : List Role) : Exchange World Call → Exchange World Call → Prop :=
  Beside sparesRoles fun w w' => w' = w.withRoles roles

/-- Whatever else is called is called by another name. -/
theorem sees_of_ne {c : Call} (hc : ∀ roleName, c ≠ .roleByName roleName) : Sees sparesRoles c := by
  intro fault (hfault : fault.target = c.name)
  unfold sparesRoles
  rw [hfault]
  apply decide_eq_true
  cases c with
  | roleByName roleName => exact absurd rfl (hc roleName)
  | _ => simp [Call.name]

/-- What is read under the lock and has nothing to do with roles. -/
theorem tables_withRoles {α : Type} {f : Store → α} (w : World)
    (h : ∀ s : Store, f (s.withRoles roles) = f s) :
    (w.withRoles roles).tables?.map f = w.tables?.map f := by
  unfold World.tables? World.withRoles
  cases w.poisoned with
  | true => rfl
  | false => exact congrArg some (h w.store)

theorem onStore_withRoles {ε α : Type} {change change' : Store → Ending Store ε α} (w : World)
    (h : change' (w.store.withRoles roles) = (change w.store).mapState (·.withRoles roles)) :
    (w.withRoles roles).onStore change' = (w.onStore change).mapState (·.withRoles roles) := by
  obtain hlocked | hfree := Bool.eq_false_or_eq_true w.poisoned
  · rw [World.onStore_of_poisoned hlocked,
      World.onStore_of_poisoned (w := w.withRoles roles) hlocked]
    rfl
  · have hrow : change' (w.withRoles roles).store =
        (change w.store).mapState (·.withRoles roles) := h
    rw [World.onStore_of_free hfree, World.onStore_of_free (w := w.withRoles roles) hfree, hrow]
    cases change w.store <;> rfl

/-! ## Lockstep -/

theorem lockstep_loadPost (id : Int) : Lockstep (ButRoles roles) (loadPost id) := by
  unfold loadPost
  refine lockstep_bind (lockstep_mapError (lockstep_lookup (sees_of_ne nofun) ?_)) fun found => ?_
  · rintro w _ rfl
    exact tables_withRoles w fun _ => rfl
  · cases found with
    | none => exact lockstep_refuse _
    | some p => exact lockstep_pure p

/-- A change of the tables that has nothing to do with roles. -/
theorem lockstep_change {α ε : Type} {c : Call} {f : Failure → ε}
    (change : Time.Instant → Store → Ending Store StoreError α) {form : α → Answer}
    (hc : ∀ roleName, c ≠ .roleByName roleName)
    (hchange : ∀ now s, change now (s.withRoles roles) =
      (change now s).mapState (·.withRoles roles)) :
    Lockstep (ButRoles roles)
      ((Agora.Action.write c fun w : World => w.onStore (change w.now)).mapError f >>= fun a =>
        pure (form a)) := by
  refine lockstep_bind (lockstep_mapError (lockstep_write (sees_of_ne hc) ?_)) fun _ =>
    lockstep_pure _
  rintro w _ rfl
  have hended := onStore_withRoles w (hchange w.now w.store)
  cases hrun : w.onStore (change w.now) with
  | error e =>
    rw [hrun] at hended
    exact Or.inl ⟨e, hrun, hended⟩
  | ok result =>
    rw [hrun] at hended
    exact Or.inr (Or.inl ⟨result.1, result.2, _, hrun, hended, rfl⟩)
  | broken left =>
    rw [hrun] at hended
    exact Or.inr (Or.inr ⟨left, _, hrun, hended, rfl⟩)

theorem lockstep_finish (plan : Plan) : Lockstep (ButRoles roles) plan.finish := by
  cases plan with
  | reply answer => exact lockstep_pure answer
  | createPost new =>
    exact lockstep_change (fun now s => s.createPost now new) nofun fun _ s =>
      s.createPost_withRoles roles new
  | commit c =>
    exact lockstep_change (fun now s => s.updatePost now c.id c.version c.title c.content) nofun
      fun _ s => s.updatePost_withRoles roles c.id c.version c.title c.content
  | deletePost id =>
    exact lockstep_change (fun _ s => s.deletePost id) nofun fun _ s =>
      s.deletePost_withRoles roles id
  | createComment new =>
    exact lockstep_change (fun now s => s.createComment now new) nofun fun _ s =>
      s.createComment_withRoles roles new
  | follow follower followed =>
    exact lockstep_change (fun _ s => s.follow follower followed) nofun fun _ s =>
      s.follow_withRoles roles follower followed
  | unfollow follower followed =>
    exact lockstep_change (fun _ s => s.unfollow follower followed) nofun fun _ s =>
      s.unfollow_withRoles roles follower followed

/-! ## Runs -/

/-- What the owner of a post does there does not involve the guard. -/
theorem guarded_of_owner (caller : User) {id : Int} {roleName : String}
    {plan : Post → Except ServiceError Plan}
    (howner : ∀ p, x.world.store.post? id = some p → caller.id = p.userId) :
    guarded caller id roleName plan x =
      (loadPost id >>= fun p => Agora.Action.ofExcept (plan p) >>= Plan.finish) x := by
  rw [guarded_run, Agora.Action.bind_run]
  cases hload : loadPost id x with
  | mk r y =>
    cases r with
    | error e => rfl
    | ok p =>
      obtain ⟨_, ⟨_, he⟩ | ⟨_, hp, hfound⟩⟩ := loadPost_cases hload
      · cases he
      cases hp
      simp only [guardPost_of_owner (howner p hfound)]
      rfl

theorem lockstep_unguarded (id : Int) (plan : Post → Except ServiceError Plan) :
    Lockstep (ButRoles roles)
      (loadPost id >>= fun p => Agora.Action.ofExcept (plan p) >>= Plan.finish) :=
  lockstep_bind (lockstep_loadPost id) fun p => lockstep_bind (lockstep_ofExcept (plan p))
    lockstep_finish

/-- What one caller is not forbidden to do, a caller of the same id and of a higher role does
alike. -/
theorem guarded_mono {caller caller' : User} {id : Int} {roleName : String}
    {plan : Post → Except ServiceError Plan} (hid : caller'.id = caller.id)
    (hlevel : caller.role.level ≤ caller'.role.level)
    (h : (guarded caller id roleName plan x).1 ≠ .error (.refused .forbidden)) :
    guarded caller' id roleName plan x = guarded caller id roleName plan x := by
  rw [guarded_run] at h ⊢
  rw [guarded_run]
  cases hload : loadPost id x with
  | mk r y =>
    cases r with
    | error e => rfl
    | ok p =>
      rw [hload] at h
      simp only at h ⊢
      by_cases howner : caller.id = p.userId
      · rw [guardPost_of_owner howner, guardPost_of_owner (hid.trans howner)]
      · rw [guardPost_of_other howner] at h ⊢
        rw [guardPost_of_other (hid ▸ howner), verdict_mono hlevel]
        intro hforbidden
        rw [hforbidden] at h
        exact h rfl

/-- What roles are good for in an operation on the post with an id. -/
structure Ranked (op : Operation) (id : Int) : Prop where
  /-- If the caller owns the post, it does not matter what role the caller has, what is in the
  table of roles and what becomes of looking one up: the answer and the calls are the same, and so
  is what is left but for that table. -/
  owner : ∀ (caller : User) (role : Role) (roles : List Role) (x x' : Exchange World Call),
    (∀ p, x.world.store.post? id = some p → caller.id = p.userId) → ButRoles roles x x' →
      (op.run { caller with role } x').1 = (op.run caller x).1 ∧
        ButRoles roles (op.run caller x).2 (op.run { caller with role } x').2
  /-- If the caller is not forbidden to do it, the same caller with a higher role does the same. -/
  higher : ∀ (caller : User) (role : Role) (x : Exchange World Call),
    (op.run caller x).1 ≠ .error (.refused .forbidden) → caller.role.level ≤ role.level →
      op.run { caller with role } x = op.run caller x

theorem run_ranked {op : Operation} {id : Int} {roleName : String}
    (h : op.asks? = some (id, roleName)) : Ranked op id := by
  obtain ⟨plan, hrun⟩ := run_of_asks h
  refine ⟨?owner, ?higher⟩
  case owner =>
    intro caller role roles x x' howner hx
    have howner' : ∀ p, x'.world.store.post? id = some p → caller.id = p.userId := by
      rw [hx.world]
      exact howner
    rw [hrun, hrun, guarded_of_owner caller howner, guarded_of_owner { caller with role } howner']
    exact lockstep_unguarded id (plan caller.id) x x' hx
  case higher =>
    intro caller role x hforbidden hlevel
    rw [hrun] at hforbidden ⊢
    rw [hrun]
    exact guarded_mono rfl hlevel hforbidden

/-! ## An owner without a role -/

/-- The sample tables without any role, while none can be looked up. -/
def withoutRoles : Exchange World Call where
  world := { store := sampleTables.withRoles [], cache := none, now := noon }
  deadline := none
  faults := [{ target := "roles.get_by_name", error := some .notFound }]

/-- Ada deletes her post there, with a role of no level, as she does where nothing is wrong. -/
theorem run_ranked_withoutRoles :
    (Operation.delete 104).asks? = some (104, deleteRole) ∧ Ranked (.delete 104) 104 ∧
      ButRoles [] (Hub.calm { store := sampleTables, cache := none, now := noon }) withoutRoles ∧
      ((Operation.delete 104).run { memberNamed 101 "ada" with role := ⟨9, "guest", 0, ""⟩ }
        withoutRoles).1 = .ok .done := by
  have hroles : ButRoles [] (Hub.calm { store := sampleTables, cache := none, now := noon })
      withoutRoles := ⟨rfl, rfl, rfl, rfl, by decide⟩
  exact ⟨rfl, run_ranked rfl, hroles, by decide⟩

end Agora.Social
