import Agora.Proofs.Social.Operations

/-!
# What operations are made of

Every operation is composed of calls on the tables and of finding users, one after the other
(`composed_run`). Whatever holds of these two and of what is done without a call, and is kept when
actions follow each other, therefore holds of every operation; such facts are shown by induction on
`Composed`, and the operations are not opened again.

Of the errors one matters on the way: the one that says that a call was cut (`Cancellable`). No step
makes it up, and no step loses it.
-/

namespace Agora.Social

/-- Errors some of which say that a call was cut at the deadline. -/
class Cancellable (ε : Type) where
  isCancelled : ε → Bool

export Cancellable (isCancelled)

instance : Cancellable Failure where
  isCancelled
    | .cancelled => true
    | .store _ => false

instance : Cancellable AccessError where
  isCancelled
    | .cancelled => true
    | .unknownRole _ | .store _ => false

instance : Cancellable ResolveError where
  isCancelled
    | .cancelled => true
    | .notFound _ | .store _ => false

instance : Cancellable ServiceError where
  isCancelled
    | .cancelled => true
    | _ => false

theorem isCancelled_serviceError {e : ServiceError} : isCancelled e = true ↔ e = .cancelled := by
  cases e <;> simp [isCancelled]

/-- A change of the tables leaves the users as they are, also if it breaks down. -/
structure KeepsUsers {α : Type} (change : Time.Instant → Store → Ending Store StoreError α) :
    Prop where
  made : ∀ {now s a s'}, change now s = .ok (a, s') → s'.users = s.users
  broken : ∀ {now s s'}, change now s = .broken s' → s'.users = s.users

/-- What is composed of calls on the tables and of finding users. The calls know of the tables and
the clock only, and never change a user. -/
inductive Composed : {ε : Type} → [Cancellable ε] → {α : Type} → Action ε α → Prop
  | pure {ε α : Type} [Cancellable ε] (a : α) : Composed (Pure.pure a : Action ε α)
  | refuse {ε α : Type} [Cancellable ε] {e : ε} (he : isCancelled e = false) :
      Composed (.refuse e : Action ε α)
  | bind {ε α β : Type} [Cancellable ε] {a : Action ε α} {f : α → Action ε β} (ha : Composed a)
      (hf : ∀ v, Composed (f v)) : Composed (a >>= f)
  | mapError {ε ε' α : Type} [Cancellable ε] [Cancellable ε'] {f : ε → ε'} {a : Action ε α}
      (hf : ∀ e, isCancelled (f e) = isCancelled e) (ha : Composed a) : Composed (a.mapError f)
  | lookup {α : Type} {c : Call} (hc : c.isOnCache = false) (answer : Store → Option α) :
      Composed (Agora.Action.lookup c fun w => w.tables?.map answer)
  | read {α : Type} {c : Call} (hc : c.isOnCache = false) (answer : Store → α) :
      Composed (Agora.Action.read c fun w => w.tables?.map answer)
  | write {α : Type} {c : Call} (hc : c.isOnCache = false)
      {change : Time.Instant → Store → Ending Store StoreError α} (husers : KeepsUsers change) :
      Composed (Agora.Action.write c fun w => w.onStore (change w.now))
  | resolve (id : Int) : Composed (resolve id)

/-! ## Without a call -/

theorem composed_ofExcept {ε α : Type} [Cancellable ε] {r : Except ε α}
    (hr : ∀ e, r = .error e → isCancelled e = false) : Composed (.ofExcept r : Action ε α) := by
  cases r with
  | ok a => exact .pure a
  | error e => exact .refuse (hr e rfl)

/-- A text is refused for what it is, whether or not calls were cut. -/
theorem checkText_error {field text : String} {longest : Nat} {e : ServiceError}
    (h : checkText field text longest = .error e) : isCancelled e = false := by
  unfold checkText at h
  split at h
  next =>
    cases h
    rfl
  next =>
    split at h
    next =>
      cases h
      rfl
    next => cases h

/-- So is an edit that is refused: it is refused for one of its texts. -/
theorem ofEdit_error {p : Post} {edit : PostEdit} {e : ServiceError}
    (h : Commit.ofEdit p edit = .error e) : isCancelled e = false := by
  rw [Commit.ofEdit_eq] at h
  rcases Result.bind_eq_error.mp h with h | ⟨_, _, h⟩
  · obtain ⟨_, _, h⟩ := checkGiven_eq_error.mp h
    exact checkText_error h
  rcases Result.bind_eq_error.mp h with h | ⟨_, _, h⟩
  · obtain ⟨_, _, h⟩ := checkGiven_eq_error.mp h
    exact checkText_error h
  · cases h

/-! ## Parts of the service -/

theorem composed_loadPost (id : Int) : Composed (loadPost id) := by
  unfold loadPost
  refine .bind (.mapError (fun e => by cases e <;> rfl) (.lookup rfl fun s => s.post? id)) ?_
  intro found
  cases found with
  | none => exact .refuse rfl
  | some p => exact .pure p

theorem composed_authorize (caller : User) (owner : Int) (roleName : String) :
    Composed (authorize caller owner roleName) := by
  unfold authorize
  split
  next => exact .pure true
  next =>
    refine .bind (.mapError (fun e => by cases e <;> rfl)
      (.lookup rfl fun s => s.role? roleName)) ?_
    intro role
    cases role with
    | none => exact .refuse rfl
    | some role => exact .pure _

theorem composed_guardPost (caller : User) (p : Post) (roleName : String) :
    Composed (guardPost caller p roleName) := by
  unfold guardPost
  refine .bind (.mapError (fun e => by cases e <;> rfl) (composed_authorize caller _ _)) ?_
  intro allowed
  cases allowed with
  | true => exact .pure ()
  | false => exact .refuse rfl

/-- A change of the tables, with the errors of an operation: of these the one that says that the
call was cut stands for nothing else. -/
theorem composed_change {α : Type} {c : Call} {f : Failure → ServiceError}
    (change : Time.Instant → Store → Ending Store StoreError α) (hc : c.isOnCache = false)
    (hcut : f .cancelled = .cancelled) (hstore : ∀ error, isCancelled (f (.store error)) = false)
    (husers : KeepsUsers change) :
    Composed ((Agora.Action.write c fun w => w.onStore (change w.now)).mapError f) := by
  refine .mapError ?_ (.write hc husers)
  intro failure
  cases failure with
  | cancelled => rw [hcut]; rfl
  | store error => exact hstore error

/-! ## Operations -/

theorem composed_createPost (caller : User) (draft : PostDraft) :
    Composed (createPost caller draft) := by
  unfold createPost
  refine .bind (composed_ofExcept fun _ => checkText_error) fun _ => ?_
  refine .bind (composed_ofExcept fun _ => checkText_error) fun _ => ?_
  refine composed_change (fun now s => s.createPost now _) rfl rfl (fun _ => rfl) ⟨?_, ?_⟩
  · intro now s p s' h
    obtain ⟨_, _, _, rfl⟩ := Store.createPost_ok h
    rfl
  · intro now s s' h
    rw [(Store.createPost_broken h).2]

theorem composed_getPost (id : Int) : Composed (getPost id) := by
  unfold getPost
  refine .bind (composed_loadPost id) fun p => ?_
  exact .bind (.mapError (fun e => by cases e <;> rfl) (.read rfl fun s => s.commentsOf id))
    fun comments => .pure _

theorem composed_updatePost (caller : User) (id : Int) (edit : PostEdit) :
    Composed (updatePost caller id edit) := by
  unfold updatePost prepareEdit
  refine .bind ?prepare fun c => ?commit
  case prepare =>
    refine .bind (composed_loadPost id) fun p => ?_
    exact .bind (composed_guardPost caller p editRole) fun _ =>
      composed_ofExcept fun _ => ofEdit_error
  case commit =>
    refine composed_change (fun now s => s.updatePost now c.id c.version c.title c.content) rfl
      rfl (fun error => by cases error <;> rfl) ⟨?_, ?_⟩
    · intro now s p s' h
      obtain ⟨_, _, rfl⟩ := Store.updatePost_ok h
      rfl
    · intro now s s' h
      obtain ⟨_, _, rfl, _⟩ := Store.updatePost_broken h
      rfl

theorem composed_deletePost (caller : User) (id : Int) : Composed (deletePost caller id) := by
  unfold deletePost
  refine .bind (composed_loadPost id) fun p => ?_
  refine .bind (composed_guardPost caller p deleteRole) fun _ => ?_
  refine composed_change (fun _ s => s.deletePost id) rfl rfl
    (fun error => by cases error <;> rfl) ⟨?_, fun h => absurd h Store.deletePost_broken⟩
  intro now s u s' h
  rw [Store.deletePost_ok h]

theorem composed_commentPost (caller : User) (id : Int) (draft : CommentDraft) :
    Composed (commentPost caller id draft) := by
  unfold commentPost
  refine .bind (composed_loadPost id) fun p => ?_
  refine .bind (composed_guardPost caller p commentRole) fun _ => ?_
  refine .bind (composed_ofExcept fun _ => checkText_error) fun _ => ?_
  refine composed_change (fun now s => s.createComment now _) rfl rfl (fun _ => rfl) ⟨?_, ?_⟩
  · intro now s c s' h
    obtain ⟨_, _, _, rfl⟩ := Store.createComment_ok h
    rfl
  · intro now s s' h
    rw [(Store.createComment_broken h).2]
    rfl

theorem composed_follow (caller : User) (id : Int) : Composed (Social.follow caller id) := by
  unfold Social.follow
  split
  next => exact .refuse rfl
  next =>
    refine composed_change (fun _ s => s.follow caller.id id) rfl rfl
      (fun error => by cases error <;> rfl) ⟨?_, fun h => absurd h Store.follow_broken⟩
    intro now s u s' h
    rw [Store.follow_ok h]

theorem composed_unfollow (caller : User) (id : Int) : Composed (Social.unfollow caller id) := by
  unfold Social.unfollow
  refine composed_change (fun _ s => s.unfollow caller.id id) rfl rfl
    (fun error => by cases error <;> rfl) ⟨?_, fun h => absurd h Store.unfollow_broken⟩
  intro now s u s' h
  rw [Store.unfollow_ok h]

theorem composed_profile (id : Int) : Composed (profile id) := by
  refine .mapError ?_ (.resolve id)
  intro e
  cases e <;> rfl

theorem composed_feed (caller : User) (params : Feed.Params) :
    Composed (Social.feed caller params) := by
  unfold Social.feed
  cases params.query with
  | error e => exact .refuse rfl
  | ok query =>
    exact .mapError (fun e => by cases e <;> rfl) (.read rfl fun s => s.feed caller.id query)

/-- Every operation is composed of calls on the tables and of finding users. -/
theorem composed_run (caller : User) (op : Operation) : Composed (op.run caller) := by
  cases op with
  | create draft => exact .bind (composed_createPost caller draft) fun p => .pure _
  | get id => exact .bind (composed_getPost id) fun thread => .pure _
  | update id edit => exact .bind (composed_updatePost caller id edit) fun p => .pure _
  | delete id => exact .bind (composed_deletePost caller id) fun _ => .pure _
  | comment id draft => exact .bind (composed_commentPost caller id draft) fun c => .pure _
  | follow id => exact .bind (composed_follow caller id) fun _ => .pure _
  | unfollow id => exact .bind (composed_unfollow caller id) fun _ => .pure _
  | profile id => exact .bind (composed_profile id) fun u => .pure _
  | feed params => exact .bind (composed_feed caller params) fun items => .pure _

end Agora.Social
