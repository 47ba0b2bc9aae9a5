import Agora.Proofs.Social.Endings

/-!
# Nobody changes what is not theirs to change

Main result: `run_guarded`. Whatever the tables hold, whoever calls, whatever faults are still to
come and whatever the deadline is, a run of an operation leaves tables that are `Guarded`: every
difference to the tables before is one that the owner of the post, or a caller with the role that
the difference asks for, asked for in this very operation.

A post is known by its id, as `post?` finds it; rows that a store keeps twice under one id are
covered by `rowLost`. The role is the one that the role lookup of the run answered (`roleAnswer`),
so a lookup that fails, finds nothing or is cut at the deadline grants nothing.
-/

namespace Agora.Social

/-- The post that an operation changes or comments on, and the role that it asks for of callers who
do not own the post. -/
def Operation.asks? : Operation → Option (Int × String)
  | .update id _ => some (id, editRole)
  | .delete id => some (id, deleteRole)
  | .comment id _ => some (id, commentRole)
  | _ => none

/-- The posts after an operation of a caller, against those of the exchange `x` that it was run
on. -/
structure PostsGuarded (x : Exchange World Call) (caller : User) (op : Operation)
    (after : Store) : Prop where
  /-- A post is edited only by an update of that post, by its owner or at least a moderator. -/
  edited : ∀ id p q, x.world.store.post? id = some p → after.post? id = some q → q ≠ p →
    (∃ edit, op = .update id edit) ∧ MayChange x caller p "moderator"
  /-- An edit is of title, content, version and time of change, and of nothing else. -/
  lasting : ∀ id p q, x.world.store.post? id = some p → after.post? id = some q →
    q.id = p.id ∧ q.userId = p.userId ∧ q.tags = p.tags ∧ q.createdAt = p.createdAt
  /-- A post disappears only by a delete of that post, by its owner or at least an admin. -/
  removed : ∀ id p, x.world.store.post? id = some p → after.post? id = none →
    op = .delete id ∧ MayChange x caller p "admin"
  /-- A post appears only when the caller creates one, which is then the caller's. -/
  created : ∀ id q, x.world.store.post? id = none → after.post? id = some q →
    (∃ draft, op = .create draft) ∧ q.userId = caller.id
  /-- No row of posts is lost but by such an update or delete of the post with its id. -/
  rowLost : ∀ p ∈ x.world.store.posts, p ∉ after.posts →
    ∃ found, x.world.store.post? p.id = some found ∧
      (((∃ edit, op = .update p.id edit) ∧ MayChange x caller found "moderator") ∨
        (op = .delete p.id ∧ MayChange x caller found "admin"))

/-- The comments after an operation of a caller. -/
structure CommentsGuarded (x : Exchange World Call) (caller : User) (op : Operation)
    (after : Store) : Prop where
  /-- Comments are as they were, or fewer, or one more: a comment of the caller on a post that the
  caller owns or has at least the role of a user for. -/
  added : after.comments.Sublist x.world.store.comments ∨
    ∃ c draft p, after.comments = x.world.store.comments ++ [c] ∧
      op = .comment c.postId draft ∧ c.userId = caller.id ∧
      x.world.store.post? c.postId = some p ∧ MayChange x caller p "user"
  /-- A comment is lost only by a delete of its post, by the owner of that or at least an admin. -/
  lost : ∀ c ∈ x.world.store.comments, c ∉ after.comments →
    op = .delete c.postId ∧
      ∃ p, x.world.store.post? c.postId = some p ∧ MayChange x caller p "admin"
  /-- A post that disappears takes its comments with it. -/
  gone : ∀ id p, x.world.store.post? id = some p → after.post? id = none →
    ∀ c ∈ after.comments, c.postId ≠ id

/-- The result of an operation of a caller, and the world after it. -/
structure Guarded (x : Exchange World Call) (caller : User) (op : Operation)
    (r : Except (Stop ServiceError) Answer) (after : World) : Prop where
  posts : PostsGuarded x caller op after.store
  comments : CommentsGuarded x caller op after.store
  /-- An operation that is refused changes no table. -/
  failed : ∀ e, r = .error (.refused e) → after.store = x.world.store
  /-- If the caller does not own the post, and the role lookup of this run failed, was cut, found
  no role or one above the caller's, nothing at all is changed. -/
  denied : ∀ id roleName p, op.asks? = some (id, roleName) → x.world.store.post? id = some p →
    caller.id ≠ p.userId →
    (∀ role, roleAnswer (loadPost id x).2 roleName = .ok (some role) →
      caller.role.level < role.level) →
    after = x.world
  /-- Only edges that go out from the caller come or go. -/
  followed : ∀ edge : Follow, edge.follower ≠ caller.id →
    (edge ∈ after.store.follows ↔ edge ∈ x.world.store.follows)
  /-- Users and roles are never touched. -/
  fixed : after.store.users = x.world.store.users ∧ after.store.roles = x.world.store.roles

variable {x : Exchange World Call} {caller : User} {op : Operation}
  {r : Except (Stop ServiceError) Answer}

/-! ## Tables that stay as they are -/

theorem postsGuarded_of_eq {after : Store} (h : after.posts = x.world.store.posts) :
    PostsGuarded x caller op after := by
  have hfound := Store.post?_congr h
  refine ⟨?edited, ?lasting, ?removed, ?created, ?rowLost⟩
  case edited =>
    intro id p q hp hq hne
    rw [hfound, hp] at hq
    exact absurd (Option.some.inj hq).symm hne
  case lasting =>
    intro id p q hp hq
    rw [hfound, hp] at hq
    cases hq
    exact ⟨rfl, rfl, rfl, rfl⟩
  case removed =>
    intro id p hp hq
    rw [hfound, hp] at hq
    cases hq
  case created =>
    intro id q hp hq
    rw [hfound, hp] at hq
    cases hq
  case rowLost =>
    intro p hp hlost
    rw [h] at hlost
    exact absurd hp hlost

theorem commentsGuarded_of_eq {after : Store} (h : after.comments = x.world.store.comments)
    (hposts : ∀ id p, x.world.store.post? id = some p → after.post? id ≠ none) :
    CommentsGuarded x caller op after := by
  refine ⟨?added, ?lost, ?gone⟩
  case added =>
    rw [h]
    exact Or.inl (List.Sublist.refl _)
  case lost =>
    intro c hc hlost
    rw [h] at hlost
    exact absurd hc hlost
  case gone =>
    intro id p hp hq
    exact absurd hq (hposts id p hp)

/-- A run that changed something was not denied. -/
theorem not_denied {p : Post} {roleName : String} (hmay : MayChange x caller p roleName)
    (hother : caller.id ≠ p.userId)
    (hlow : ∀ role, roleAnswer (loadPost p.id x).2 roleName = .ok (some role) →
      caller.role.level < role.level) : False := by
  rcases hmay with hown | ⟨role, hanswer, _, hlevel⟩
  · exact hother hown
  · have := hlow role hanswer
    omega

theorem denied_of_may {id : Int} {roleName : String} {p : Post} {after : World}
    (hasks : op.asks? = some (id, roleName)) (hfound : x.world.store.post? id = some p)
    (hmay : MayChange x caller p roleName) (id' : Int) (roleName' : String) (p' : Post)
    (hasks' : op.asks? = some (id', roleName')) (hfound' : x.world.store.post? id' = some p')
    (hother : caller.id ≠ p'.userId)
    (hlow : ∀ role, roleAnswer (loadPost id' x).2 roleName' = .ok (some role) →
      caller.role.level < role.level) : after = x.world := by
  rw [hasks] at hasks'
  cases hasks'
  rw [hfound] at hfound'
  cases hfound'
  rw [← Store.id_of_post? hfound] at hlow
  exact (not_denied hmay hother hlow).elim

/-- Where the posts are the same, none has disappeared. -/
theorem found_of_eq {after : Store} (h : after.posts = x.world.store.posts) (id : Int) (p : Post)
    (hp : x.world.store.post? id = some p) : after.post? id ≠ none := by
  rw [Store.post?_congr h, hp]
  simp

/-! ## Each change -/

/-- A new post lies behind all others. -/
theorem postsGuarded_create {draft : PostDraft} {new : Post} {after : Store}
    (hauthor : new.userId = caller.id) (h : after.posts = x.world.store.posts ++ [new]) :
    PostsGuarded x caller (.create draft) after := by
  refine ⟨?edited, ?lasting, ?removed, ?created, ?rowLost⟩
  case edited =>
    intro id p q hp hq hne
    rw [Store.post?_append h hp] at hq
    exact absurd (Option.some.inj hq).symm hne
  case lasting =>
    intro id p q hp hq
    rw [Store.post?_append h hp] at hq
    cases hq
    exact ⟨rfl, rfl, rfl, rfl⟩
  case removed =>
    intro id p hp hq
    rw [Store.post?_append h hp] at hq
    cases hq
  case created =>
    intro id q hp hq
    unfold Store.post? at hp hq
    rw [h, List.find?_append, hp, Option.none_or] at hq
    have hmem := List.mem_of_find?_eq_some hq
    rw [List.mem_singleton] at hmem
    exact ⟨⟨draft, rfl⟩, by rw [hmem, hauthor]⟩
  case rowLost =>
    intro p hp hlost
    rw [h] at hlost
    exact absurd (List.mem_append_left _ hp) hlost

/-- An update edits at most the post of its id, whether it ends or breaks down. -/
theorem postsGuarded_update {id : Int} {version : Int32} {edit : PostEdit} {title content : String}
    {f : Post → Post} {p : Post} (hfound : x.world.store.post? id = some p)
    (hmay : MayChange x caller p editRole) (hf : Store.Edits version title content f) :
    PostsGuarded x caller (.update id edit) (x.world.store.editPost id version f) := by
  have hrows : ∀ i, (x.world.store.editPost id version f).post? i = x.world.store.post? i ∨
      ∃ p, x.world.store.post? i = some p ∧ i = id ∧ p.version = version ∧
        (x.world.store.editPost id version f).post? i = some (f p) := Store.post?_editPost hf
  refine ⟨?edited, ?lasting, ?removed, ?created, ?rowLost⟩
  case edited =>
    intro i p' q' hp hq hne
    rcases hrows i with hsame | ⟨_, _, rfl, _, _⟩
    · rw [hsame, hp] at hq
      exact absurd (Option.some.inj hq).symm hne
    · rw [hfound] at hp
      cases hp
      exact ⟨⟨edit, rfl⟩, hmay⟩
  case lasting =>
    intro i p' q' hp hq
    rcases hrows i with hsame | ⟨r, hr, _, _, hedited⟩
    · rw [hsame, hp] at hq
      cases hq
      exact ⟨rfl, rfl, rfl, rfl⟩
    · rw [hp] at hr
      cases hr
      rw [hedited] at hq
      cases hq
      exact ⟨hf.id p', hf.userId p', hf.tags p', hf.createdAt p'⟩
  case removed =>
    intro i p' hp hq
    rcases hrows i with hsame | ⟨_, _, _, _, hedited⟩
    · rw [hsame, hp] at hq
      cases hq
    · rw [hedited] at hq
      cases hq
  case created =>
    intro i q' hp hq
    rcases hrows i with hsame | ⟨_, hr, _, _, _⟩
    · rw [hsame, hp] at hq
      cases hq
    · rw [hp] at hr
      cases hr
  case rowLost =>
    intro p' hp' hlost
    -- a row that is gone was replaced, so it has the id and the version of the commit
    rcases Store.mem_replaceFirst_of_mem hp' with hkept | hcurrent
    · exact absurd hkept hlost
    · simp only [Bool.and_eq_true, decide_eq_true_eq] at hcurrent
      obtain ⟨rfl, _⟩ := hcurrent
      exact ⟨p, hfound, Or.inl ⟨⟨edit, rfl⟩, hmay⟩⟩

/-- A delete removes what is stored under its id. -/
theorem postsGuarded_delete {id : Int} {p : Post} {after : Store}
    (hfound : x.world.store.post? id = some p) (hmay : MayChange x caller p deleteRole)
    (h : x.world.store.deletePost id = .ok ((), after)) :
    PostsGuarded x caller (.delete id) after := by
  have hrows := Store.post?_deletePost h
  refine ⟨?edited, ?lasting, ?removed, ?created, ?rowLost⟩
  case edited =>
    intro i p' q' hp hq hne
    rw [hrows] at hq
    split at hq
    next => cases hq
    next =>
      rw [hp] at hq
      exact absurd (Option.some.inj hq).symm hne
  case lasting =>
    intro i p' q' hp hq
    rw [hrows] at hq
    split at hq
    next => cases hq
    next =>
      rw [hp] at hq
      cases hq
      exact ⟨rfl, rfl, rfl, rfl⟩
  case removed =>
    intro i p' hp hq
    rw [hrows] at hq
    split at hq
    next hi =>
      subst hi
      rw [hfound] at hp
      cases hp
      exact ⟨rfl, hmay⟩
    next =>
      rw [hp] at hq
      cases hq
  case created =>
    intro i q' hp hq
    rw [hrows] at hq
    split at hq
    next => cases hq
    next =>
      rw [hp] at hq
      cases hq
  case rowLost =>
    intro p' hp' hlost
    -- the delete keeps every row of another id
    rw [Store.deletePost_ok h, List.mem_filter] at hlost
    have hid : p'.id = id := by
      apply Decidable.byContradiction
      intro hne
      exact hlost ⟨hp', by simpa using hne⟩
    subst hid
    exact ⟨p, hfound, Or.inr ⟨rfl, hmay⟩⟩

theorem commentsGuarded_delete {id : Int} {p : Post} {after : Store}
    (hfound : x.world.store.post? id = some p) (hmay : MayChange x caller p deleteRole)
    (h : x.world.store.deletePost id = .ok ((), after)) :
    CommentsGuarded x caller (.delete id) after := by
  have hafter := Store.deletePost_ok h
  refine ⟨?added, ?lost, ?gone⟩
  case added =>
    rw [hafter]
    exact Or.inl List.filter_sublist
  case lost =>
    intro c hc hlost
    rw [hafter, List.mem_filter] at hlost
    have hid : c.postId = id := by
      apply Decidable.byContradiction
      intro hne
      exact hlost ⟨hc, by simpa using hne⟩
    subst hid
    exact ⟨rfl, p, hfound, hmay⟩
  case gone =>
    intro i p' hp hq c hc
    have hposts : PostsGuarded x caller (.delete id) after := postsGuarded_delete hfound hmay h
    cases (hposts.removed i p' hp hq).1
    rw [hafter, List.mem_filter] at hc
    simpa using hc.2

theorem commentsGuarded_comment {id : Int} {draft : CommentDraft} {p : Post} {c : Comment}
    {after : Store} (hfound : x.world.store.post? id = some p)
    (hmay : MayChange x caller p commentRole)
    (h : x.world.store.createComment x.world.now ⟨id, caller.id, draft.content⟩ =
      .ok (c, after)) :
    CommentsGuarded x caller (.comment id draft) after := by
  obtain ⟨hpost, hauthor, _, hafter⟩ := Store.createComment_ok h
  simp only at hpost hauthor
  subst hpost
  have hposts : after.posts = x.world.store.posts := by rw [hafter]
  refine ⟨?added, ?lost, ?gone⟩
  case added =>
    exact Or.inr ⟨c, draft, p, by rw [hafter], rfl, hauthor, hfound, hmay⟩
  case lost =>
    intro c' hc' hlost
    rw [hafter] at hlost
    exact absurd (List.mem_append_left _ hc') hlost
  case gone =>
    intro i p' hp hq
    exact absurd hq (found_of_eq hposts i p' hp)

/-! ## Every run -/

/-- Of the edges only one of the caller is touched. -/
theorem mem_follows_of_ne {id : Int} {edge : Follow} (hedge : edge.follower ≠ caller.id) :
    edge ≠ ⟨caller.id, id⟩ := by
  intro he
  rw [he] at hedge
  exact hedge rfl

/-- An update that is written, whether it ends or breaks down. -/
theorem guarded_of_edit {id : Int} {version : Int32} {edit : PostEdit} {title content : String}
    {f : Post → Post} {p : Post} {poisoned : Bool} (hfound : x.world.store.post? id = some p)
    (hmay : MayChange x caller p editRole) (hf : Store.Edits version title content f)
    (hr : ∀ e, r ≠ .error (.refused e)) :
    Guarded x caller (.update id edit) r
      { x.world with store := x.world.store.editPost id version f, poisoned } := by
  have hposts : PostsGuarded x caller (.update id edit) (x.world.store.editPost id version f) :=
    postsGuarded_update hfound hmay hf
  exact {
    posts := hposts
    comments := by
      refine commentsGuarded_of_eq rfl ?_
      intro i p' hp' hlost
      cases (hposts.removed i p' hp' hlost).1
    failed := fun e he => absurd he (hr e)
    denied := denied_of_may rfl hfound hmay
    followed := fun _ _ => Iff.rfl
    fixed := ⟨rfl, rfl⟩ }

/-- Where only edges change, they are to go out from the caller. -/
theorem guarded_of_edges {edges : List Follow} (hasks : op.asks? = none)
    (hr : ∀ e, r ≠ .error (.refused e))
    (hedges : ∀ edge : Follow, edge.follower ≠ caller.id →
      (edge ∈ edges ↔ edge ∈ x.world.store.follows)) :
    Guarded x caller op r { x.world with store := { x.world.store with follows := edges } } where
  posts := postsGuarded_of_eq rfl
  comments := commentsGuarded_of_eq rfl (found_of_eq rfl)
  failed := fun e he => absurd he (hr e)
  denied := by
    intro _ _ _ hasks'
    rw [hasks] at hasks'
    cases hasks'
  followed := hedges
  fixed := ⟨rfl, rfl⟩

/-- The commit of an update is for the post that was asked for. -/
theorem commit_id {id : Int} {edit : PostEdit} {p : Post} {c : Commit}
    (hfound : x.world.store.post? id = some p) (hcommit : Commit.ofEdit p edit = .ok c) :
    c.id = id := by
  rw [Commit.eq_of_ofEdit hcommit, Store.id_of_post? hfound]

theorem guarded_of_changes {answer : Answer} {store : Store}
    (h : Changes x caller op answer store) :
    Guarded x caller op (.ok answer) { x.world with store } := by
  cases h with
  | @create draft p _ hrow =>
    obtain ⟨_, _, hauthor, rfl⟩ := Store.createPost_ok hrow
    exact {
      posts := postsGuarded_create hauthor rfl
      comments := by
        refine commentsGuarded_of_eq rfl ?_
        intro id q hq
        rw [Store.post?_append rfl hq]
        simp
      failed := nofun
      denied := by
        intro _ _ _ hasks
        cases hasks
      followed := fun _ _ => Iff.rfl
      fixed := ⟨rfl, rfl⟩ }
  | @update id edit p q c _ hfound hmay hcommit hrow =>
    rw [commit_id hfound hcommit] at hrow
    obtain ⟨_, hf, rfl⟩ := Store.updatePost_ok hrow
    exact guarded_of_edit hfound hmay hf nofun
  | @delete id p _ hfound hmay hrow =>
    have hrest := Store.deletePost_ok hrow
    exact {
      posts := postsGuarded_delete hfound hmay hrow
      comments := commentsGuarded_delete hfound hmay hrow
      failed := nofun
      denied := denied_of_may rfl hfound hmay
      followed := by
        rw [hrest]
        exact fun _ _ => Iff.rfl
      fixed := by
        rw [hrest]
        exact ⟨rfl, rfl⟩ }
  | @comment id draft p c _ hfound hmay hrow =>
    obtain ⟨_, _, _, hrest⟩ := Store.createComment_ok hrow
    exact {
      posts := postsGuarded_of_eq (by rw [hrest])
      comments := commentsGuarded_comment hfound hmay hrow
      failed := nofun
      denied := denied_of_may rfl hfound hmay
      followed := by
        rw [hrest]
        exact fun _ _ => Iff.rfl
      fixed := by
        rw [hrest]
        exact ⟨rfl, rfl⟩ }
  | @follow id _ _ hrow =>
    rw [Store.follow_ok hrow]
    refine guarded_of_edges rfl nofun fun edge hedge => ?_
    have hne : edge ≠ ⟨caller.id, id⟩ := mem_follows_of_ne hedge
    simp [hne]
  | @unfollow id _ hrow =>
    rw [Store.unfollow_ok hrow]
    refine guarded_of_edges rfl nofun fun edge hedge => ?_
    have hne : edge ≠ ⟨caller.id, id⟩ := mem_follows_of_ne hedge
    simp [hne]

theorem guarded_of_same {after : World} (h : after.store = x.world.store)
    (hworld : op.asks? = none ∨ after = x.world) : Guarded x caller op r after := by
  have hposts : after.store.posts = x.world.store.posts := by rw [h]
  exact {
    posts := postsGuarded_of_eq hposts
    comments := commentsGuarded_of_eq (by rw [h]) (found_of_eq hposts)
    failed := fun _ _ => h
    denied := by
      intro _ _ _ hasks _ _ _
      rcases hworld with hnone | hsame
      · rw [hnone] at hasks
        cases hasks
      · exact hsame
    followed := by
      rw [h]
      exact fun _ _ => Iff.rfl
    fixed := by
      rw [h]
      exact ⟨rfl, rfl⟩ }

/-- What breaks down has edited a post that its caller may edit, or taken an id. -/
theorem guarded_of_breaks {store : Store} (h : Breaks x caller op store) :
    Guarded x caller op (.error .abandoned) { x.world with store, poisoned := true } := by
  cases h with
  | @create draft _ hrow =>
    exact guarded_of_same (Store.createPost_broken hrow).2 (Or.inl rfl)
  | @update id edit p c _ hfound hmay hcommit hrow =>
    rw [commit_id hfound hcommit] at hrow
    obtain ⟨_, hf, rfl, _⟩ := Store.updatePost_broken hrow
    exact guarded_of_edit hfound hmay hf (by simp)
  | @comment id draft p _ hfound hmay hrow =>
    rw [(Store.createComment_broken hrow).2]
    exact {
      posts := postsGuarded_of_eq rfl
      comments := commentsGuarded_of_eq rfl (found_of_eq rfl)
      failed := by simp
      denied := denied_of_may rfl hfound hmay
      followed := fun _ _ => Iff.rfl
      fixed := ⟨rfl, rfl⟩ }

/-- No run of any operation, on any tables, by any caller, with any faults and any deadline, makes
a change that its caller has no right to. -/
theorem run_guarded (x : Exchange World Call) (caller : User) (op : Operation) :
    Guarded x caller op (op.run caller x).1 (op.run caller x).2.world := by
  cases hrun : op.run caller x with
  | mk r y =>
    -- nothing happened, or only the cache of a profile, or the one change of a success, or what a
    -- change leaves that breaks down
    rcases run_cases hrun with hsame | ⟨id, rfl, hworld⟩ | ⟨answer, store, hr, hchange, hworld⟩ |
      ⟨store, hr, hbreak, hworld⟩
    · exact guarded_of_same (by rw [hsame]) (Or.inr hsame)
    · exact guarded_of_same (by rw [hworld]) (Or.inl rfl)
    · rw [hr, hworld]
      exact guarded_of_changes hchange
    · rw [hr, hworld]
      exact guarded_of_breaks hbreak

end Agora.Social
