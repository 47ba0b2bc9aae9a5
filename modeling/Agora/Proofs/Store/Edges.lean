import Agora.Proofs.Store

/-!
# The order of the edges

Edges are appended to their table, so that the same edges may stand there in different orders.
Tables that are `Alike` have the same edges and are the same for the rest. Nothing that is asked of
the tables tells them apart, feeds included, and each change of the tables gives the same on both
and leaves them alike (`Same`).
-/

namespace Agora.Store

variable {s s' : Store} {now : Time.Instant}

/-- The second tables have the edges of the first, perhaps in another order, and the same rows. -/
inductive Alike (s : Store) : Store → Prop
  | mk {edges : List Follow} (h : ∀ edge, edge ∈ edges ↔ edge ∈ s.follows) :
    Alike s { s with follows := edges }

/-- Two ends of a change: the same error, or tables that are alike, with the same answer or none. -/
inductive Same {ε α : Type} : Ending Store ε α → Ending Store ε α → Prop
  | error (e : ε) : Same (.error e) (.error e)
  | ok (a : α) {t t' : Store} (h : Alike t t') : Same (.ok (a, t)) (.ok (a, t'))
  | broken {t t' : Store} (h : Alike t t') : Same (.broken t) (.broken t')

namespace Alike

theorem of_edges (h : s' = { s with follows := s'.follows })
    (hedges : ∀ edge, edge ∈ s'.follows ↔ edge ∈ s.follows) : Alike s s' := by
  rw [h]
  exact .mk hedges

variable (h : Alike s s')

include h

/-! ## What is asked -/

theorem isFollowing (follower followed : Int) :
    s'.isFollowing follower followed = s.isFollowing follower followed := by
  cases h with
  | mk hedges =>
    unfold Store.isFollowing
    rw [Bool.eq_iff_iff, List.contains_iff_mem, List.contains_iff_mem]
    exact hedges _

theorem user? (id : Int) : s'.user? id = s.user? id := by
  cases h
  rfl

theorem role? (name : String) : s'.role? name = s.role? name := by
  cases h
  rfl

theorem post? (id : Int) : s'.post? id = s.post? id := by
  cases h
  rfl

theorem commentsOf (id : Int) : s'.commentsOf id = s.commentsOf id := by
  cases h
  rfl

/-- A feed asks of the edges only whether they are there. -/
theorem feed (reader : Int) (q : Feed.Query) : s'.feed reader q = s.feed reader q := by
  have hconcerns : ∀ p, s'.concerns reader p = s.concerns reader p := by
    intro p
    unfold concerns
    rw [h.isFollowing]
  have hselected : s'.selected reader q = s.selected reader q := by
    unfold selected
    simp only [hconcerns]
    cases h
    rfl
  have hitem : s'.feedItem? = s.feedItem? := by
    cases h
    rfl
  unfold Store.feed
  rw [hselected, hitem]

/-! ## What is changed -/

theorem skipId : Alike s.skipId s'.skipId := by
  cases h with
  | mk hedges => exact .mk hedges

theorem editPost (id : Int) (version : Int32) (f : Post → Post) :
    Alike (s.editPost id version f) (s'.editPost id version f) := by
  cases h with
  | mk hedges => exact .mk hedges

theorem addUser (username roleName : String) :
    Same (s.addUser now username roleName) (s'.addUser now username roleName) := by
  unfold Store.addUser
  rw [h.role?]
  cases s.role? roleName with
  | none => exact .broken h
  | some role =>
    simp only
    split
    next => exact .broken h.skipId
    next =>
      cases h with
      | mk hedges => exact .ok _ (.mk hedges)

theorem addPost (new : NewPost) (time : Time.Instant) :
    (s'.addPost new time).1 = (s.addPost new time).1 ∧
      Alike (s.addPost new time).2 (s'.addPost new time).2 := by
  cases h with
  | mk hedges => exact ⟨rfl, .mk hedges⟩

theorem addComment {ε : Type} (new : NewComment) (username : String) :
    Same (s.addComment now new username : Ending Store ε Comment)
      (s'.addComment now new username) := by
  unfold Store.addComment
  split
  next => exact .broken h.skipId
  next =>
    cases h with
    | mk hedges => exact .ok _ (.mk hedges)

theorem plantComment (new : NewComment) :
    Same (s.plantComment now new) (s'.plantComment now new) := by
  unfold Store.plantComment
  rw [h.user?]
  cases s.user? new.userId with
  | none => exact .broken h
  | some author => exact h.addComment new author.username

theorem addFollow (follower followed : Int) :
    Alike (s.addFollow follower followed) (s'.addFollow follower followed) := by
  refine .of_edges ?_ ?_
  · cases h
    rfl
  · intro edge
    cases h with
    | mk hedges => simp only [Store.addFollow, List.mem_append, hedges]

theorem createPost (new : NewPost) : Same (s.createPost now new) (s'.createPost now new) := by
  unfold Store.createPost
  rw [h.user?]
  split
  next => exact .error _
  next =>
    split
    next => exact .broken h
    next =>
      cases h with
      | mk hedges => exact .ok _ (.mk hedges)

theorem updatePost (id : Int) (version : Int32) (title content : String) :
    Same (s.updatePost now id version title content)
      (s'.updatePost now id version title content) := by
  have hposts : s'.posts = s.posts := by
    cases h
    rfl
  unfold Store.updatePost
  simp only [hposts]
  split
  next => exact .error _
  next =>
    split
    next => exact .broken (h.editPost id version _)
    next =>
      split
      next => exact .broken (h.editPost id version _)
      next => exact .ok _ (h.editPost id version _)

theorem deletePost (id : Int) : Same (s.deletePost id) (s'.deletePost id) := by
  have hposts : s'.posts = s.posts := by
    cases h
    rfl
  unfold Store.deletePost
  rw [hposts]
  split
  next =>
    cases h with
    | mk hedges => exact .ok _ (.mk hedges)
  next => exact .error _

theorem createComment (new : NewComment) :
    Same (s.createComment now new) (s'.createComment now new) := by
  unfold Store.createComment
  rw [h.post?, h.user?]
  split
  next => exact .error _
  next =>
    cases s.user? new.userId with
    | none => exact .error _
    | some author => exact h.addComment new author.username

theorem follow (follower followed : Int) :
    Same (s.follow follower followed) (s'.follow follower followed) := by
  unfold Store.follow
  rw [h.user?, h.user?, h.isFollowing]
  split
  next => exact .error _
  next =>
    split
    next => exact .error _
    next => exact .ok _ (h.addFollow follower followed)

theorem unfollow (follower followed : Int) :
    Same (s.unfollow follower followed) (s'.unfollow follower followed) := by
  unfold Store.unfollow
  rw [h.isFollowing]
  split
  next =>
    refine .ok _ (.of_edges ?_ ?_)
    · cases h
      rfl
    · intro edge
      cases h with
      | mk hedges => simp only [List.mem_filter, hedges]
  next => exact .error _

end Alike

end Agora.Store
