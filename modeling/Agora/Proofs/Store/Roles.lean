import Agora.Store

/-!
# The table of roles

No change of the tables reads the roles or changes them: on tables with other roles each of them
does the same, and keeps these.
-/

namespace Agora

/-- The same end, with another state left. -/
def Ending.mapState {σ ε α : Type} (f : σ → σ) : Ending σ ε α → Ending σ ε α
  | .ok (a, s) => .ok (a, f s)
  | .error e => .error e
  | .broken s => .broken (f s)

namespace Store

/-- The tables with other roles. -/
def withRoles (s : Store) (roles : List Role) : Store := { s with roles }

variable (s : Store) (roles : List Role) {now : Time.Instant}

theorem createPost_withRoles (new : NewPost) :
    (s.withRoles roles).createPost now new =
      (s.createPost now new).mapState (·.withRoles roles) := by
  unfold createPost
  have hauthor : (s.withRoles roles).user? new.userId = s.user? new.userId := rfl
  rw [hauthor]
  split
  next => rfl
  next =>
    split
    next => rfl
    next => rfl

theorem updatePost_withRoles (id : Int) (version : Int32) (title content : String) :
    (s.withRoles roles).updatePost now id version title content =
      (s.updatePost now id version title content).mapState (·.withRoles roles) := by
  unfold updatePost
  have hposts : (s.withRoles roles).posts = s.posts := rfl
  simp only [hposts]
  split
  next => rfl
  next =>
    split
    next => rfl
    next =>
      split
      next => rfl
      next => rfl

theorem deletePost_withRoles (id : Int) :
    (s.withRoles roles).deletePost id =
      (s.deletePost id).mapState (·.withRoles roles) := by
  unfold deletePost
  have hposts : (s.withRoles roles).posts = s.posts := rfl
  rw [hposts]
  split
  next => rfl
  next => rfl

theorem addComment_withRoles {ε : Type} (new : NewComment) (username : String) :
    ((s.withRoles roles).addComment now new username : Ending Store ε Comment) =
      (s.addComment now new username).mapState (·.withRoles roles) := by
  unfold addComment
  split
  next => rfl
  next => rfl

theorem createComment_withRoles (new : NewComment) :
    (s.withRoles roles).createComment now new =
      (s.createComment now new).mapState (·.withRoles roles) := by
  unfold createComment
  have hpost : (s.withRoles roles).post? new.postId = s.post? new.postId := rfl
  have hauthor : (s.withRoles roles).user? new.userId = s.user? new.userId := rfl
  rw [hpost, hauthor]
  split
  next => rfl
  next =>
    cases s.user? new.userId with
    | none => rfl
    | some author => exact s.addComment_withRoles roles new author.username

theorem follow_withRoles (follower followed : Int) :
    (s.withRoles roles).follow follower followed =
      (s.follow follower followed).mapState (·.withRoles roles) := by
  unfold follow
  have husers : ∀ id, (s.withRoles roles).user? id = s.user? id := fun _ => rfl
  have hedges : (s.withRoles roles).isFollowing follower followed =
    s.isFollowing follower followed := rfl
  rw [husers, husers, hedges]
  split
  next => rfl
  next =>
    split
    next => rfl
    next => rfl

theorem unfollow_withRoles (follower followed : Int) :
    (s.withRoles roles).unfollow follower followed =
      (s.unfollow follower followed).mapState (·.withRoles roles) := by
  unfold unfollow
  have hedges : (s.withRoles roles).isFollowing follower followed =
    s.isFollowing follower followed := rfl
  rw [hedges]
  split
  next => rfl
  next => rfl

end Store

end Agora
