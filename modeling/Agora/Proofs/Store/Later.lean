import Agora.Proofs.Store.Ids

/-!
# What becomes of a post

`Later s s'` relates the tables of two times: under an id that the counter had already reached, the
later tables hold no post that the earlier ones did not, and a post that is still there is either
the very same or has been revised, in which case its version has grown. Author, tags and time of
creation stay. It is reflexive and transitive, and every change of the tables keeps it, so it
relates any two times of any history.
-/

namespace Agora

/-- The posts are the same but for what a revision may change. -/
structure Post.SameOrigin (p q : Post) : Prop where
  id : q.id = p.id
  userId : q.userId = p.userId
  tags : q.tags = p.tags
  createdAt : q.createdAt = p.createdAt

namespace Post.SameOrigin

variable {p q r : Post}

theorem refl (p : Post) : p.SameOrigin p := ⟨rfl, rfl, rfl, rfl⟩

theorem trans (h : p.SameOrigin q) (h' : q.SameOrigin r) : p.SameOrigin r :=
  ⟨h'.id.trans h.id, h'.userId.trans h.userId, h'.tags.trans h.tags,
    h'.createdAt.trans h.createdAt⟩

end Post.SameOrigin

/-- What a post may become: nothing else, or a revision with a higher version, or something of the
last version there is. -/
structure Post.Becomes (p q : Post) : Prop where
  origin : p.SameOrigin q
  version : q = p ∨ p.version.toInt < q.version.toInt ∨ q.version = Int32.maxValue

namespace Post.Becomes

variable {p q r : Post}

theorem refl (p : Post) : p.Becomes p := ⟨.refl p, Or.inl rfl⟩

theorem trans (h : p.Becomes q) (h' : q.Becomes r) : p.Becomes r := by
  refine ⟨h.origin.trans h'.origin, ?_⟩
  rcases h'.version with rfl | hqr | hlast
  · exact h.version
  · rcases h.version with rfl | hpq | hlast
    · exact Or.inr (Or.inl hqr)
    · exact Or.inr (Or.inl (Int.lt_trans hpq hqr))
    · -- no version is higher than the last one
      rw [hlast] at hqr
      exact absurd hqr (Int.not_lt.mpr (Int32.toInt_le r.version))
  · exact Or.inr (Or.inr hlast)

theorem edited {version : Int32} {title content : String} {f : Post → Post}
    (hf : Store.Edits version title content f) (hp : p.version = version) : p.Becomes (f p) :=
  ⟨⟨hf.id p, hf.userId p, hf.tags p, hf.createdAt p⟩, Or.inr (hf.version p hp)⟩

end Post.Becomes

namespace Store

variable {s s' s'' : Store} {now : Time.Instant}

/-- The tables `s'` can be those of a later time than `s`. -/
structure Later (s s' : Store) : Prop where
  counter : s.lastId ≤ s'.lastId
  /-- A post under an id that had been handed out was there, and became what is there now. -/
  post : ∀ id q, id ≤ s.lastId → s'.post? id = some q → ∃ p, s.post? id = some p ∧ p.Becomes q

theorem lastId_le_nextId (s : Store) : s.lastId ≤ s.nextId := by
  unfold nextId
  omega

namespace Later

theorem of_posts (hcounter : s.lastId ≤ s'.lastId) (hposts : s'.posts = s.posts) :
    Later s s' := by
  refine ⟨hcounter, ?_⟩
  intro id q _ hq
  rw [post?_congr hposts] at hq
  exact ⟨q, hq, .refl q⟩

theorem refl (s : Store) : Later s s := of_posts (Int.le_refl _) rfl

theorem trans (h : Later s s') (h' : Later s' s'') : Later s s'' := by
  refine ⟨Int.le_trans h.counter h'.counter, ?_⟩
  intro id r hid hr
  obtain ⟨q, hq, hqr⟩ := h'.post id r (Int.le_trans hid h.counter) hr
  obtain ⟨p, hp, hpq⟩ := h.post id q hid hq
  exact ⟨p, hp, hpq.trans hqr⟩

/-- A new post has an id that had not been handed out. -/
theorem of_newPost {p : Post} (hid : p.id = s.nextId)
    (h : s' = { s with posts := s.posts ++ [p], lastId := s.nextId }) : Later s s' := by
  subst h
  refine ⟨s.lastId_le_nextId, ?_⟩
  intro id q hold hq
  have hne : ¬p.id = id := by
    unfold nextId at hid
    omega
  refine ⟨q, ?_, .refl q⟩
  unfold post? at hq ⊢
  rwa [List.find?_append, List.find?_singleton, if_neg (by simpa using hne), Option.or_none] at hq

theorem of_addPost (s : Store) (new : NewPost) (time : Time.Instant) :
    Later s (s.addPost new time).2 := of_newPost (p := (s.addPost new time).1) rfl rfl

theorem of_addUser {username roleName : String} {u : User}
    (h : s.addUser now username roleName = .ok (u, s')) : Later s s' := by
  rw [(addUser_ok h).2]
  exact of_posts s.lastId_le_nextId rfl

theorem of_skipId (s : Store) : Later s s.skipId := of_posts s.lastId_le_nextId rfl

theorem of_editPost {id : Int} {version : Int32} {title content : String} {f : Post → Post}
    (hf : Edits version title content f) : Later s (s.editPost id version f) := by
  refine ⟨Int.le_refl _, ?_⟩
  intro i q _ hq
  rcases post?_editPost hf i with hsame | ⟨p, hp, _, hversion, hedited⟩
  · rw [hsame] at hq
    exact ⟨q, hq, .refl q⟩
  · rw [hedited] at hq
    cases hq
    exact ⟨p, hp, .edited hf hversion⟩

theorem of_remains (h : Remains s s') : Later s s' := by
  cases h with
  | same => exact .refl s
  | skipped => exact .of_skipId s
  | edited hf => exact .of_editPost hf

end Later

/-- Every call of the service leads to tables of a later time. -/
theorem Writes.later (h : Writes now s s') : Later s s' := by
  cases h with
  | createPost h =>
    obtain ⟨_, hid, _, hafter⟩ := createPost_ok h
    exact .of_newPost hid hafter
  | updatePost h =>
    obtain ⟨_, hf, rfl⟩ := updatePost_ok h
    exact .of_editPost hf
  | @deletePost id _ h =>
    refine ⟨?counter, ?post⟩
    case counter =>
      have hkept : s'.lastId = s.lastId := by rw [deletePost_ok h]
      exact Int.le_of_eq hkept.symm
    case post =>
      intro i q _ hq
      rw [post?_deletePost h] at hq
      split at hq
      next => cases hq
      next => exact ⟨q, hq, .refl q⟩
  | createComment h =>
    obtain ⟨_, _, _, rfl⟩ := createComment_ok h
    exact .of_posts s.lastId_le_nextId rfl
  | follow h =>
    rw [follow_ok h]
    exact .of_posts (Int.le_refl _) rfl
  | unfollow h =>
    rw [unfollow_ok h]
    exact .of_posts (Int.le_refl _) rfl
  | breaks h => exact .of_remains h

end Store

end Agora
