import Agora.Proofs.Store.Ids

/-!
# Rows that refer to each other

`Linked` says that no row refers to one that is not there: posts have their author, comments their
post and their author, edges both their users. Each kind of change keeps it, by a check before it
(`createPost`, `createComment`, `follow`) or because it takes along what refers to the row that it
removes (`deletePost`). `Sound` is this together with ids that are distinct.

In such tables a reader who is no user has an empty feed (`Linked.feed_eq_nil`).
-/

namespace Agora.Store

variable {s s' : Store} {now : Time.Instant}

/-! ## What the checks of an operation let pass -/

/-- What is found stands in the table. -/
theorem mem_of_user? {id : Int} {u : User} (h : s.user? id = some u) : u ∈ s.users ∧ u.id = id :=
  ⟨List.mem_of_find?_eq_some h, id_of_user? h⟩

theorem exists_of_user?_isSome {id : Int} (h : (s.user? id).isSome) : ∃ u ∈ s.users, u.id = id := by
  obtain ⟨u, hu⟩ := Option.isSome_iff_exists.mp h
  exact ⟨u, mem_of_user? hu⟩

/-- A comment is made on a post that is there, by a user who is there and whose name it takes. -/
theorem createComment_checked {new : NewComment} {c : Comment}
    (h : s.createComment now new = .ok (c, s')) :
    (∃ p ∈ s.posts, p.id = c.postId) ∧
      ∃ u ∈ s.users, u.id = c.userId ∧ u.username = c.username := by
  unfold createComment at h
  split at h
  next => cases h
  next hpost =>
    split at h
    next => cases h
    next author hauthor =>
      unfold addComment at h
      split at h
      next => cases h
      obtain ⟨rfl, _⟩ := Prod.mk.inj (Ending.ok.inj h)
      obtain ⟨p, hp⟩ := Option.ne_none_iff_exists'.mp (by simpa using hpost)
      obtain ⟨huser, hid⟩ := mem_of_user? hauthor
      exact ⟨⟨p, List.mem_of_find?_eq_some hp, id_of_post? hp⟩, author, huser, hid, rfl⟩

/-- An edge is added between two users who are there, and only if it was not. -/
theorem follow_checked {follower followed : Int} (h : s.follow follower followed = .ok ((), s')) :
    (∃ u ∈ s.users, u.id = follower) ∧ (∃ u ∈ s.users, u.id = followed) ∧
      (⟨follower, followed⟩ : Follow) ∉ s.follows := by
  unfold follow at h
  split at h
  next => cases h
  next husers =>
    split at h
    next => cases h
    next hedge =>
      simp only [Bool.or_eq_true, not_or, Bool.not_eq_true, Option.isNone_eq_false_iff] at husers
      refine ⟨exists_of_user?_isSome husers.1, exists_of_user?_isSome husers.2, ?_⟩
      simpa [isFollowing] using hedge

/-- After a replacement there are the members that were there, and the replacement of one. -/
theorem mem_of_mem_replaceFirst {α : Type} {p : α → Bool} {f : α → α} {l : List α} {a : α}
    (h : a ∈ replaceFirst p f l) : a ∈ l ∨ ∃ b ∈ l, a = f b := by
  induction l with
  | nil => cases h
  | cons b rest ih =>
    unfold replaceFirst at h
    split at h
    next =>
      rcases List.mem_cons.mp h with rfl | hrest
      · exact Or.inr ⟨b, List.mem_cons_self, rfl⟩
      · exact Or.inl (List.mem_cons_of_mem _ hrest)
    next =>
      rcases List.mem_cons.mp h with rfl | hrest
      · exact Or.inl List.mem_cons_self
      · rcases ih hrest with hold | ⟨c, hc, rfl⟩
        · exact Or.inl (List.mem_cons_of_mem _ hold)
        · exact Or.inr ⟨c, List.mem_cons_of_mem _ hc, rfl⟩

/-! ## Links -/

/-- Whatever a row refers to is there. -/
structure Linked (s : Store) : Prop where
  authored : ∀ p ∈ s.posts, ∃ u ∈ s.users, u.id = p.userId
  /-- A comment has a post and an author, and bears the author's name. -/
  commented : ∀ c ∈ s.comments, (∃ p ∈ s.posts, p.id = c.postId) ∧
    ∃ u ∈ s.users, u.id = c.userId ∧ u.username = c.username
  /-- An edge joins two users, who are not the same. -/
  followed : ∀ edge ∈ s.follows, edge.follower ≠ edge.followed ∧
    (∃ u ∈ s.users, u.id = edge.follower) ∧ ∃ u ∈ s.users, u.id = edge.followed
  once : s.follows.Nodup

namespace Linked

variable (hs : s.Linked)

include hs

theorem addUser {username roleName : String} {u : User}
    (h : s.addUser now username roleName = .ok (u, s')) : s'.Linked := by
  obtain ⟨_, rfl⟩ := addUser_ok h
  -- users are only ever added, so that whoever was there still is
  have hthere : ∀ {P : User → Prop}, (∃ u ∈ s.users, P u) → ∀ v, ∃ u ∈ s.users ++ [v], P u := by
    rintro P ⟨u, hu, hP⟩ v
    exact ⟨u, List.mem_append_left _ hu, hP⟩
  refine ⟨?authored, ?commented, ?followed, hs.once⟩
  case authored => exact fun p hp => hthere (hs.authored p hp) _
  case commented =>
    intro c hc
    obtain ⟨hpost, hauthor⟩ := hs.commented c hc
    exact ⟨hpost, hthere hauthor _⟩
  case followed =>
    intro edge hedge
    obtain ⟨hne, hfollower, hfollowed⟩ := hs.followed edge hedge
    exact ⟨hne, hthere hfollower _, hthere hfollowed _⟩

theorem createPost {new : NewPost} {p : Post} (h : s.createPost now new = .ok (p, s')) :
    s'.Linked := by
  obtain ⟨hauthor, _, huser, rfl⟩ := createPost_ok h
  refine ⟨?authored, ?commented, hs.followed, hs.once⟩
  case authored =>
    intro q hq
    rcases List.mem_append.mp hq with hold | hnew
    · exact hs.authored q hold
    · rw [List.mem_singleton.mp hnew, huser]
      exact exists_of_user?_isSome hauthor
  case commented =>
    intro c hc
    obtain ⟨⟨q, hq, hid⟩, hwriter⟩ := hs.commented c hc
    exact ⟨⟨q, List.mem_append_left _ hq, hid⟩, hwriter⟩

theorem editPost {id : Int} {version : Int32} {title content : String} {f : Post → Post}
    (hf : Edits version title content f) : (s.editPost id version f).Linked := by
  refine ⟨?authored, ?commented, hs.followed, hs.once⟩
  case authored =>
    intro q hq
    rcases mem_of_mem_replaceFirst hq with hold | ⟨old, hold, rfl⟩
    · exact hs.authored q hold
    · rw [hf.userId]
      exact hs.authored old hold
  case commented =>
    intro c hc
    obtain ⟨⟨q, hq, hid⟩, hwriter⟩ := hs.commented c hc
    refine ⟨?_, hwriter⟩
    -- the post may have been edited, but under its id there still is one
    have hmem : c.postId ∈ s.posts.map (·.id) := List.mem_map.mpr ⟨q, hq, hid⟩
    rw [← map_replaceFirst hf.id] at hmem
    exact List.mem_map.mp hmem

theorem updatePost {id : Int} {version : Int32} {title content : String} {p : Post}
    (h : s.updatePost now id version title content = .ok (p, s')) : s'.Linked := by
  obtain ⟨_, hf, rfl⟩ := updatePost_ok h
  exact hs.editPost hf

theorem remains (h : Remains s s') : s'.Linked := by
  cases h with
  | same => exact hs
  | skipped => exact { hs with }
  | edited hf => exact hs.editPost hf

theorem deletePost {id : Int} (h : s.deletePost id = .ok ((), s')) : s'.Linked := by
  rw [deletePost_ok h]
  refine ⟨?authored, ?commented, hs.followed, hs.once⟩
  case authored => exact fun p hp => hs.authored p (List.mem_filter.mp hp).1
  case commented =>
    intro c hc
    obtain ⟨hc, hother⟩ := List.mem_filter.mp hc
    obtain ⟨⟨q, hq, hid⟩, hwriter⟩ := hs.commented c hc
    refine ⟨⟨q, List.mem_filter.mpr ⟨hq, ?_⟩, hid⟩, hwriter⟩
    rw [hid]
    exact hother

theorem createComment {new : NewComment} {c : Comment}
    (h : s.createComment now new = .ok (c, s')) : s'.Linked := by
  have hchecked := createComment_checked h
  obtain ⟨_, _, _, rfl⟩ := createComment_ok h
  refine ⟨hs.authored, ?commented, hs.followed, hs.once⟩
  case commented =>
    intro d hd
    rcases List.mem_append.mp hd with hold | hnew
    · exact hs.commented d hold
    · rw [List.mem_singleton.mp hnew]
      exact hchecked

theorem follow {follower followed : Int} (hne : follower ≠ followed)
    (h : s.follow follower followed = .ok ((), s')) : s'.Linked := by
  obtain ⟨hfollower, hfollowed, hfresh⟩ := follow_checked h
  rw [follow_ok h]
  refine ⟨hs.authored, hs.commented, ?followed, ?once⟩
  case followed =>
    intro edge hedge
    rcases List.mem_append.mp hedge with hold | hnew
    · exact hs.followed edge hold
    · rw [List.mem_singleton.mp hnew]
      exact ⟨hne, hfollower, hfollowed⟩
  case once =>
    rw [← List.concat_eq_append, List.nodup_concat]
    exact ⟨hfresh, hs.once⟩

theorem unfollow {follower followed : Int} (h : s.unfollow follower followed = .ok ((), s')) :
    s'.Linked := by
  rw [unfollow_ok h]
  exact ⟨hs.authored, hs.commented, fun edge hedge => hs.followed edge (List.mem_filter.mp hedge).1,
    hs.once.filter _⟩

/-- A reader who is no user wrote nothing and follows nobody. -/
theorem feed_eq_nil {reader : Int} (hreader : s.user? reader = none) (q : Feed.Query) :
    s.feed reader q = [] := by
  have hnobody : ∀ u ∈ s.users, u.id ≠ reader := by
    unfold user? at hreader
    rw [List.find?_eq_none] at hreader
    exact fun u hu => by simpa using hreader u hu
  have hnone : ∀ p ∈ s.posts, s.concerns reader p = false := by
    intro p hp
    obtain ⟨u, hu, hid⟩ := hs.authored p hp
    unfold concerns
    simp only [Bool.or_eq_false_iff, decide_eq_false_iff_not]
    refine ⟨?_, ?_⟩
    · rw [← hid]
      exact hnobody u hu
    · -- an edge from the reader would have a user at its start
      rw [Bool.eq_false_iff]
      intro hedge
      obtain ⟨_, ⟨v, hv, hvid⟩, _⟩ :=
        hs.followed ⟨reader, p.userId⟩ (by simpa [isFollowing] using hedge)
      exact hnobody v hv hvid
  have hselected : s.posts.filter (fun p => s.concerns reader p && passes q p) = [] := by
    rw [List.filter_eq_nil_iff]
    intro p hp
    rw [hnone p hp]
    simp
  unfold feed selected
  rw [hselected]
  cases q.sort <;> simp

end Linked

/-- Tables whose ids are distinct and whose rows refer only to what is there. -/
structure Sound (s : Store) : Prop extends Numbered s, Linked s

theorem sound_seeded : seeded.Sound where
  toNumbered := numbered_seeded
  authored := by decide
  commented := by decide
  followed := by decide
  once := by decide

end Agora.Store
