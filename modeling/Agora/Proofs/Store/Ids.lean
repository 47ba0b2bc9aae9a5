import Mathlib.Data.List.Nodup
import Mathlib.Data.List.Perm.Basic
import Agora.Proofs.Store

/-!
# One counter for all ids

Users, posts and comments take their ids from one counter. `Writes` says that one call of the
service changed the tables, whichever call it was, and even if it broke down; `Counts` is all that
such a call, or a row put in by hand, can do to the ids: no row is made and the counter stays, or
one row is made that has the next id, and the counter moves to it, or the next id is taken and lost.
Distinctness (`Numbered.of_counts`) and that an id is only ever handed out once (`newIds_of_counts`)
follow from that alone.
-/

namespace Agora.Store

variable {s s' : Store} {now : Time.Instant}

/-- One call of the service changed the tables from `s` to another state. -/
inductive Writes (now : Time.Instant) (s : Store) : Store → Prop
  | createPost {new : NewPost} {p : Post} {s' : Store}
      (h : s.createPost now new = .ok (p, s')) : Writes now s s'
  | updatePost {id : Int} {version : Int32} {title content : String} {p : Post} {s' : Store}
      (h : s.updatePost now id version title content = .ok (p, s')) : Writes now s s'
  | deletePost {id : Int} {s' : Store} (h : s.deletePost id = .ok ((), s')) : Writes now s s'
  | createComment {new : NewComment} {c : Comment} {s' : Store}
      (h : s.createComment now new = .ok (c, s')) : Writes now s s'
  | follow {follower followed : Int} {s' : Store}
      (h : s.follow follower followed = .ok ((), s')) : Writes now s s'
  | unfollow {follower followed : Int} {s' : Store}
      (h : s.unfollow follower followed = .ok ((), s')) : Writes now s s'
  | breaks {s' : Store} (h : Remains s s') : Writes now s s'

/-- The ids of all rows that have theirs from the counter. -/
def ids (s : Store) : List Int :=
  s.users.map (·.id) ++ s.posts.map (·.id) ++ s.comments.map (·.id)

/-! ## What a change does to the ids -/

/-- What one change of the tables does to the ids and the counter. -/
inductive Counts (s s' : Store) : Prop
  /-- No row is made; rows may be lost. -/
  | kept (hids : s'.ids.Sublist s.ids) (hlast : s'.lastId = s.lastId)
  /-- One row is made, with the next id. -/
  | took (hids : s'.ids.Perm (s.nextId :: s.ids)) (hlast : s'.lastId = s.nextId)
  /-- The next id is taken for nothing. -/
  | skipped (hids : s'.ids = s.ids) (hlast : s'.lastId = s.nextId)

theorem Counts.refl (s : Store) : Counts s s := .kept (List.Sublist.refl _) rfl

/-- Where a new value stands among the others does not matter. -/
theorem perm_cons_of_middle {α : Type} (l l' : List α) (a : α) :
    (l ++ [a] ++ l').Perm (a :: (l ++ l')) := by
  rw [List.append_assoc]
  exact List.perm_middle

/-- Replacing one member does not change what the replacement keeps. -/
theorem map_replaceFirst {α β : Type} {p : α → Bool} {f : α → α} {g : α → β}
    (hg : ∀ a, g (f a) = g a) (l : List α) : (replaceFirst p f l).map g = l.map g := by
  induction l with
  | nil => rfl
  | cons a rest ih =>
    unfold replaceFirst
    split
    next => rw [List.map_cons, List.map_cons, hg]
    next => rw [List.map_cons, List.map_cons, ih]

theorem counts_addPost (s : Store) (new : NewPost) (time : Time.Instant) :
    Counts s (s.addPost new time).2 := by
  refine .took ?_ rfl
  simp only [ids, addPost, List.map_append, List.map_cons, List.map_nil]
  rw [← List.append_assoc]
  exact perm_cons_of_middle _ _ _

theorem counts_addUser {username roleName : String} {u : User}
    (h : s.addUser now username roleName = .ok (u, s')) : Counts s s' := by
  obtain ⟨hid, rfl⟩ := addUser_ok h
  refine .took ?_ rfl
  simp only [ids, List.map_append, List.map_cons, List.map_nil, List.append_assoc, hid]
  exact List.perm_middle

theorem counts_editPost {id : Int} {version : Int32} {title content : String} {f : Post → Post}
    (hf : Edits version title content f) : Counts s (s.editPost id version f) := by
  refine .kept ?_ rfl
  simp only [ids, editPost]
  rw [map_replaceFirst hf.id]

theorem Remains.counts (h : Remains s s') : Counts s s' := by
  cases h with
  | same => exact .refl s
  | skipped => exact .skipped rfl rfl
  | edited hf => exact counts_editPost hf

/-- Every call of the service counts. -/
theorem Writes.counts (h : Writes now s s') : Counts s s' := by
  cases h with
  | @createPost new p _ h =>
    obtain ⟨_, hid, _, rfl⟩ := createPost_ok h
    refine .took ?_ rfl
    simp only [ids, List.map_append, List.map_cons, List.map_nil, hid]
    rw [← List.append_assoc]
    exact perm_cons_of_middle _ _ _
  | updatePost h =>
    obtain ⟨_, hf, rfl⟩ := updatePost_ok h
    exact counts_editPost hf
  | @deletePost id _ h =>
    rw [deletePost_ok h]
    refine .kept ?_ rfl
    exact ((List.Sublist.refl _).append (List.filter_sublist.map _)).append
      (List.filter_sublist.map _)
  | @createComment new c _ h =>
    obtain ⟨_, _, hid, rfl⟩ := createComment_ok h
    refine .took ?_ rfl
    simp only [ids, List.map_append, List.map_cons, List.map_nil, hid]
    rw [← List.append_assoc]
    exact List.perm_append_singleton _ _
  | follow h =>
    rw [follow_ok h]
    exact .kept (List.Sublist.refl _) rfl
  | unfollow h =>
    rw [unfollow_ok h]
    exact .kept (List.Sublist.refl _) rfl
  | breaks h => exact h.counts

/-- No call of the service makes a role, or takes one away. -/
theorem Writes.roles (h : Writes now s s') : s'.roles = s.roles := by
  cases h with
  | createPost h =>
    obtain ⟨_, _, _, rfl⟩ := createPost_ok h
    rfl
  | updatePost h =>
    obtain ⟨_, _, rfl⟩ := updatePost_ok h
    rfl
  | deletePost h => rw [deletePost_ok h]
  | createComment h =>
    obtain ⟨_, _, _, rfl⟩ := createComment_ok h
    rfl
  | follow h => rw [follow_ok h]
  | unfollow h => rw [unfollow_ok h]
  | breaks h => exact h.roles

/-! ## Ids that are distinct -/

theorem posts_nodup_of_ids (h : s.ids.Nodup) : (s.posts.map (·.id)).Nodup := by
  unfold ids at h
  exact (List.nodup_append.mp (List.nodup_append.mp h).1).2.1

theorem users_nodup_of_ids (h : s.ids.Nodup) : (s.users.map (·.id)).Nodup := by
  unfold ids at h
  exact (List.nodup_append.mp (List.nodup_append.mp h).1).1

/-- With distinct ids every row is the one that is found under its id. -/
theorem find?_of_mem_of_nodup {α : Type} {key : α → Int} {rows : List α}
    (h : (rows.map key).Nodup) {a : α} (ha : a ∈ rows) :
    rows.find? (fun b => key b = key a) = some a := by
  cases hfound : rows.find? fun b => key b = key a with
  | none =>
    rw [List.find?_eq_none] at hfound
    exact absurd (decide_eq_true rfl) (hfound a ha)
  | some b =>
    have hb : b ∈ rows := List.mem_of_find?_eq_some hfound
    have hkey : key b = key a := by simpa using List.find?_some hfound
    rw [List.inj_on_of_nodup_map h hb ha hkey]

theorem post?_of_mem_of_nodup (h : (s.posts.map (·.id)).Nodup) {p : Post} (hp : p ∈ s.posts) :
    s.post? p.id = some p :=
  find?_of_mem_of_nodup h hp

theorem user?_of_mem_of_nodup (h : (s.users.map (·.id)).Nodup) {u : User} (hu : u ∈ s.users) :
    s.user? u.id = some u :=
  find?_of_mem_of_nodup h hu

/-- No two rows share an id, and none has an id that the counter has not reached. -/
structure Numbered (s : Store) : Prop where
  distinct : s.ids.Nodup
  bounded : ∀ id ∈ s.ids, id ≤ s.lastId

theorem numbered_seeded : seeded.Numbered where
  distinct := by decide
  bounded := by decide

namespace Numbered

/-- The next id is one that no row has. -/
theorem nextId_not_mem (hs : s.Numbered) : s.nextId ∉ s.ids := by
  intro h
  have := hs.bounded _ h
  unfold nextId at this
  omega

theorem of_counts (hs : s.Numbered) (h : Counts s s') : s'.Numbered := by
  cases h with
  | kept hids hlast =>
    refine ⟨hs.distinct.sublist hids, ?_⟩
    intro id hid
    rw [hlast]
    exact hs.bounded id (hids.subset hid)
  | took hids hlast =>
    refine ⟨?_, ?_⟩
    · rw [hids.nodup_iff, List.nodup_cons]
      exact ⟨hs.nextId_not_mem, hs.distinct⟩
    · intro id hid
      rw [hlast]
      rcases List.mem_cons.mp (hids.mem_iff.mp hid) with rfl | hold
      · exact Int.le_refl _
      · have := hs.bounded id hold
        unfold nextId
        omega
  | skipped hids hlast =>
    refine ⟨hids ▸ hs.distinct, ?_⟩
    intro id hid
    have := hs.bounded id (hids ▸ hid)
    rw [hlast]
    unfold nextId
    omega

theorem posts_nodup (hs : s.Numbered) : (s.posts.map (·.id)).Nodup := posts_nodup_of_ids hs.distinct

theorem post_le (hs : s.Numbered) {p : Post} (hp : p ∈ s.posts) : p.id ≤ s.lastId := by
  refine hs.bounded _ ?_
  unfold ids
  exact List.mem_append_left _ (List.mem_append_right _ (List.mem_map_of_mem hp))

theorem post?_of_mem (hs : s.Numbered) {p : Post} (hp : p ∈ s.posts) : s.post? p.id = some p :=
  post?_of_mem_of_nodup hs.posts_nodup hp

end Numbered

/-! ## Ids that are handed out -/

/-- The ids in the tables after a change that were not there before it. -/
def newIds (s s' : Store) : List Int := s'.ids.filter fun id => id ∉ s.ids

theorem newIds_of_eq (h : s'.ids = s.ids) : s.newIds s' = [] := by
  unfold newIds
  rw [h, List.filter_eq_nil_iff]
  intro id hid
  simpa using hid

/-- A change hands out no id and does not turn the counter back, or hands out the next id and no
other. -/
theorem newIds_of_counts (hs : s.Numbered) (h : Counts s s') :
    (s.newIds s' = [] ∧ s.lastId ≤ s'.lastId) ∨
      (s.newIds s' = [s.lastId + 1] ∧ s'.lastId = s.lastId + 1) := by
  cases h with
  | kept hids hlast =>
    refine Or.inl ⟨?_, Int.le_of_eq hlast.symm⟩
    unfold newIds
    rw [List.filter_eq_nil_iff]
    intro id hid
    simpa using hids.subset hid
  | took hids hlast =>
    refine Or.inr ⟨?_, hlast⟩
    -- of the ids afterwards only the one that was taken is new
    have hold : s.ids.filter (fun id => id ∉ s.ids) = [] := newIds_of_eq rfl
    have hnew := hids.filter fun id => id ∉ s.ids
    rw [List.filter_cons, hold, if_pos (by simpa using hs.nextId_not_mem)] at hnew
    exact List.perm_singleton.mp hnew
  | skipped hids hlast =>
    refine Or.inl ⟨newIds_of_eq hids, ?_⟩
    rw [hlast]
    exact Int.le_of_lt (Int.lt_succ _)

end Agora.Store
