import Agora.Proofs.Store.Feed
import Agora.Proofs.Store.Later

/-!
# The comments of a post

`rowsOn` are the rows of comments that name a post, in the order in which they were made, and
`commentsOf` is the same in the order of a thread (`commentsOf_perm`): the latest first, and of two
comments of one time the one with the greater id (`commentsOf_ordered`). Times may be equal or go
back, so the order of a thread is in general neither the order of the rows nor its reverse.
-/

namespace Agora

/-- One comment stands above another in a thread. -/
def Comment.Above (a b : Comment) : Prop :=
  b.createdAt < a.createdAt ∨ b.createdAt = a.createdAt ∧ b.id < a.id

theorem Comment.above_iff {a b : Comment} :
    a.Above b ↔ b.createdAt.ticks < a.createdAt.ticks ∨
      b.createdAt.ticks = a.createdAt.ticks ∧ b.id < a.id := by
  rw [Time.Instant.ticks_inj]
  rfl

namespace Store

variable {s s' : Store} {now : Time.Instant} {id : Int}

/-- The rows of comments on a post, in the order in which they were made. -/
def rowsOn (s : Store) (id : Int) : List Comment := s.comments.filter (·.postId = id)

theorem mem_rowsOn {c : Comment} : c ∈ s.rowsOn id ↔ c ∈ s.comments ∧ c.postId = id := by
  unfold rowsOn
  simp

/-! ## Threads -/

/-- The order by which comments are sorted. -/
def standsAbove (a b : Comment) : Bool := isEarlier (b.createdAt, b.id) (a.createdAt, a.id)

theorem standsAbove_iff {a b : Comment} :
    standsAbove a b = true ↔ b.createdAt.ticks < a.createdAt.ticks ∨
      b.createdAt.ticks = a.createdAt.ticks ∧ b.id ≤ a.id := by
  unfold standsAbove
  rw [isEarlier_iff]

theorem commentsOf_eq (s : Store) (id : Int) :
    s.commentsOf id = (s.rowsOn id).mergeSort standsAbove := rfl

theorem commentsOf_perm (s : Store) (id : Int) : (s.commentsOf id).Perm (s.rowsOn id) :=
  List.mergeSort_perm _ _

theorem comments_nodup_of_ids (h : s.ids.Nodup) : (s.comments.map (·.id)).Nodup := by
  unfold ids at h
  exact (List.nodup_append.mp h).2.1

/-- Since ids are distinct, no two comments stand at one place. -/
theorem commentsOf_ordered (hunique : s.ids.Nodup) (id : Int) :
    (s.commentsOf id).Pairwise Comment.Above := by
  have hrows : ((s.rowsOn id).map (·.id)).Nodup :=
    (comments_nodup_of_ids hunique).sublist (List.filter_sublist.map _)
  have hdistinct : (s.commentsOf id).Pairwise fun a b => a.id ≠ b.id :=
    List.pairwise_map.mp (((commentsOf_perm s id).map _).nodup_iff.mpr hrows)
  have hsorted : (s.commentsOf id).Pairwise fun a b => standsAbove a b = true := by
    refine List.pairwise_mergeSort ?trans ?total _
    case trans =>
      intro a b c hab hbc
      rw [standsAbove_iff] at hab hbc ⊢
      omega
    case total =>
      intro a b
      rw [Bool.or_eq_true, standsAbove_iff, standsAbove_iff]
      omega
  refine hsorted.imp₂ ?_ hdistinct
  intro a b habove hne
  rw [standsAbove_iff] at habove
  rw [Comment.above_iff]
  omega

theorem commentsOf_congr (h : s'.rowsOn id = s.rowsOn id) : s'.commentsOf id = s.commentsOf id := by
  rw [commentsOf_eq, commentsOf_eq, h]

/-! ## Changes -/

theorem rowsOn_congr (h : s'.comments = s.comments) (id : Int) : s'.rowsOn id = s.rowsOn id := by
  unfold rowsOn
  rw [h]

/-- A comment is put behind the others on its post. -/
theorem rowsOn_createComment {new : NewComment} {c : Comment}
    (h : s.createComment now new = .ok (c, s')) (id : Int) :
    s'.rowsOn id = s.rowsOn id ++ if new.postId = id then [c] else [] := by
  obtain ⟨hpost, _, _, rfl⟩ := createComment_ok h
  unfold rowsOn
  simp only [List.filter_append, List.filter_singleton, hpost, cond_eq_ite, decide_eq_true_eq]

/-- The comments on a post stay when another post is removed. -/
theorem rowsOn_deletePost {removed : Int} (h : s.deletePost removed = .ok ((), s'))
    (hother : id ≠ removed) : s'.rowsOn id = s.rowsOn id := by
  rw [deletePost_ok h]
  unfold rowsOn
  simp only [List.filter_filter]
  refine List.filter_congr fun c _ => ?_
  by_cases hc : c.postId = id
  · simp [hc, hother]
  · simp [hc]

/-- A post that is not there under an id that was handed out never comes back. -/
theorem Later.post?_none (h : Later s s') (hid : id ≤ s.lastId) (hnone : s.post? id = none) :
    s'.post? id = none := by
  rw [Option.eq_none_iff_forall_ne_some]
  intro q hq
  obtain ⟨p, hp, _⟩ := h.post id q hid hq
  rw [hnone] at hp
  cases hp

end Store

end Agora
