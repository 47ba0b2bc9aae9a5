import Agora.Proofs.Store.Integrity
import Agora.Proofs.Tag

/-!
# Texts that are stored

`WellFormed` says what the texts in the tables are like: titles and contents have something in them
and are not too long, and the tags of a post are proper ones, each of them once. A change of the
tables keeps it if what it brings in is like that (`WellFormed.createPost`, `WellFormed.updatePost`,
`WellFormed.createComment`); nothing else brings a text in.
-/

namespace Agora

/-- The text has something but blanks in it, and not too many characters. -/
structure Text.IsFit (text : String) (longest : Nat) : Prop where
  visible : ∃ c ∈ text.toList, Text.isBlank c = false
  short : text.length ≤ longest

structure Post.WellFormed (p : Post) : Prop where
  title : Text.IsFit p.title 100
  content : Text.IsFit p.content 1000
  /-- No tag is empty or has blanks at its ends. -/
  tags : ∀ tag ∈ p.tags, tag ≠ "" ∧ Text.trimmed tag = tag
  once : p.tags.Nodup

def Comment.WellFormed (c : Comment) : Prop := Text.IsFit c.content 1000

namespace Store

variable {s s' : Store} {now : Time.Instant}

structure WellFormed (s : Store) : Prop where
  posts : ∀ p ∈ s.posts, p.WellFormed
  comments : ∀ c ∈ s.comments, c.WellFormed

/-! ## The rows that are made -/

/-- A comment by a user is the row that is made from it, with the name of its author. -/
theorem createComment_row {new : NewComment} {c : Comment}
    (h : s.createComment now new = .ok (c, s')) :
    ∃ author, s.user? new.userId = some author ∧ 0 ≤ now.second ∧ c.username = author.username ∧
      c.content = new.content ∧ c.createdAt = now := by
  unfold createComment at h
  split at h
  next => cases h
  next =>
    split at h
    next => cases h
    next author hauthor =>
      unfold addComment at h
      split at h
      next => cases h
      next hclock =>
        obtain ⟨rfl, _⟩ := Prod.mk.inj (Ending.ok.inj h)
        exact ⟨author, hauthor, Int.not_lt.mp hclock, rfl, rfl, rfl⟩

/-! ## Each change -/

namespace WellFormed

theorem of_empty (hposts : s.posts = []) (hcomments : s.comments = []) : s.WellFormed := by
  refine ⟨?_, ?_⟩
  · rw [hposts]
    exact List.forall_mem_nil _
  · rw [hcomments]
    exact List.forall_mem_nil _

variable (hs : s.WellFormed)

include hs

theorem of_eq (hposts : s'.posts = s.posts) (hcomments : s'.comments = s.comments) :
    s'.WellFormed := by
  refine ⟨?_, ?_⟩
  · rw [hposts]
    exact hs.posts
  · rw [hcomments]
    exact hs.comments

theorem addUser {username roleName : String} {u : User}
    (h : s.addUser now username roleName = .ok (u, s')) : s'.WellFormed := by
  obtain ⟨_, rfl⟩ := addUser_ok h
  exact hs.of_eq rfl rfl

/-- A row of posts is made from fit texts and from tags that were cleaned. -/
theorem createPost {new : NewPost} {texts : List String} {p : Post}
    (h : s.createPost now new = .ok (p, s')) (htitle : Text.IsFit new.title 100)
    (hcontent : Text.IsFit new.content 1000) (htags : new.tags = Tag.clean texts) :
    s'.WellFormed := by
  obtain ⟨rfl, rfl⟩ := Prod.mk.inj (createPost_row h)
  have hnamed := Tag.named_clean texts
  refine ⟨?_, hs.comments⟩
  intro q hq
  rcases List.mem_append.mp hq with hold | hnew
  · exact hs.posts q hold
  · rw [List.mem_singleton.mp hnew]
    refine ⟨htitle, hcontent, ?_, ?_⟩
    · intro tag htag
      exact hnamed.proper (htags ▸ htag)
    · exact htags ▸ hnamed.nodup

/-- An edit brings in a title and a content. -/
theorem editPost {id : Int} {version : Int32} {title content : String} {f : Post → Post}
    (hf : Edits version title content f) (htitle : Text.IsFit title 100)
    (hcontent : Text.IsFit content 1000) : (s.editPost id version f).WellFormed := by
  refine ⟨?_, hs.comments⟩
  intro q hq
  rcases mem_of_mem_replaceFirst hq with hold | ⟨old, hold, rfl⟩
  · exact hs.posts q hold
  · exact ⟨(hf.title old).symm ▸ htitle, (hf.content old).symm ▸ hcontent,
      (hf.tags old).symm ▸ (hs.posts old hold).tags, (hf.tags old).symm ▸ (hs.posts old hold).once⟩

theorem deletePost {id : Int} (h : s.deletePost id = .ok ((), s')) : s'.WellFormed := by
  rw [deletePost_ok h]
  exact ⟨fun p hp => hs.posts p (List.mem_of_mem_filter hp),
    fun c hc => hs.comments c (List.mem_of_mem_filter hc)⟩

theorem createComment {new : NewComment} {c : Comment}
    (h : s.createComment now new = .ok (c, s')) (hcontent : Text.IsFit new.content 1000) :
    s'.WellFormed := by
  obtain ⟨_, _, _, _, hrow, _⟩ := createComment_row h
  obtain ⟨_, _, _, rfl⟩ := createComment_ok h
  refine ⟨hs.posts, ?_⟩
  intro d hd
  rcases List.mem_append.mp hd with hold | hnew
  · exact hs.comments d hold
  · rw [List.mem_singleton.mp hnew, Comment.WellFormed, hrow]
    exact hcontent

end WellFormed

end Store

end Agora
