import Mathlib.Data.List.Find
import Agora.Proofs.Store.Ids

/-!
# What becomes of a change

Where ids are distinct, each change of a post that is there has one outcome. An update reaches the
post exactly if it names its version, and then it changes that post alone (`updatePost_of_found`):
it revises it, unless the version is the last one or the clock cannot be read. A delete always goes
through, and a comment does if the clock can be read.
-/

namespace Agora.Store

variable {s : Store} {now : Time.Instant} {id : Int} {p : Post}

/-- If all members of a kind are those of one key, and there is one member of this key at most, to
replace the first member of the kind is to replace the member of the key. -/
theorem replaceFirst_eq_map {α : Type} {isOne : α → Bool} {key : α → Int} {k : Int} {f : α → α}
    {l : List α} (hdistinct : (l.map key).Nodup) (hkey : ∀ a ∈ l, isOne a = true ↔ key a = k) :
    replaceFirst isOne f l = l.map fun a => if key a = k then f a else a := by
  induction l with
  | nil => rfl
  | cons a rest ih =>
    obtain ⟨ha, hrest⟩ := List.forall_mem_cons.mp hkey
    obtain ⟨hfresh, hdistinct⟩ := List.nodup_cons.mp hdistinct
    rw [replaceFirst, List.map_cons]
    by_cases hk : key a = k
    · rw [if_pos (ha.mpr hk), if_pos hk]
      -- no other member has the key
      have hother : ∀ b ∈ rest, (if key b = k then f b else b) = id b := by
        intro b hb
        refine if_neg fun hkb => hfresh ?_
        rw [hk, ← hkb]
        exact List.mem_map_of_mem hb
      rw [List.map_congr_left hother, List.map_id]
    · rw [if_neg (mt ha.mp hk), if_neg hk, ih hdistinct hrest]

section

variable (hdistinct : (s.posts.map (·.id)).Nodup) (hfound : s.post? id = some p)

include hdistinct hfound

/-- The post that is found is the only one of its id. -/
theorem eq_of_found {q : Post} (hq : q ∈ s.posts) (hid : q.id = id) : q = p :=
  List.inj_on_of_nodup_map hdistinct hq (List.mem_of_find?_eq_some hfound)
    (hid.trans (id_of_post? hfound).symm)

theorem current_iff_of_found {q : Post} (hq : q ∈ s.posts) :
    (decide (q.id = id) && decide (q.version = p.version)) = true ↔ q.id = id := by
  rw [Bool.and_eq_true, decide_eq_true_eq, decide_eq_true_eq]
  refine ⟨And.left, fun hid => ⟨hid, ?_⟩⟩
  rw [eq_of_found hdistinct hfound hq hid]

/-- An edit of the version that is there is one of the post alone. -/
theorem editPost_of_found (f : Post → Post) :
    s.editPost id p.version f =
      { s with posts := s.posts.map fun q => if q.id = id then f p else q } := by
  have hposts : s.posts.map (fun q => if q.id = id then f q else q) =
      s.posts.map fun q => if q.id = id then f p else q := by
    refine List.map_congr_left fun q hq => ?_
    by_cases hid : q.id = id
    · rw [if_pos hid, if_pos hid, eq_of_found hdistinct hfound hq hid]
    · rw [if_neg hid, if_neg hid]
  unfold editPost
  rw [replaceFirst_eq_map hdistinct fun q hq => current_iff_of_found hdistinct hfound hq, hposts]

theorem updatePost_of_found (version : Int32) (title content : String) :
    s.updatePost now id version title content =
      if version = p.version then
        if version = Int32.maxValue then .broken { s with
          posts := s.posts.map fun q => if q.id = id then rewritten title content p else q }
        else if now.second < 0 then .broken { s with
          posts := s.posts.map fun q => if q.id = id then raised title content p else q }
        else .ok (revised now title content p, { s with
          posts := s.posts.map fun q => if q.id = id then revised now title content p else q })
      else .error .notFound := by
  unfold updatePost
  by_cases hversion : version = p.version
  · subst hversion
    have hfirst : s.posts.find? (fun q => decide (q.id = id) && decide (q.version = p.version)) =
        some p := by
      rw [← hfound]
      refine List.find?_congr fun q hq => ?_
      rw [Bool.eq_iff_iff, current_iff_of_found hdistinct hfound hq, decide_eq_true_eq]
    simp only [hfirst, if_pos, editPost_of_found hdistinct hfound]
  · have hnone : s.posts.find? (fun q => decide (q.id = id) && decide (q.version = version)) =
        none := by
      rw [List.find?_eq_none]
      intro q hq hcurrent
      rw [Bool.and_eq_true, decide_eq_true_eq, decide_eq_true_eq] at hcurrent
      rw [eq_of_found hdistinct hfound hq hcurrent.1] at hcurrent
      exact hversion hcurrent.2.symm
    rw [if_neg hversion]
    simp only [hnone]

end

/-- The post that takes the place of another one is found in its place. -/
theorem post?_replaced (hfound : s.post? id = some p) {q : Post} (hq : q.id = id) :
    post? { s with posts := s.posts.map fun r => if r.id = id then q else r } id = some q := by
  have hsame : (fun r : Post => decide (r.id = id)) ∘ (fun r : Post => if r.id = id then q else r) =
      fun r : Post => decide (r.id = id) := by
    funext r
    by_cases hr : r.id = id
    · simp [hr, hq]
    · simp [hr]
  unfold post? at hfound ⊢
  rw [List.find?_map, hsame, hfound, Option.map_some, if_pos (id_of_post? hfound)]

theorem deletePost_of_found (hfound : s.post? id = some p) :
    s.deletePost id = .ok ((), { s with
      posts := s.posts.filter (·.id ≠ id), comments := s.comments.filter (·.postId ≠ id) }) := by
  have hany : s.posts.any (fun q => decide (q.id = id)) = true :=
    List.any_eq_true.mpr ⟨p, List.mem_of_find?_eq_some hfound, decide_eq_true (id_of_post? hfound)⟩
  unfold deletePost
  rw [if_pos hany]

theorem createComment_of_found (hfound : s.post? id = some p) {author : User} {userId : Int}
    (hauthor : s.user? userId = some author) (content : String) :
    s.createComment now ⟨id, userId, content⟩ =
      s.addComment now ⟨id, userId, content⟩ author.username := by
  unfold createComment
  simp only [hfound, hauthor, Option.isNone_some, Bool.false_eq_true, if_false]

end Agora.Store
