import Agora.Proofs.Store.Later

/-!
# Versions

Where ids are distinct, an update reaches the tables exactly on a post that is found under its id
with the version that it names. What is found afterwards is the next version of it
(`updatePost_current`), unless there is none, or the clock cannot be read, and the update breaks
down (`updatePost_breaks`); otherwise nothing is changed (`updatePost_stale`). No other change of
the tables revises a post (`Unrevised`): a post that is found afterwards was there before, or it is
new and of version 0.
-/

namespace Agora.Store

variable {s s' : Store} {now : Time.Instant}

/-! ## Updates -/

/-- If the first member of a kind is also of the narrower kind that is replaced, it is what the
replacement replaces. -/
theorem find?_replaceFirst_of_find? {α : Type} {p q : α → Bool} {f : α → α} {l : List α} {a : α}
    (hpq : ∀ a, p a = true → q a = true) (hq : ∀ a, q (f a) = q a) (hfind : l.find? q = some a)
    (ha : p a = true) : (replaceFirst p f l).find? q = some (f a) := by
  induction l with
  | nil => cases hfind
  | cons b rest ih =>
    rw [List.find?_cons] at hfind
    unfold replaceFirst
    cases hb : q b with
    | true =>
      rw [hb] at hfind
      cases hfind
      rw [if_pos ha, List.find?_cons, hq, hb]
    | false =>
      rw [hb] at hfind
      have hpb : ¬p b = true := by
        intro h
        rw [hpq b h] at hb
        cases hb
      rw [if_neg hpb, List.find?_cons, hb]
      exact ih hfind

/-- A post that is edited where it is found is found in its new form. -/
theorem post?_edited {id : Int} {p : Post} {f : Post → Post} (hfound : s.post? id = some p)
    (hf : ∀ p, (f p).id = p.id) : (s.editPost id p.version f).post? id = some (f p) := by
  refine find?_replaceFirst_of_find? ?_ (fun q => by rw [hf]) hfound ?_
  · intro r hr
    exact (Bool.and_eq_true_iff.mp hr).1
  · simp [id_of_post? hfound]

/-- An update that goes through finds its version under its id, and leaves the next one. -/
theorem updatePost_current (hs : s.Numbered) {id : Int} {version : Int32}
    {title content : String} {q : Post}
    (h : s.updatePost now id version title content = .ok (q, s')) :
    ∃ p, s.post? id = some p ∧ p.version = version ∧ p.version ≠ Int32.maxValue ∧
      q = revised now title content p ∧ s'.post? id = some q := by
  obtain ⟨⟨p, hp, rfl, rfl, rfl⟩, -, rfl⟩ := updatePost_ok h
  have hfound := hs.post?_of_mem hp
  exact ⟨p, hfound, rfl, (of_updatePost_ok h).1, rfl, post?_edited hfound fun _ => rfl⟩

/-- An update that breaks down finds its version under its id, and leaves its title and its content
there, with the next version if there is one. -/
theorem updatePost_breaks (hs : s.Numbered) {id : Int} {version : Int32} {title content : String}
    (h : s.updatePost now id version title content = .broken s') :
    ∃ p q, s.post? id = some p ∧ p.version = version ∧ s'.post? id = some q ∧
      (version = Int32.maxValue ∧ q = rewritten title content p ∨
        now.second < 0 ∧ version ≠ Int32.maxValue ∧ q = raised title content p) := by
  obtain ⟨f, hf, rfl, hcause, p, hp, rfl, rfl⟩ := updatePost_broken h
  have hfound := hs.post?_of_mem hp
  refine ⟨p, f p, hfound, rfl, post?_edited hfound hf.id, ?_⟩
  obtain ⟨hlast, rfl⟩ | ⟨hclock, hnext, rfl⟩ := hcause
  · exact Or.inl ⟨hlast, rfl⟩
  · exact Or.inr ⟨hclock, hnext, rfl⟩

/-- An update that is refused finds no post of its version under its id. -/
theorem updatePost_stale {id : Int} {version : Int32} {title content : String} {e : StoreError}
    (h : s.updatePost now id version title content = .error e) :
    e = .notFound ∧ ∀ p, s.post? id = some p → p.version ≠ version := by
  unfold updatePost at h
  split at h
  next hnone =>
    cases h
    refine ⟨rfl, ?_⟩
    intro p hp hversion
    rw [List.find?_eq_none] at hnone
    exact hnone p (List.mem_of_find?_eq_some hp) (by simp [id_of_post? hp, hversion])
  next =>
    split at h
    next => cases h
    next => split at h <;> cases h

/-! ## Other changes -/

/-- No post was revised: what is found under an id was found under it before, or is new. -/
def Unrevised (s s' : Store) : Prop :=
  ∀ id q, s'.post? id = some q → s.post? id = some q ∨ (id = s.nextId ∧ q.version = 0)

namespace Unrevised

theorem of_posts (h : s'.posts = s.posts) : Unrevised s s' := by
  intro id q hq
  rw [post?_congr h] at hq
  exact Or.inl hq

theorem of_newPost {p : Post} (hid : p.id = s.nextId) (hversion : p.version = 0)
    (h : s'.posts = s.posts ++ [p]) : Unrevised s s' := by
  intro id q hq
  unfold post? at hq ⊢
  rw [h, List.find?_append, Option.or_eq_some_iff] at hq
  rcases hq with hold | ⟨_, hnew⟩
  · exact Or.inl hold
  · have hmem := List.mem_of_find?_eq_some hnew
    have hqid : q.id = id := by simpa using List.find?_some hnew
    rw [List.mem_singleton.mp hmem] at hqid ⊢
    exact Or.inr ⟨by rw [← hqid, hid], hversion⟩

theorem of_createPost {new : NewPost} {p : Post} (h : s.createPost now new = .ok (p, s')) :
    Unrevised s s' := by
  obtain ⟨rfl, rfl⟩ := Prod.mk.inj (createPost_row h)
  exact of_newPost rfl rfl rfl

theorem of_deletePost {id : Int} (h : s.deletePost id = .ok ((), s')) : Unrevised s s' := by
  intro i q hq
  rw [post?_deletePost h] at hq
  split at hq
  next => cases hq
  next => exact Or.inl hq

end Unrevised

end Agora.Store
