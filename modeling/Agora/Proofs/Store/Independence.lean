import Agora.Proofs.Store.Edges

/-!
# Changes of different things

An update or a delete is about one post, and a follow or an unfollow about one edge (`Thing`). What
such a change makes of the tables is an `Effect` on its thing. Effects on different things do not
get in each other's way: each leaves what the other one's change goes by (`AgreeOn`, `agreeOn_on`),
and in either order they leave the same tables, up to the order of the edges (`alike_on`).

No ids have to be distinct for this. A thing of the first kind is an id, and whatever rows have it
belong to it together.
-/

namespace Agora.Store

variable {s s' : Store} {now : Time.Instant}

/-! ## Replacing and removing -/

section

variable {α : Type} {p q : α → Bool} {f g : α → α}

/-- What is neither replaced nor put in its place is selected as before. -/
theorem filter_replaceFirst (h : ∀ a, p a = true → ¬q a = true ∧ ¬q (f a) = true) (l : List α) :
    (replaceFirst p f l).filter q = l.filter q := by
  induction l with
  | nil => rfl
  | cons a rest ih =>
    unfold replaceFirst
    by_cases ha : p a = true
    · rw [if_pos ha, List.filter_cons_of_neg (h a ha).2, List.filter_cons_of_neg (h a ha).1]
    · rw [if_neg ha, List.filter_cons, List.filter_cons, ih]

/-- To replace a member that is kept, and to remove others, can be done in either order. -/
theorem replaceFirst_filter (h : ∀ a, p a = true → q a = true ∧ q (f a) = true) (l : List α) :
    replaceFirst p f (l.filter q) = (replaceFirst p f l).filter q := by
  induction l with
  | nil => rfl
  | cons a rest ih =>
    by_cases ha : p a = true
    · rw [List.filter_cons_of_pos (h a ha).1, replaceFirst, replaceFirst, if_pos ha, if_pos ha,
        List.filter_cons_of_pos (h a ha).2]
    · rw [replaceFirst, if_neg ha]
      by_cases hq : q a = true
      · rw [List.filter_cons_of_pos hq, List.filter_cons_of_pos hq, replaceFirst, if_neg ha, ih]
      · rw [List.filter_cons_of_neg hq, List.filter_cons_of_neg hq, ih]

/-- Members of two kinds can be replaced in either order, if what takes their place is not of the
other kind either. -/
theorem replaceFirst_comm (hp : ∀ a, p a = true → ¬q a = true ∧ ¬q (f a) = true)
    (hq : ∀ a, q a = true → ¬p (g a) = true) (l : List α) :
    replaceFirst p f (replaceFirst q g l) = replaceFirst q g (replaceFirst p f l) := by
  induction l with
  | nil => rfl
  | cons a rest ih =>
    by_cases ha : p a = true
    · obtain ⟨hqa, hqf⟩ := hp a ha
      rw [replaceFirst, if_neg hqa, replaceFirst, if_pos ha, replaceFirst, if_pos ha,
        replaceFirst, if_neg hqf]
    · by_cases hqa : q a = true
      · rw [replaceFirst, if_pos hqa, replaceFirst, if_neg (hq a hqa), replaceFirst, if_neg ha,
          replaceFirst, if_pos hqa]
      · rw [replaceFirst, if_neg hqa, replaceFirst, if_neg ha, replaceFirst, if_neg ha,
          replaceFirst, if_neg hqa, ih]

theorem filter_comm (l : List α) : (l.filter q).filter p = (l.filter p).filter q := by
  rw [List.filter_filter, List.filter_filter]
  exact List.filter_congr fun a _ => Bool.and_comm _ _

end

/-! ## Things -/

/-- What a change is about: the post with an id, or an edge. -/
inductive Thing where
  | post (id : Int)
  | edge (edge : Follow)

/-- The tables agree in all that a change of the thing goes by. -/
structure AgreeOn (thing : Thing) (s s' : Store) : Prop where
  roles : s'.roles = s.roles
  users : s'.users = s.users
  rows : ∀ id, thing = .post id →
    s'.posts.filter (fun p => p.id = id) = s.posts.filter (fun p => p.id = id)
  edge : ∀ edge, thing = .edge edge → (edge ∈ s'.follows ↔ edge ∈ s.follows)

namespace AgreeOn

theorem refl (thing : Thing) (s : Store) : AgreeOn thing s s :=
  ⟨rfl, rfl, fun _ _ => rfl, fun _ _ => Iff.rfl⟩

theorem role? {thing : Thing} (h : AgreeOn thing s s') (name : String) :
    s'.role? name = s.role? name := by
  unfold Store.role?
  rw [h.roles]

theorem user? {thing : Thing} (h : AgreeOn thing s s') (id : Int) : s'.user? id = s.user? id := by
  unfold Store.user?
  rw [h.users]

variable {id : Int}

theorem post? (h : AgreeOn (.post id) s s') : s'.post? id = s.post? id := by
  have hrows := congrArg List.head? (h.rows id rfl)
  rwa [List.head?_filter, List.head?_filter] at hrows

/-- The row of a version is among the rows of its id. -/
theorem version (h : AgreeOn (.post id) s s') (version : Int32) :
    s'.posts.find? (fun p => decide (p.id = id) && decide (p.version = version)) =
      s.posts.find? fun p => decide (p.id = id) && decide (p.version = version) := by
  have hamong : ∀ posts : List Post,
      posts.find? (fun p => decide (p.id = id) && decide (p.version = version)) =
        ((posts.filter fun p => p.version = version).filter fun p => p.id = id).head? := by
    intro posts
    rw [List.filter_filter, List.head?_filter]
  rw [hamong, hamong, filter_comm, h.rows id rfl, filter_comm]

theorem isFollowing {follower followed : Int} (h : AgreeOn (.edge ⟨follower, followed⟩) s s') :
    s'.isFollowing follower followed = s.isFollowing follower followed := by
  unfold Store.isFollowing
  rw [Bool.eq_iff_iff, List.contains_iff_mem, List.contains_iff_mem]
  exact h.edge _ rfl

end AgreeOn

/-! ## Effects -/

/-- What is made of the tables. -/
inductive Effect where
  | keep
  | revise (id : Int) (version : Int32) (title content : String)
  | drop (id : Int)
  | link (edge : Follow)
  | unlink (edge : Follow)

namespace Effect

def onPosts (now : Time.Instant) : Effect → List Post → List Post
  | .revise id version title content, posts =>
    replaceFirst (fun p => p.id = id && p.version = version) (revised now title content) posts
  | .drop id, posts => posts.filter (·.id ≠ id)
  | .keep, posts | .link _, posts | .unlink _, posts => posts

def onComments : Effect → List Comment → List Comment
  | .drop id, comments => comments.filter (·.postId ≠ id)
  | .keep, comments | .revise .., comments | .link _, comments | .unlink _, comments => comments

def onFollows : Effect → List Follow → List Follow
  | .link edge, follows => follows ++ [edge]
  | .unlink edge, follows => follows.filter (· ≠ edge)
  | .keep, follows | .revise .., follows | .drop _, follows => follows

/-- The tables after an effect at a time. -/
def on (now : Time.Instant) (e : Effect) (s : Store) : Store :=
  { s with
    posts := e.onPosts now s.posts
    comments := e.onComments s.comments
    follows := e.onFollows s.follows }

/-- The effect is on the thing, or there is none. -/
inductive Within : Thing → Effect → Prop
  | keep (thing : Thing) : Within thing .keep
  | revise (id : Int) (version : Int32) (title content : String) :
    Within (.post id) (.revise id version title content)
  | drop (id : Int) : Within (.post id) (.drop id)
  | link (edge : Follow) : Within (.edge edge) (.link edge)
  | unlink (edge : Follow) : Within (.edge edge) (.unlink edge)

end Effect

theorem updatePost_eq (now : Time.Instant) (s : Store) (id : Int) (version : Int32)
    (title content : String) :
    s.updatePost now id version title content =
      match s.posts.find? fun p => decide (p.id = id) && decide (p.version = version) with
      | none => .error .notFound
      | some p =>
        if p.version = Int32.maxValue then .broken (s.editPost id version (rewritten title content))
        else if now.second < 0 then .broken (s.editPost id version (raised title content))
        else .ok (revised now title content p,
          (Effect.revise id version title content).on now s) := rfl

/-! ## Effects on different things -/

section

variable {j k : Thing} {e e' : Effect}

/-- The row that is revised has its id before and after that, and no other. -/
theorem id_of_current {id id' : Int} {version : Int32} {title content : String}
    (hne : id ≠ id') {p : Post} (h : (decide (p.id = id) && decide (p.version = version)) = true) :
    p.id ≠ id' ∧ (revised now title content p).id ≠ id' := by
  rw [Bool.and_eq_true, decide_eq_true_eq] at h
  have hother : p.id ≠ id' := by
    rw [h.1]
    exact hne
  exact ⟨hother, hother⟩

theorem not_current_of_ne {id : Int} {version : Int32} {p : Post} (h : p.id ≠ id) :
    ¬(decide (p.id = id) && decide (p.version = version)) = true := by
  rw [Bool.and_eq_true, decide_eq_true_eq]
  exact fun hp => h hp.1

/-- An effect on another thing leaves all that a change goes by. -/
theorem agreeOn_on (he : e.Within j) (hjk : j ≠ k) (now : Time.Instant) (s : Store) :
    AgreeOn k s (e.on now s) := by
  refine ⟨rfl, rfl, ?rows, ?edge⟩
  case rows =>
    rintro id rfl
    cases he with
    | revise other version title content =>
      have hother : other ≠ id := fun h => hjk (congrArg Thing.post h)
      refine filter_replaceFirst (fun p hp => ?_) s.posts
      rw [decide_eq_true_eq, decide_eq_true_eq]
      exact id_of_current hother hp
    | drop other =>
      have hother : id ≠ other := fun h => hjk (congrArg Thing.post h.symm)
      show (s.posts.filter fun p => decide (p.id ≠ other)).filter _ = _
      rw [List.filter_filter]
      refine List.filter_congr fun p _ => ?_
      by_cases hp : p.id = id
      · simp [hp, hother]
      · simp [hp]
    | _ => rfl
  case edge =>
    rintro edge rfl
    cases he with
    | link other =>
      have hother : edge ≠ other := fun h => hjk (congrArg Thing.edge h.symm)
      simp [Effect.on, Effect.onFollows, hother]
    | unlink other =>
      have hother : edge ≠ other := fun h => hjk (congrArg Thing.edge h.symm)
      simp [Effect.on, Effect.onFollows, hother]
    | _ => rfl

theorem onPosts_revise_drop {id id' : Int} {version : Int32} {title content : String}
    (hne : id ≠ id') (posts : List Post) :
    (Effect.revise id version title content).onPosts now ((Effect.drop id').onPosts now posts) =
      (Effect.drop id').onPosts now
        ((Effect.revise id version title content).onPosts now posts) := by
  refine replaceFirst_filter (fun p hp => ?_) posts
  rw [decide_eq_true_eq, decide_eq_true_eq]
  exact id_of_current hne hp

theorem onPosts_comm (he : e.Within j) (he' : e'.Within k) (hjk : j ≠ k) (posts : List Post) :
    e.onPosts now (e'.onPosts now posts) = e'.onPosts now (e.onPosts now posts) := by
  cases he with
  | revise id version title content =>
    cases he' with
    | revise id' version' title' content' =>
      have hne : id ≠ id' := fun h => hjk (congrArg Thing.post h)
      refine replaceFirst_comm (fun p hp => ?_) (fun p hp => ?_) posts
      · obtain ⟨hold, hnew⟩ := id_of_current hne hp
        exact ⟨not_current_of_ne hold, not_current_of_ne hnew⟩
      · exact not_current_of_ne (id_of_current hne.symm hp).2
    | drop id' => exact onPosts_revise_drop (fun h => hjk (congrArg Thing.post h)) posts
    | _ => rfl
  | drop id =>
    cases he' with
    | revise id' version' title' content' =>
      exact (onPosts_revise_drop (fun h => hjk (congrArg Thing.post h.symm)) posts).symm
    | drop id' => exact filter_comm posts
    | _ => rfl
  | _ => rfl

theorem onComments_comm (comments : List Comment) :
    e.onComments (e'.onComments comments) = e'.onComments (e.onComments comments) := by
  cases e with
  | drop id =>
    cases e' with
    | drop id' => exact filter_comm comments
    | _ => rfl
  | _ => rfl

theorem mem_link_unlink {a b : Follow} (hne : a ≠ b) (follows : List Follow) (edge : Follow) :
    edge ∈ (Effect.link a).onFollows ((Effect.unlink b).onFollows follows) ↔
      edge ∈ (Effect.unlink b).onFollows ((Effect.link a).onFollows follows) := by
  simp only [Effect.onFollows, List.mem_append, List.mem_filter, List.mem_singleton,
    decide_eq_true_eq]
  constructor
  · intro h
    rcases h with ⟨hold, hkept⟩ | rfl
    · exact ⟨Or.inl hold, hkept⟩
    · exact ⟨Or.inr rfl, hne⟩
  · intro h
    obtain ⟨hold | rfl, hkept⟩ := h
    · exact Or.inl ⟨hold, hkept⟩
    · exact Or.inr rfl

/-- Of the edges only the order depends on which effect comes first. -/
theorem mem_onFollows_comm (he : e.Within j) (he' : e'.Within k) (hjk : j ≠ k)
    (follows : List Follow) (edge : Follow) :
    edge ∈ e.onFollows (e'.onFollows follows) ↔ edge ∈ e'.onFollows (e.onFollows follows) := by
  cases he with
  | link a =>
    cases he' with
    | link b => simp only [Effect.onFollows, List.mem_append, or_right_comm]
    | unlink b => exact mem_link_unlink (fun h => hjk (congrArg Thing.edge h)) follows edge
    | _ => exact Iff.rfl
  | unlink a =>
    cases he' with
    | link b =>
      exact (mem_link_unlink (fun h => hjk (congrArg Thing.edge h.symm)) follows edge).symm
    | unlink b =>
      show edge ∈ (follows.filter _).filter _ ↔ edge ∈ (follows.filter _).filter _
      rw [filter_comm]
    | _ => exact Iff.rfl
  | _ => exact Iff.rfl

/-- In either order two effects on different things leave the same tables, but that the edges may
stand in another order. -/
theorem alike_on (he : e.Within j) (he' : e'.Within k) (hjk : j ≠ k) (now : Time.Instant)
    (s : Store) : Alike (e'.on now (e.on now s)) (e.on now (e'.on now s)) := by
  refine .of_edges ?_ (mem_onFollows_comm he he' hjk s.follows)
  unfold Effect.on
  simp only [onPosts_comm he he' hjk, onComments_comm]

end

end Agora.Store
