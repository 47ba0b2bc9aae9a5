import Agora.Store

/-!
# What an operation on the tables does

One lemma for each operation that succeeds (`createPost_ok`, `updatePost_ok`, ...) says what it was
allowed to be done for and what the new tables are, and one for each that breaks down
(`createPost_broken`, ...) what it leaves. An update does much the same either way: it `Edits` a
post. The lemmas on `post?` then say what is found under an id afterwards: the same row, the row
that was edited, or no row. None of them asks that ids are unique: `post?` is the first row of an
id, and `updatePost` may even edit another one.
-/

namespace Agora.Store

variable {s s' : Store} {now : Time.Instant}

/-! ## Replacing one member -/

section

variable {α : Type} {p : α → Bool} {f : α → α}

/-- A member is kept unless it is of the kind that is replaced. -/
theorem mem_replaceFirst_of_mem {l : List α} {a : α} (h : a ∈ l) :
    a ∈ replaceFirst p f l ∨ p a = true := by
  induction l with
  | nil => cases h
  | cons b rest ih =>
    unfold replaceFirst
    by_cases hb : p b = true
    · rw [if_pos hb]
      rcases List.mem_cons.mp h with rfl | hrest
      · exact Or.inr hb
      · exact Or.inl (List.mem_cons_of_mem _ hrest)
    · rw [if_neg hb]
      rcases List.mem_cons.mp h with rfl | hrest
      · exact Or.inl List.mem_cons_self
      · exact (ih hrest).imp (List.mem_cons_of_mem _) id

/-- Looking for something that a replacement does not change finds what it found before, or the
replacement of it. -/
theorem find?_replaceFirst {q : α → Bool} (hq : ∀ a, q (f a) = q a) (l : List α) :
    (replaceFirst p f l).find? q = l.find? q ∨
      ∃ a, l.find? q = some a ∧ p a = true ∧ (replaceFirst p f l).find? q = some (f a) := by
  induction l with
  | nil => exact Or.inl rfl
  | cons a rest ih =>
    unfold replaceFirst
    by_cases ha : p a = true
    · rw [if_pos ha, List.find?_cons, List.find?_cons, hq]
      cases hqa : q a with
      | true => exact Or.inr ⟨a, rfl, ha, rfl⟩
      | false => exact Or.inl rfl
    · rw [if_neg ha, List.find?_cons, List.find?_cons]
      cases hqa : q a with
      | true => exact Or.inl rfl
      | false => exact ih

end

/-! ## Rows -/

/-- A row that is found under an id has that id. -/
theorem id_of_post? {id : Int} {p : Post} (h : s.post? id = some p) : p.id = id := by
  simpa using List.find?_some h

/-- A row that is found under an id has that id. -/
theorem id_of_user? {id : Int} {u : User} (h : s.user? id = some u) : u.id = id := by
  simpa using List.find?_some h

/-- A role that is found has the name that was looked for. -/
theorem name_of_role? {name : String} {role : Role} (h : s.role? name = some role) :
    role.name = name := by
  simpa using List.find?_some h

/-! ## Edits -/

/-- The number after a version, unless it is the last one. -/
theorem toInt_succ {version : Int32} (h : version ≠ Int32.maxValue) :
    (version + 1).toInt = version.toInt + 1 := by
  have hmax : version.toInt ≠ Int32.maxValue.toInt := fun heq => h (Int32.toInt_inj.mp heq)
  have hle := Int32.toInt_le version
  have hge := Int32.le_toInt version
  rw [Int32.toInt_add, Int.bmod_def]
  simp only [Int32.toInt_maxValue, Int32.toInt_one] at *
  omega

/-- What is done to a post of one version: it gets a title and a content, and stays the post that it
is. Its version grows, or it was the last one there is. -/
structure Edits (version : Int32) (title content : String) (f : Post → Post) : Prop where
  id : ∀ p, (f p).id = p.id
  userId : ∀ p, (f p).userId = p.userId
  tags : ∀ p, (f p).tags = p.tags
  createdAt : ∀ p, (f p).createdAt = p.createdAt
  title : ∀ p, (f p).title = title
  content : ∀ p, (f p).content = content
  version : ∀ p, p.version = version →
    p.version.toInt < (f p).version.toInt ∨ (f p).version = Int32.maxValue

section

variable {version : Int32}

theorem edits_rewritten (h : version = Int32.maxValue) (title content : String) :
    Edits version title content (rewritten title content) where
  id _ := rfl
  userId _ := rfl
  tags _ := rfl
  createdAt _ := rfl
  title _ := rfl
  content _ := rfl
  version _ hp := Or.inr (hp.trans h)

theorem edits_raised (h : version ≠ Int32.maxValue) (title content : String) :
    Edits version title content (raised title content) where
  id _ := rfl
  userId _ := rfl
  tags _ := rfl
  createdAt _ := rfl
  title _ := rfl
  content _ := rfl
  version p hp := by
    have hsucc : (p.version + 1).toInt = p.version.toInt + 1 := toInt_succ (hp ▸ h)
    exact Or.inl (hsucc ▸ Int.lt_succ _)

theorem edits_revised (h : version ≠ Int32.maxValue) (now : Time.Instant) (title content : String) :
    Edits version title content (revised now title content) :=
  { edits_raised h title content with }

end

/-! ## Operations that succeed -/

theorem createPost_ok {new : NewPost} {p : Post} (h : s.createPost now new = .ok (p, s')) :
    (s.user? new.userId).isSome ∧ p.id = s.nextId ∧ p.userId = new.userId ∧
      s' = { s with posts := s.posts ++ [p], lastId := s.nextId } := by
  unfold createPost at h
  split at h
  next => cases h
  next hauthor =>
    split at h
    next => cases h
    next =>
      simp only [addPost, Ending.ok.injEq, Prod.mk.injEq] at h
      obtain ⟨rfl, rfl⟩ := h
      exact ⟨by simpa [Option.isSome_iff_ne_none] using hauthor, rfl, rfl, rfl⟩

/-- A post by a user is the row that is made from it. -/
theorem createPost_row {new : NewPost} {p : Post} (h : s.createPost now new = .ok (p, s')) :
    (p, s') = s.addPost new now := by
  unfold createPost at h
  split at h
  next => cases h
  next =>
    split at h
    next => cases h
    next => exact (Ending.ok.inj h).symm

theorem updatePost_ok {id : Int} {version : Int32} {title content : String} {q : Post}
    (h : s.updatePost now id version title content = .ok (q, s')) :
    (∃ p ∈ s.posts, p.id = id ∧ p.version = version ∧ q = revised now title content p) ∧
      Edits version title content (revised now title content) ∧
      s' = s.editPost id version (revised now title content) := by
  unfold updatePost at h
  split at h
  next => cases h
  next p hfind =>
    have hcurrent : p.id = id ∧ p.version = version := by simpa using List.find?_some hfind
    split at h
    next => cases h
    next hlast =>
      split at h
      next => cases h
      next =>
        simp only [Ending.ok.injEq, Prod.mk.injEq] at h
        obtain ⟨rfl, rfl⟩ := h
        exact ⟨⟨p, List.mem_of_find?_eq_some hfind, hcurrent.1, hcurrent.2, rfl⟩,
          edits_revised (hcurrent.2 ▸ hlast) now title content, rfl⟩

/-- Nothing is updated that has the last version, and not by a clock that cannot be read. -/
theorem of_updatePost_ok {id : Int} {version : Int32} {title content : String} {q : Post}
    (h : s.updatePost now id version title content = .ok (q, s')) :
    version ≠ Int32.maxValue ∧ 0 ≤ now.second := by
  unfold updatePost at h
  split at h
  next => cases h
  next p hfind =>
    have hcurrent : p.id = id ∧ p.version = version := by simpa using List.find?_some hfind
    split at h
    next => cases h
    next hlast =>
      split at h
      next => cases h
      next hclock => exact ⟨hcurrent.2 ▸ hlast, Int.not_lt.mp hclock⟩

theorem deletePost_ok {id : Int} {u : Unit} (h : s.deletePost id = .ok (u, s')) :
    s' = { s with
      posts := s.posts.filter (·.id ≠ id), comments := s.comments.filter (·.postId ≠ id) } := by
  unfold deletePost at h
  split at h
  next =>
    simp only [Ending.ok.injEq, Prod.mk.injEq, true_and] at h
    exact h.symm
  next => cases h

theorem addComment_ok {ε : Type} {new : NewComment} {username : String} {c : Comment}
    (h : (s.addComment now new username : Ending Store ε Comment) = .ok (c, s')) :
    c.postId = new.postId ∧ c.userId = new.userId ∧ c.id = s.nextId ∧ c.content = new.content ∧
      s' = { s with comments := s.comments ++ [c], lastId := s.nextId } := by
  unfold addComment at h
  split at h
  next => cases h
  next =>
    obtain ⟨rfl, rfl⟩ := Prod.mk.inj (Ending.ok.inj h)
    exact ⟨rfl, rfl, rfl, rfl, rfl⟩

theorem createComment_ok {new : NewComment} {c : Comment}
    (h : s.createComment now new = .ok (c, s')) :
    c.postId = new.postId ∧ c.userId = new.userId ∧ c.id = s.nextId ∧
      s' = { s with comments := s.comments ++ [c], lastId := s.nextId } := by
  unfold createComment at h
  split at h
  next => cases h
  next =>
    split at h
    next => cases h
    next author _ =>
      obtain ⟨hpost, hauthor, hid, _, hafter⟩ := addComment_ok h
      exact ⟨hpost, hauthor, hid, hafter⟩

theorem follow_ok {follower followed : Int} {u : Unit}
    (h : s.follow follower followed = .ok (u, s')) :
    s' = { s with follows := s.follows ++ [⟨follower, followed⟩] } := by
  unfold follow at h
  split at h
  next => cases h
  next =>
    split at h
    next => cases h
    next =>
      simp only [addFollow, Ending.ok.injEq, Prod.mk.injEq, true_and] at h
      exact h.symm

theorem unfollow_ok {follower followed : Int} {u : Unit}
    (h : s.unfollow follower followed = .ok (u, s')) :
    s' = { s with follows := s.follows.filter (· ≠ ⟨follower, followed⟩) } := by
  unfold unfollow at h
  split at h
  next =>
    simp only [Ending.ok.injEq, Prod.mk.injEq, true_and] at h
    exact h.symm
  next => cases h

theorem addUser_ok {username roleName : String} {u : User}
    (h : s.addUser now username roleName = .ok (u, s')) :
    u.id = s.nextId ∧ s' = { s with users := s.users ++ [u], lastId := s.nextId } := by
  unfold addUser at h
  split at h
  next => cases h
  next =>
    split at h
    next => cases h
    next =>
      obtain ⟨rfl, rfl⟩ := Prod.mk.inj (Ending.ok.inj h)
      exact ⟨rfl, rfl⟩

theorem plantComment_ok {new : NewComment} {c : Comment}
    (h : s.plantComment now new = .ok (c, s')) :
    c.id = s.nextId ∧ s' = { s with comments := s.comments ++ [c], lastId := s.nextId } := by
  unfold plantComment at h
  split at h
  next => cases h
  next author _ =>
    obtain ⟨_, _, hid, _, hafter⟩ := addComment_ok h
    exact ⟨hid, hafter⟩

/-! ## Operations that break down -/

/-- What a change may have done to the tables when it breaks down. -/
inductive Remains (s : Store) : Store → Prop
  | same : Remains s s
  | skipped : Remains s s.skipId
  | edited {id : Int} {version : Int32} {title content : String} {f : Post → Post}
      (hf : Edits version title content f) : Remains s (s.editPost id version f)

/-- The users are as they were. -/
theorem Remains.users (h : Remains s s') : s'.users = s.users := by
  cases h <;> rfl

theorem Remains.roles (h : Remains s s') : s'.roles = s.roles := by
  cases h <;> rfl

theorem Remains.comments (h : Remains s s') : s'.comments = s.comments := by
  cases h <;> rfl

theorem Remains.follows (h : Remains s s') : s'.follows = s.follows := by
  cases h <;> rfl

/-- The clock is read before anything is changed. -/
theorem createPost_broken {new : NewPost} (h : s.createPost now new = .broken s') :
    now.second < 0 ∧ s' = s := by
  unfold createPost at h
  split at h
  next => cases h
  next =>
    split at h
    next hclock =>
      cases h
      exact ⟨hclock, rfl⟩
    next => cases h

/-- Title and content of a post of the version are written, and the next version if there is one. -/
theorem updatePost_broken {id : Int} {version : Int32} {title content : String}
    (h : s.updatePost now id version title content = .broken s') :
    ∃ f, Edits version title content f ∧ s' = s.editPost id version f ∧
      (version = Int32.maxValue ∧ f = rewritten title content ∨
        now.second < 0 ∧ version ≠ Int32.maxValue ∧ f = raised title content) ∧
      ∃ p ∈ s.posts, p.id = id ∧ p.version = version := by
  unfold updatePost at h
  split at h
  next => cases h
  next p hfind =>
    have hcurrent : p.id = id ∧ p.version = version := by simpa using List.find?_some hfind
    have hthere := List.mem_of_find?_eq_some hfind
    split at h
    next hlast =>
      cases h
      have hmax := hcurrent.2 ▸ hlast
      exact ⟨_, edits_rewritten hmax title content, rfl, Or.inl ⟨hmax, rfl⟩, p, hthere, hcurrent⟩
    next hlast =>
      split at h
      next hclock =>
        cases h
        have hmax := hcurrent.2 ▸ hlast
        exact ⟨_, edits_raised hmax title content, rfl, Or.inr ⟨hclock, hmax, rfl⟩, p, hthere,
          hcurrent⟩
      next => cases h

theorem deletePost_broken {id : Int} : s.deletePost id ≠ .broken s' := by
  unfold deletePost
  split <;> simp

/-- An id is taken before the clock is read. -/
theorem addComment_broken {ε : Type} {new : NewComment} {username : String}
    (h : (s.addComment now new username : Ending Store ε Comment) = .broken s') :
    now.second < 0 ∧ s' = s.skipId := by
  unfold addComment at h
  split at h
  next hclock =>
    cases h
    exact ⟨hclock, rfl⟩
  next => cases h

theorem createComment_broken {new : NewComment} (h : s.createComment now new = .broken s') :
    now.second < 0 ∧ s' = s.skipId := by
  unfold createComment at h
  split at h
  next => cases h
  next =>
    split at h
    next => cases h
    next => exact addComment_broken h

theorem follow_broken {follower followed : Int} : s.follow follower followed ≠ .broken s' := by
  unfold follow
  split
  next => simp
  next => split <;> simp

theorem unfollow_broken {follower followed : Int} : s.unfollow follower followed ≠ .broken s' := by
  unfold unfollow
  split <;> simp

theorem addUser_broken {username roleName : String}
    (h : s.addUser now username roleName = .broken s') :
    s.role? roleName = none ∧ s' = s ∨ now.second < 0 ∧ s' = s.skipId := by
  unfold addUser at h
  split at h
  next hrole =>
    cases h
    exact Or.inl ⟨hrole, rfl⟩
  next =>
    split at h
    next hclock =>
      cases h
      exact Or.inr ⟨hclock, rfl⟩
    next => cases h

theorem plantComment_broken {new : NewComment} (h : s.plantComment now new = .broken s') :
    s.user? new.userId = none ∧ s' = s ∨ now.second < 0 ∧ s' = s.skipId := by
  unfold plantComment at h
  split at h
  next hauthor =>
    cases h
    exact Or.inl ⟨hauthor, rfl⟩
  next => exact Or.inr (addComment_broken h)

/-- A user or a comment that is put in from outside, and breaks down, takes an id at most. -/
theorem remains_addUser {username roleName : String}
    (h : s.addUser now username roleName = .broken s') : Remains s s' := by
  obtain ⟨_, rfl⟩ | ⟨_, rfl⟩ := addUser_broken h
  · exact .same
  · exact .skipped

theorem remains_plantComment {new : NewComment} (h : s.plantComment now new = .broken s') :
    Remains s s' := by
  obtain ⟨_, rfl⟩ | ⟨_, rfl⟩ := plantComment_broken h
  · exact .same
  · exact .skipped

/-! ## What is found afterwards -/

/-- What is found under an id depends on the posts only. -/
theorem post?_congr (hposts : s'.posts = s.posts) (id : Int) : s'.post? id = s.post? id := by
  unfold post?
  rw [hposts]

/-- A row that was found stays the one that is found when rows are added behind it. -/
theorem post?_append {id : Int} {p : Post} {rows : List Post}
    (hposts : s'.posts = s.posts ++ rows) (h : s.post? id = some p) : s'.post? id = some p := by
  unfold post? at h ⊢
  rw [hposts, List.find?_append, h]
  rfl

/-- An edit leaves everything that is found but the post that is edited. -/
theorem post?_editPost {id : Int} {version : Int32} {title content : String} {f : Post → Post}
    (hf : Edits version title content f) (i : Int) :
    (s.editPost id version f).post? i = s.post? i ∨
      ∃ p, s.post? i = some p ∧ i = id ∧ p.version = version ∧
        (s.editPost id version f).post? i = some (f p) := by
  rcases find?_replaceFirst
      (p := fun p : Post => decide (p.id = id) && decide (p.version = version))
      (f := f) (q := fun p : Post => decide (p.id = i))
      (fun p => by rw [hf.id]) s.posts with hsame | ⟨p, hfound, hcurrent, hedited⟩
  · exact Or.inl hsame
  · have hi : p.id = i := by simpa using List.find?_some hfound
    simp only [Bool.and_eq_true, decide_eq_true_eq] at hcurrent
    exact Or.inr ⟨p, hfound, hi.symm.trans hcurrent.1, hcurrent.2, hedited⟩

theorem post?_deletePost {id : Int} {u : Unit} (h : s.deletePost id = .ok (u, s')) (i : Int) :
    s'.post? i = if i = id then none else s.post? i := by
  rw [deletePost_ok h]
  unfold post?
  simp only [List.find?_filter]
  split
  next hi =>
    rw [List.find?_eq_none]
    intro p _
    simp [hi]
  next hi =>
    congr 1
    funext p
    by_cases hp : p.id = i
    · simp [hp, hi]
    · simp [hp]

end Agora.Store
