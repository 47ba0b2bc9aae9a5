import Agora.Proofs.Social.Feed
import Agora.Proofs.Social.Guard
import Agora.Proofs.Store.Outcomes
import Agora.Proofs.Text.LowerCase

/-!
# What changes of posts mean when nothing goes wrong

Main result: `run_sequential`. Where ids are distinct, the roles are the seeded ones, the tables are
not locked and no call meets a fault, every update, delete and comment has one outcome, an answer
together with the world that is left. It is decided by five questions, always in this order: is
there such a post, may the caller do this to it, are the given texts fit, is the version the stored
one, and what then becomes of the tables. Whoever is refused leaves the world as it was. Only the
last question can go without an answer, if there is no next version or no time of the change.

`Entitled`, `Unfit` and `UnfitEdit` say what the questions are about. The first two are answered for
all three operations at once (`guarded_absent`, `guarded_refused`); for a caller who is entitled, an
operation comes to what its plan comes to on the same tables (`yields_of_plan`).
-/

namespace Agora.Social

variable {x : Exchange World Call} {caller : User} {id : Int} {p : Post}

/-! ## Texts -/

/-- What is said of a text that is not fit: that there is nothing in it, or too much. -/
inductive Unfit (field text : String) (longest : Nat) : ServiceError → Prop
  | blank (h : ∀ c ∈ text.toList, Text.isBlank c = true) :
      Unfit field text longest (.validation (field ++ " is required"))
  | long (h : ∃ c ∈ text.toList, Text.isBlank c = false) (hlong : longest < text.length) :
      Unfit field text longest
        (.validation (field ++ " must be at most " ++ Decimal.text longest ++ " characters long"))

/-- What is said of an edit for the first of its texts that is not fit. -/
inductive UnfitEdit (edit : PostEdit) : ServiceError → Prop
  | title {title : String} {e : ServiceError} (hgiven : edit.title = some title)
      (h : Unfit "title" title 100 e) : UnfitEdit edit e
  | content {content : String} {e : ServiceError}
      (htitle : ∀ title e, edit.title = some title → ¬Unfit "title" title 100 e)
      (hgiven : edit.content = some content) (h : Unfit "content" content 1000 e) :
      UnfitEdit edit e

theorem checkText_eq_error {field text : String} {longest : Nat} {e : ServiceError} :
    checkText field text longest = .error e ↔ Unfit field text longest e := by
  unfold checkText
  simp only [List.isEmpty_iff, Text.trim_eq_nil]
  by_cases hblank : ∀ c ∈ text.toList, Text.isBlank c = true
  · rw [if_pos hblank]
    constructor
    · rintro ⟨⟩
      exact .blank hblank
    · intro h
      cases h with
      | blank => rfl
      | long h _ =>
        obtain ⟨c, hc, hvisible⟩ := h
        rw [hblank c hc] at hvisible
        cases hvisible
  · rw [if_neg hblank]
    have hvisible : ∃ c ∈ text.toList, Text.isBlank c = false := by simpa using hblank
    by_cases hlong : longest < text.length
    · rw [if_pos hlong]
      constructor
      · rintro ⟨⟩
        exact .long hvisible hlong
      · intro h
        cases h with
        | blank h => exact absurd h hblank
        | long => rfl
    · rw [if_neg hlong]
      constructor
      · rintro ⟨⟩
      · intro h
        cases h with
        | blank h => exact absurd h hblank
        | long _ h => exact absurd h hlong

theorem checkText_eq_ok {field text : String} {longest : Nat} :
    checkText field text longest = .ok () ↔ ∀ e, ¬Unfit field text longest e := by
  simp only [← checkText_eq_error]
  cases checkText field text longest with
  | ok _ => simp
  | error e => simp

theorem ofEdit_eq_error {edit : PostEdit} {e : ServiceError} :
    Commit.ofEdit p edit = .error e ↔ UnfitEdit edit e := by
  have htitle : ∀ {e}, checkGiven checkTitle edit.title = .error e ↔
      ∃ title, edit.title = some title ∧ Unfit "title" title 100 e :=
    checkGiven_eq_error.trans (by simp only [checkTitle, longestTitle, checkText_eq_error])
  have hcontent : checkGiven checkContent edit.content = .error e ↔
      ∃ content, edit.content = some content ∧ Unfit "content" content 1000 e :=
    checkGiven_eq_error.trans (by simp only [checkContent, longestContent, checkText_eq_error])
  rw [Commit.ofEdit_eq, Result.bind_eq_error]
  constructor
  · rintro (h | ⟨_, hfit, h⟩)
    · obtain ⟨title, hgiven, hunfit⟩ := htitle.mp h
      exact .title hgiven hunfit
    · rcases Result.bind_eq_error.mp h with h | ⟨_, _, h⟩
      · obtain ⟨content, hgiven, hunfit⟩ := hcontent.mp h
        refine .content ?_ hgiven hunfit
        intro title e' hgiven' hunfit'
        rw [htitle.mpr ⟨title, hgiven', hunfit'⟩] at hfit
        cases hfit
      · cases h
  · intro h
    cases h with
    | title hgiven hunfit => exact Or.inl (htitle.mpr ⟨_, hgiven, hunfit⟩)
    | content hfit hgiven hunfit =>
      cases hchecked : checkGiven checkTitle edit.title with
      | error e' =>
        obtain ⟨title, hgiven', hunfit'⟩ := htitle.mp hchecked
        exact absurd hunfit' (hfit title e' hgiven')
      | ok _ =>
        exact Or.inr ⟨_, rfl, Result.bind_eq_error.mpr (Or.inl (hcontent.mpr ⟨_, hgiven, hunfit⟩))⟩

/-- An edit whose texts are fit is committed as it stands. -/
theorem ofEdit_eq_ok {edit : PostEdit} (h : ∀ e, ¬UnfitEdit edit e) :
    Commit.ofEdit p edit = .ok {
      id := p.id, version := edit.version, title := edit.title.getD p.title
      content := edit.content.getD p.content } := by
  cases hcommit : Commit.ofEdit p edit with
  | error e => exact absurd (ofEdit_eq_error.mp hcommit) (h e)
  | ok c => rw [Commit.eq_of_ofEdit hcommit]

/-! ## Outcomes -/

/-- What an operation of a caller comes to: its result, and the world that is left. -/
def Operation.Yields (op : Operation) (caller : User) (x : Exchange World Call)
    (r : Except (Stop ServiceError) Answer) (after : World) : Prop :=
  (op.run caller x).1 = r ∧ (op.run caller x).2.world = after

/-- The post that an operation is about, and the level of the role that it asks for: that of an
admin, of a moderator or of a user. -/
def Operation.needs? : Operation → Option (Int × Int)
  | .delete id => some (id, 3)
  | .update id _ => some (id, 2)
  | .comment id _ => some (id, 1)
  | _ => none

/-- The caller owns the post or has a role of that level. -/
def Entitled (caller : User) (p : Post) (level : Int) : Prop :=
  caller.id = p.userId ∨ level ≤ caller.role.level

/-- The next version of a post: what the edit gives, and for the rest what it was. -/
def applyEdit (now : Time.Instant) (edit : PostEdit) (p : Post) : Post where
  id := p.id
  title := edit.title.getD p.title
  content := edit.content.getD p.content
  userId := p.userId
  tags := p.tags
  version := p.version + 1
  createdAt := p.createdAt
  updatedAt := now

/-- What an edit leaves of a post when it breaks down: what it gives, the next version if there is
one, and for the rest what it was. -/
def breakEdit (edit : PostEdit) (p : Post) : Post where
  id := p.id
  title := edit.title.getD p.title
  content := edit.content.getD p.content
  userId := p.userId
  tags := p.tags
  version := if p.version = Int32.maxValue then p.version else p.version + 1
  createdAt := p.createdAt
  updatedAt := p.updatedAt

/-- The outcomes of a caller's changes of posts in an exchange. -/
structure Sequential (x : Exchange World Call) (caller : User) : Prop where
  /-- What is not there is not found, whoever asks. -/
  absent : ∀ (op : Operation) id level, op.needs? = some (id, level) →
    x.world.store.post? id = none →
      op.Yields caller x
        (.error (.refused (.notFound ("post " ++ Decimal.text id ++ " not found")))) x.world
  /-- Who is not entitled is told nothing else. -/
  forbidden : ∀ (op : Operation) id level p, op.needs? = some (id, level) →
    x.world.store.post? id = some p → ¬Entitled caller p level →
      op.Yields caller x (.error (.refused .forbidden)) x.world
  /-- An update is refused for the first of its texts that is not fit ... -/
  unfit : ∀ id edit p e, x.world.store.post? id = some p → Entitled caller p 2 → UnfitEdit edit e →
    (Operation.update id edit).Yields caller x (.error (.refused e)) x.world
  /-- ... and, if all are, for a version that is not the stored one. -/
  stale : ∀ id edit p, x.world.store.post? id = some p → Entitled caller p 2 →
    (∀ e, ¬UnfitEdit edit e) → edit.version ≠ p.version →
      (Operation.update id edit).Yields caller x
        (.error (.refused (.conflict ("post " ++ Decimal.text id ++ " was modified concurrently"))))
        x.world
  /-- Otherwise the post is replaced, and nothing else ... -/
  updated : ∀ id edit p, x.world.store.post? id = some p → Entitled caller p 2 →
    (∀ e, ¬UnfitEdit edit e) → edit.version = p.version → p.version ≠ Int32.maxValue →
      0 ≤ x.world.now.second → (Operation.update id edit).Yields caller x
        (.ok (.post (applyEdit x.world.now edit p)))
        { x.world with store := { x.world.store with
            posts := x.world.store.posts.map fun q =>
              if q.id = id then applyEdit x.world.now edit p else q } }
  /-- ... and is then what anybody gets, with the comments that it had. -/
  got : ∀ id edit p, x.world.store.post? id = some p → Entitled caller p 2 →
    (∀ e, ¬UnfitEdit edit e) → edit.version = p.version → p.version ≠ Int32.maxValue →
      0 ≤ x.world.now.second → ∀ reader y,
        y.world = ((Operation.update id edit).run caller x).2.world → y.faults = [] →
        ((Operation.get id).run reader y).1 =
          .ok (.thread ⟨applyEdit x.world.now edit p, x.world.store.commentsOf id⟩)
  /-- If there is no next version, or the clock cannot be read, there is no answer. The post is left
  with the texts, the tables are left locked. -/
  updateBroken : ∀ id edit p, x.world.store.post? id = some p → Entitled caller p 2 →
    (∀ e, ¬UnfitEdit edit e) → edit.version = p.version →
      p.version = Int32.maxValue ∨ x.world.now.second < 0 →
        (Operation.update id edit).Yields caller x (.error .abandoned)
          { x.world with
            poisoned := true
            store := { x.world.store with
              posts := x.world.store.posts.map fun q =>
                if q.id = id then breakEdit edit p else q } }
  /-- A delete removes the post and its comments, and nothing else. -/
  deleted : ∀ id p, x.world.store.post? id = some p → Entitled caller p 3 →
    (Operation.delete id).Yields caller x (.ok .done)
      { x.world with store := { x.world.store with
          posts := x.world.store.posts.filter (·.id ≠ id)
          comments := x.world.store.comments.filter (·.postId ≠ id) } }
  /-- A comment is refused if its text is not fit. -/
  uncommented : ∀ id draft p e, x.world.store.post? id = some p → Entitled caller p 1 →
    Unfit "content" draft.content 1000 e →
      (Operation.comment id draft).Yields caller x (.error (.refused e)) x.world
  /-- Otherwise it is put behind the others, with the next id and the name that its author has in
  the table of users. -/
  commented : ∀ id draft p author, x.world.store.post? id = some p → Entitled caller p 1 →
    (∀ e, ¬Unfit "content" draft.content 1000 e) → author ∈ x.world.store.users →
      author.id = caller.id → 0 ≤ x.world.now.second →
        let c : Comment := {
          id := x.world.store.lastId + 1, postId := id, userId := caller.id
          username := author.username, content := draft.content, createdAt := x.world.now }
        (Operation.comment id draft).Yields caller x (.ok (.comment c))
          { x.world with store := { x.world.store with
              comments := x.world.store.comments ++ [c], lastId := c.id } }
  /-- If the clock cannot be read, the id is taken, there is no answer, and the tables are left
  locked. -/
  commentBroken : ∀ id draft p author, x.world.store.post? id = some p → Entitled caller p 1 →
    (∀ e, ¬Unfit "content" draft.content 1000 e) → author ∈ x.world.store.users →
      author.id = caller.id → x.world.now.second < 0 →
        (Operation.comment id draft).Yields caller x (.error .abandoned)
          { x.world with
            poisoned := true
            store := { x.world.store with lastId := x.world.store.lastId + 1 } }

/-! ## The first two questions -/

section

variable {roleName : String} {plan : Post → Except ServiceError Plan} {role : Role}

theorem guarded_absent (hfaults : x.faults = []) (hfree : x.world.poisoned = false)
    (hnone : x.world.store.post? id = none) :
    guarded caller id roleName plan x =
      (.error (.refused (postNotFound id)), x.log (Call.postById id)) := by
  rw [guarded_run, loadPost_of_no_faults hfaults (World.tables?_of_free hfree), hnone]

/-- What the guard looks up without a fault is what is in the table. -/
theorem roleAnswer_of_no_faults (hfaults : x.faults = []) (hfree : x.world.poisoned = false) :
    roleAnswer x roleName = .ok (x.world.store.role? roleName) := by
  unfold roleAnswer
  rw [Exchange.lookup_of_spares (Exchange.spares_of_no_faults hfaults), World.tables?_of_free hfree]
  rfl

theorem lookupRole_of_no_faults (hfaults : x.faults = []) :
    (Agora.Action.lookup (Call.roleByName roleName)
      (fun w : World => w.tables?.map (·.role? roleName)) x).2 =
        x.log (Call.roleByName roleName) :=
  congrArg Prod.snd (Exchange.lookup_of_spares (Exchange.spares_of_no_faults hfaults) _)

/-- The guard where no fault is to come: owners may, and others go by the role in the table. -/
def admission (s : Store) (caller : User) (p : Post) (roleName : String) :
    Except (Stop ServiceError) Unit :=
  if caller.id = p.userId then .ok () else verdict caller (.ok (s.role? roleName))

theorem guardPost_of_no_faults (hfaults : x.faults = []) (hfree : x.world.poisoned = false) :
    ∃ z, z.world = x.world ∧ z.faults = [] ∧
      guardPost caller p roleName x = (admission x.world.store caller p roleName, z) := by
  unfold admission
  by_cases howner : caller.id = p.userId
  · rw [guardPost_of_owner howner, if_pos howner]
    exact ⟨x, rfl, hfaults, rfl⟩
  · rw [guardPost_of_other howner, roleAnswer_of_no_faults hfaults hfree,
      lookupRole_of_no_faults hfaults, if_neg howner]
    exact ⟨x.log (Call.roleByName roleName), rfl, Exchange.log_no_faults hfaults, rfl⟩

theorem guarded_refused {e : Stop ServiceError} (hfaults : x.faults = [])
    (hfree : x.world.poisoned = false) (hfound : x.world.store.post? id = some p)
    (h : admission x.world.store caller p roleName = .error e) :
    (guarded caller id roleName plan x).1 = .error e ∧
      (guarded caller id roleName plan x).2.world = x.world := by
  have hloaded : (x.log (Call.postById id)).faults = [] := Exchange.log_no_faults hfaults
  obtain ⟨z, hworld, -, hguard⟩ := guardPost_of_no_faults hloaded hfree
  rw [guarded_run, loadPost_of_no_faults hfaults (World.tables?_of_free hfree), hfound]
  simp only
  rw [hguard, Exchange.log_world, h]
  exact ⟨rfl, hworld⟩

/-- Behind the guard the tables are as they were. -/
theorem guarded_admitted (plan : Post → Except ServiceError Plan) (hfaults : x.faults = [])
    (hfree : x.world.poisoned = false) (hfound : x.world.store.post? id = some p)
    (h : admission x.world.store caller p roleName = .ok ()) :
    ∃ z, z.world = x.world ∧ z.faults = [] ∧
      guarded caller id roleName plan x =
        (Agora.Action.ofExcept (plan p) >>= Plan.finish : Action ServiceError Answer) z := by
  have hloaded : (x.log (Call.postById id)).faults = [] := Exchange.log_no_faults hfaults
  obtain ⟨z, hworld, hcalm, hguard⟩ := guardPost_of_no_faults hloaded hfree
  refine ⟨z, hworld, hcalm, ?_⟩
  rw [guarded_run, loadPost_of_no_faults hfaults (World.tables?_of_free hfree), hfound]
  simp only
  rw [hguard, Exchange.log_world, h]

theorem admission_of_forbidden {s : Store} (hrole : s.role? roleName = some role)
    (h : ¬Entitled caller p role.level) :
    admission s caller p roleName = .error (.refused .forbidden) := by
  obtain ⟨hother, hlevel⟩ := not_or.mp h
  rw [admission, if_neg hother, hrole, verdict, if_neg hlevel]

theorem admission_of_entitled {s : Store} (hrole : s.role? roleName = some role)
    (h : Entitled caller p role.level) : admission s caller p roleName = .ok () := by
  unfold admission
  by_cases howner : caller.id = p.userId
  · exact if_pos howner
  · rw [if_neg howner, hrole, verdict, if_pos (h.resolve_left howner)]

theorem guarded_forbidden (hfaults : x.faults = []) (hfree : x.world.poisoned = false)
    (hfound : x.world.store.post? id = some p) (hrole : x.world.store.role? roleName = some role)
    (h : ¬Entitled caller p role.level) :
    (guarded caller id roleName plan x).1 = .error (.refused .forbidden) ∧
      (guarded caller id roleName plan x).2.world = x.world :=
  guarded_refused hfaults hfree hfound (admission_of_forbidden hrole h)

end

/-! ## What becomes of a plan -/

section

variable {op : Operation} {roleName : String} {plan : Post → Except ServiceError Plan}
  (hrun : op.run caller = guarded caller id roleName plan) (hfaults : x.faults = [])
  (hfree : x.world.poisoned = false) (hfound : x.world.store.post? id = some p)
  (hpass : admission x.world.store caller p roleName = .ok ())

include hrun hfaults hfree hfound hpass

/-- Behind the guard an operation comes to what its plan comes to on the same tables. -/
theorem yields_planned {job : Plan} (hplan : plan p = .ok job)
    {r : Except (Stop ServiceError) Answer} {after : World}
    (hjob : ∀ z, z.world = x.world → z.faults = [] →
      ∃ y, job.finish z = (r, y) ∧ y.world = after) : op.Yields caller x r after := by
  obtain ⟨z, hworld, hcalm, hz⟩ := guarded_admitted plan hfaults hfree hfound hpass
  obtain ⟨y, hfinish, hy⟩ := hjob z hworld hcalm
  have hend : op.run caller x = (r, y) := by
    rw [hrun, hz, hplan]
    exact hfinish
  unfold Operation.Yields
  rw [hend]
  exact ⟨rfl, hy⟩

/-- If there is no plan, the tables stay as they are. -/
theorem yields_unplanned {e : ServiceError} (hplan : plan p = .error e) :
    op.Yields caller x (.error (.refused e)) x.world := by
  obtain ⟨z, hworld, _, hz⟩ := guarded_admitted plan hfaults hfree hfound hpass
  unfold Operation.Yields
  rw [hrun, hz, hplan]
  exact ⟨rfl, hworld⟩

end

/-- The seeded roles have the levels that operations need. -/
theorem asks_of_needs {s : Store} (hroles : s.roles = Store.seededRoles) (op : Operation)
    {level : Int} (h : op.needs? = some (id, level)) :
    ∃ roleName role, op.asks? = some (id, roleName) ∧ s.role? roleName = some role ∧
      role.level = level := by
  unfold Store.role?
  rw [hroles]
  cases op with
  | update _ _ =>
    cases h
    exact ⟨editRole, ⟨2, "moderator", 2, ""⟩, rfl, by decide, rfl⟩
  | delete _ =>
    cases h
    exact ⟨deleteRole, ⟨3, "admin", 3, ""⟩, rfl, by decide, rfl⟩
  | comment _ _ =>
    cases h
    exact ⟨commentRole, ⟨1, "user", 1, ""⟩, rfl, by decide, rfl⟩
  | _ => cases h

section

variable {op : Operation} {level : Int} {roleName : String}
  {plan : Post → Except ServiceError Plan} (hrun : op.run caller = guarded caller id roleName plan)
  (hasks : op.asks? = some (id, roleName)) (hneeds : op.needs? = some (id, level))
  (hfaults : x.faults = []) (hfree : x.world.poisoned = false)
  (hroles : x.world.store.roles = Store.seededRoles) (hfound : x.world.store.post? id = some p)
  (hentitled : Entitled caller p level)

include hrun hasks hneeds hfaults hfree hroles hfound hentitled

/-- An operation of somebody who is entitled comes to what its plan comes to on the same tables. -/
theorem yields_of_plan {job : Plan} (hplan : plan p = .ok job)
    {r : Except (Stop ServiceError) Answer}
    {after : World} (hjob : ∀ z, z.world = x.world → z.faults = [] →
      ∃ y, job.finish z = (r, y) ∧ y.world = after) : op.Yields caller x r after := by
  obtain ⟨_, role, hasks', hrole, rfl⟩ := asks_of_needs hroles op hneeds
  cases hasks.symm.trans hasks'
  exact yields_planned hrun hfaults hfree hfound (admission_of_entitled hrole hentitled) hplan hjob

theorem yields_of_refusal {e : ServiceError} (hplan : plan p = .error e) :
    op.Yields caller x (.error (.refused e)) x.world := by
  obtain ⟨_, role, hasks', hrole, rfl⟩ := asks_of_needs hroles op hneeds
  cases hasks.symm.trans hasks'
  exact yields_unplanned hrun hfaults hfree hfound (admission_of_entitled hrole hentitled) hplan

end

/-! ## Updates -/

/-- What the tables make of an update whose texts are fit. -/
theorem commit_of_fit {edit : PostEdit} {s : Store} (hfound : s.post? id = some p)
    (hposts : (s.posts.map (·.id)).Nodup) (hfit : ∀ e, ¬UnfitEdit edit e) (now : Time.Instant) :
    ∃ c, (Commit.ofEdit p edit).map Plan.commit = .ok (.commit c) ∧ c.id = id ∧
      s.updatePost now c.id c.version c.title c.content =
        if edit.version = p.version then
          if p.version = Int32.maxValue ∨ now.second < 0 then .broken { s with
            posts := s.posts.map fun q => if q.id = id then breakEdit edit p else q }
          else .ok (applyEdit now edit p, { s with
            posts := s.posts.map fun q => if q.id = id then applyEdit now edit p else q })
        else .error .notFound := by
  have hid := Store.id_of_post? hfound
  refine ⟨_, congrArg (Except.map Plan.commit) (ofEdit_eq_ok hfit), hid, ?_⟩
  simp only
  rw [hid, Store.updatePost_of_found hposts hfound]
  by_cases hversion : edit.version = p.version
  · rw [if_pos hversion, if_pos hversion, hversion]
    by_cases hlast : p.version = Int32.maxValue
    · rw [if_pos hlast, if_pos (Or.inl hlast)]
      unfold breakEdit
      rw [if_pos hlast]
      rfl
    · rw [if_neg hlast]
      by_cases hearly : now.second < 0
      · rw [if_pos hearly, if_pos (Or.inr hearly)]
        unfold breakEdit
        rw [if_neg hlast]
        rfl
      · rw [if_neg hearly, if_neg (not_or.mpr ⟨hlast, hearly⟩)]
        rfl
  · rw [if_neg hversion, if_neg hversion]

theorem run_get (reader : User) (id : Int) (x : Exchange World Call) :
    ((Operation.get id).run reader x).1 = (getPost id x).1.map .thread := by
  show ((getPost id >>= fun thread => pure (.thread thread) : Action ServiceError Answer) x).1 = _
  rw [Agora.Action.bind_run]
  cases getPost id x with
  | mk r y => cases r <;> rfl

section

variable {edit : PostEdit} {draft : CommentDraft} (hfaults : x.faults = [])
  (hfree : x.world.poisoned = false) (hroles : x.world.store.roles = Store.seededRoles)
  (hfound : x.world.store.post? id = some p)

section

variable (hposts : (x.world.store.posts.map (·.id)).Nodup) (hentitled : Entitled caller p 2)
  (hfit : ∀ e, ¬UnfitEdit edit e)

include hfaults hfree hroles hfound hposts hentitled hfit

theorem update_of_stale (hversion : edit.version ≠ p.version) :
    (Operation.update id edit).Yields caller x
      (.error (.refused (.conflict ("post " ++ Decimal.text id ++ " was modified concurrently"))))
      x.world := by
  obtain ⟨c, hcommit, hid, hrow⟩ := commit_of_fit hfound hposts hfit x.world.now
  rw [if_neg hversion] at hrow
  refine yields_of_plan (run_update caller id edit) rfl rfl hfaults hfree hroles hfound hentitled
    hcommit ?_
  intro z hworld hcalm
  rw [← hworld] at hrow
  rw [← hid]
  let change := fun (w : World) (s : Store) => s.updatePost w.now c.id c.version c.title c.content
  have hfinish : (Plan.commit c).finish z = _ :=
    change_error change hcalm (hworld ▸ hfree) hrow
  exact ⟨_, hfinish, hworld⟩

variable (hversion : edit.version = p.version)

include hversion

theorem update_of_broken (hbroken : p.version = Int32.maxValue ∨ x.world.now.second < 0) :
    (Operation.update id edit).Yields caller x (.error .abandoned)
      { x.world with
        poisoned := true
        store := { x.world.store with
          posts := x.world.store.posts.map fun q =>
            if q.id = id then breakEdit edit p else q } } := by
  obtain ⟨c, hcommit, hid, hrow⟩ := commit_of_fit hfound hposts hfit x.world.now
  rw [if_pos hversion, if_pos hbroken] at hrow
  refine yields_of_plan (run_update caller id edit) rfl rfl hfaults hfree hroles hfound hentitled
    hcommit ?_
  intro z hworld hcalm
  rw [← hworld] at hrow ⊢
  let change := fun (w : World) (s : Store) => s.updatePost w.now c.id c.version c.title c.content
  exact ⟨_, change_broken change hcalm (hworld ▸ hfree) hrow, rfl⟩

variable (hnext : p.version ≠ Int32.maxValue) (hclock : 0 ≤ x.world.now.second)

include hnext hclock

theorem update_of_current :
    (Operation.update id edit).Yields caller x (.ok (.post (applyEdit x.world.now edit p)))
      { x.world with store := { x.world.store with
          posts := x.world.store.posts.map fun q =>
            if q.id = id then applyEdit x.world.now edit p else q } } := by
  obtain ⟨c, hcommit, hid, hrow⟩ := commit_of_fit hfound hposts hfit x.world.now
  rw [if_pos hversion, if_neg (not_or.mpr ⟨hnext, Int.not_lt.mpr hclock⟩)] at hrow
  refine yields_of_plan (run_update caller id edit) rfl rfl hfaults hfree hroles hfound hentitled
    hcommit ?_
  intro z hworld hcalm
  rw [← hworld] at hrow ⊢
  let change := fun (w : World) (s : Store) => s.updatePost w.now c.id c.version c.title c.content
  exact ⟨_, change_ok change hcalm (hworld ▸ hfree) hrow, rfl⟩

/-- In an exchange that goes on from there the post is what everybody gets. -/
theorem get_of_updated (reader : User) {y : Exchange World Call}
    (hy : y.world = ((Operation.update id edit).run caller x).2.world) (hcalm : y.faults = []) :
    ((Operation.get id).run reader y).1 =
      .ok (.thread ⟨applyEdit x.world.now edit p, x.world.store.commentsOf id⟩) := by
  have hworld := (update_of_current hfaults hfree hroles hfound hposts hentitled hfit hversion hnext
    hclock).2
  rw [← hy] at hworld
  have htables : y.world.tables? = some y.world.store :=
    World.tables?_of_free (by rw [hworld]; exact hfree)
  have hid : p.id = id := Store.id_of_post? hfound
  have hreplaced : y.world.store.post? id = some (applyEdit x.world.now edit p) := by
    rw [hworld]
    exact Store.post?_replaced hfound hid
  have hcomments : y.world.store.commentsOf id = x.world.store.commentsOf id := by
    rw [hworld]
    rfl
  rw [run_get, getPost_of_no_faults hcalm htables hreplaced, hcomments]
  rfl

end

/-! ## Deletes and comments -/

include hfaults hfree hroles hfound

theorem delete_of_found (hentitled : Entitled caller p 3) :
    (Operation.delete id).Yields caller x (.ok .done)
      { x.world with store := { x.world.store with
          posts := x.world.store.posts.filter (·.id ≠ id)
          comments := x.world.store.comments.filter (·.postId ≠ id) } } := by
  refine yields_of_plan (run_delete caller id) rfl rfl hfaults hfree hroles hfound hentitled rfl ?_
  intro z hworld hcalm
  have hrow := Store.deletePost_of_found hfound
  rw [← hworld] at hrow ⊢
  let change := fun (_ : World) (s : Store) => s.deletePost id
  exact ⟨_, change_ok change hcalm (hworld ▸ hfree) hrow, rfl⟩

variable (hentitled : Entitled caller p 1) (hfit : ∀ e, ¬Unfit "content" draft.content 1000 e)
  {author : User} (hauthor : x.world.store.user? caller.id = some author)

include hentitled hfit hauthor

theorem comment_of_fit (hclock : 0 ≤ x.world.now.second) :
    let c : Comment := {
      id := x.world.store.lastId + 1, postId := id, userId := caller.id
      username := author.username, content := draft.content, createdAt := x.world.now }
    (Operation.comment id draft).Yields caller x (.ok (.comment c))
      { x.world with store := { x.world.store with
          comments := x.world.store.comments ++ [c], lastId := c.id } } := by
  have hplan : checkContent draft.content = .ok () := checkText_eq_ok.mpr hfit
  refine yields_of_plan (run_comment caller id draft) rfl rfl hfaults hfree hroles hfound hentitled
    (congrArg (Except.map _) hplan) ?_
  intro z hworld hcalm
  have hrow : x.world.store.createComment x.world.now ⟨id, caller.id, draft.content⟩ = _ :=
    Store.createComment_of_found hfound hauthor draft.content
  rw [Store.addComment, if_neg (Int.not_lt.mpr hclock)] at hrow
  rw [← hworld] at hrow ⊢
  let change := fun (w : World) (s : Store) => s.createComment w.now ⟨id, caller.id, draft.content⟩
  exact ⟨_, change_ok change hcalm (hworld ▸ hfree) hrow, rfl⟩

theorem comment_of_early (hclock : x.world.now.second < 0) :
    (Operation.comment id draft).Yields caller x (.error .abandoned)
      { x.world with
        poisoned := true
        store := { x.world.store with lastId := x.world.store.lastId + 1 } } := by
  have hplan : checkContent draft.content = .ok () := checkText_eq_ok.mpr hfit
  refine yields_of_plan (run_comment caller id draft) rfl rfl hfaults hfree hroles hfound hentitled
    (congrArg (Except.map _) hplan) ?_
  intro z hworld hcalm
  have hrow : x.world.store.createComment x.world.now ⟨id, caller.id, draft.content⟩ = _ :=
    Store.createComment_of_found hfound hauthor draft.content
  rw [Store.addComment, if_pos hclock] at hrow
  rw [← hworld] at hrow ⊢
  let change := fun (w : World) (s : Store) => s.createComment w.now ⟨id, caller.id, draft.content⟩
  exact ⟨_, change_broken change hcalm (hworld ▸ hfree) hrow, rfl⟩

end

/-! ## All three -/

theorem run_sequential (hfaults : x.faults = []) (hfree : x.world.poisoned = false)
    (hroles : x.world.store.roles = Store.seededRoles) (hdistinct : x.world.store.ids.Nodup)
    (caller : User) : Sequential x caller := by
  have hposts := Store.posts_nodup_of_ids hdistinct
  have husers := Store.users_nodup_of_ids hdistinct
  refine ⟨?absent, ?forbidden, ?unfit, ?stale, ?updated, ?got, ?updateBroken, ?deleted,
    ?uncommented, ?commented, ?commentBroken⟩
  case absent =>
    intro op id level hneeds hnone
    obtain ⟨roleName, role, hasks, -, -⟩ := asks_of_needs hroles op hneeds
    obtain ⟨plan, hrun⟩ := run_of_asks hasks
    unfold Operation.Yields
    rw [hrun, guarded_absent hfaults hfree hnone]
    exact ⟨rfl, rfl⟩
  case forbidden =>
    intro op id level p hneeds hfound hnot
    obtain ⟨roleName, role, hasks, hrole, rfl⟩ := asks_of_needs hroles op hneeds
    obtain ⟨plan, hrun⟩ := run_of_asks hasks
    unfold Operation.Yields
    rw [hrun]
    exact guarded_forbidden hfaults hfree hfound hrole hnot
  case unfit =>
    intro id edit p e hfound hentitled hunfit
    exact yields_of_refusal (run_update caller id edit) rfl rfl hfaults hfree hroles hfound
      hentitled (congrArg (Except.map Plan.commit) (ofEdit_eq_error.mpr hunfit))
  case stale =>
    intro id edit p hfound hentitled hfit hversion
    exact update_of_stale hfaults hfree hroles hfound hposts hentitled hfit hversion
  case updated =>
    intro id edit p hfound hentitled hfit hversion hnext hclock
    exact update_of_current hfaults hfree hroles hfound hposts hentitled hfit hversion hnext hclock
  case got =>
    intro id edit p hfound hentitled hfit hversion hnext hclock reader y hy hcalm
    exact get_of_updated hfaults hfree hroles hfound hposts hentitled hfit hversion hnext hclock
      reader hy hcalm
  case updateBroken =>
    intro id edit p hfound hentitled hfit hversion hbroken
    exact update_of_broken hfaults hfree hroles hfound hposts hentitled hfit hversion hbroken
  case deleted =>
    intro id p hfound hentitled
    exact delete_of_found hfaults hfree hroles hfound hentitled
  case uncommented =>
    intro id draft p e hfound hentitled hunfit
    exact yields_of_refusal (run_comment caller id draft) rfl rfl hfaults hfree hroles hfound
      hentitled (congrArg (Except.map _) (checkText_eq_error.mpr hunfit))
  case commented =>
    intro id draft p author hfound hentitled hfit hauthor hcaller hclock
    exact comment_of_fit hfaults hfree hroles hfound hentitled hfit
      (hcaller ▸ Store.user?_of_mem_of_nodup husers hauthor) hclock
  case commentBroken =>
    intro id draft p author hfound hentitled hfit hauthor hcaller hclock
    exact comment_of_early hfaults hfree hroles hfound hentitled hfit
      (hcaller ▸ Store.user?_of_mem_of_nodup husers hauthor) hclock

/-! ## One exchange -/

/-- An exchange on the sample tables in which nothing goes wrong. -/
def sampleExchange : Exchange World Call where
  world := { store := sampleTables, cache := none, now := noon }
  deadline := none

/-- Ada revises the title of her post, which keeps the rest, and may not touch that of Bob. -/
theorem run_sequential_sampleExchange :
    sampleExchange.faults = [] ∧ sampleExchange.world.poisoned = false ∧
      sampleExchange.world.store.roles = Store.seededRoles ∧
      sampleExchange.world.store.ids.Nodup ∧ Sequential sampleExchange (memberNamed 101 "ada") ∧
      ((Operation.update 104 { title := some "Hi", content := none, version := 0 }).run
        (memberNamed 101 "ada") sampleExchange).1 =
          .ok (.post ⟨104, "Hi", "First.", 101, [], 1, noon, noon⟩) ∧
      ((Operation.delete 105).run (memberNamed 101 "ada") sampleExchange).1 =
        .error (.refused .forbidden) := by
  have hdistinct : sampleExchange.world.store.ids.Nodup := by decide
  exact ⟨rfl, rfl, rfl, hdistinct, run_sequential rfl rfl rfl hdistinct _, by decide, by decide⟩

end Agora.Social
