import Agora.Proofs.Result
import Agora.Proofs.Social.Resolver
import Agora.Social.Operation

/-!
# What an operation can do

One lemma for each part of the service says all that a run of the part can come to. An operation
leaves the world as it is (a profile may also put a user into the cache), or it succeeds and changes
the tables in the one way that `Changes` names, or it breaks down in that change (`Breaks`) and
leaves the tables locked. A change of a post that is there is in either only together with
`MayChange`: the caller owns the post, or the lookup of the role that the change asks for answered,
in this very run, with a role that is not above the caller's.
-/

namespace Agora.Social

variable {x y : Exchange World Call}

/-! ## Who may change what -/

/-- What the lookup of a role answers in an exchange. -/
def roleAnswer (x : Exchange World Call) (roleName : String) :
    Except (Stop Failure) (Option Role) :=
  (Agora.Action.lookup (Call.roleByName roleName) (fun w => w.tables?.map (·.role? roleName)) x).1

/-- The role lookup never makes a role up. -/
theorem role?_of_roleAnswer {roleName : String} {role : Role}
    (h : roleAnswer x roleName = .ok (some role)) : x.world.store.role? roleName = some role := by
  unfold roleAnswer at h
  cases hl : Agora.Action.lookup (Call.roleByName roleName)
      (fun w => w.tables?.map (·.role? roleName)) x with
  | mk r y =>
    rw [hl] at h
    obtain ⟨_, _, ⟨failure, hr⟩ | hr | ⟨_, hr⟩ | ⟨_, hanswer, hr⟩⟩ := Agora.Action.lookup_cases hl
    · rw [hr] at h
      cases h
    · rw [hr] at h
      cases h
    · rw [hr] at h
      cases h
    · rw [hr] at h
      cases h
      exact (World.map_tables?_eq_some.mp hanswer).2

/-- The caller owns what belongs to `owner`, or the role lookup that follows in the exchange finds
a role whose level the caller has. -/
def MayAct (x : Exchange World Call) (caller : User) (owner : Int) (roleName : String) : Prop :=
  caller.id = owner ∨
    ∃ role, roleAnswer x roleName = .ok (some role) ∧ role.name = roleName ∧
      role.level ≤ caller.role.level

/-- `MayAct` for a post, at the place of an operation at which it is asked: after the post was
loaded. -/
def MayChange (x : Exchange World Call) (caller : User) (p : Post) (roleName : String) : Prop :=
  MayAct (loadPost p.id x).2 caller p.userId roleName

/-- Asking who may act changes nothing, and the answer is yes only if `MayAct` holds. -/
theorem authorize_cases {caller : User} {owner : Int} {roleName : String}
    {r : Except (Stop AccessError) Bool} (h : authorize caller owner roleName x = (r, y)) :
    y.world = x.world ∧ (r = .ok true → MayAct x caller owner roleName) := by
  unfold authorize at h
  split at h
  next hown =>
    -- for the owner no role is looked up
    obtain ⟨rfl, rfl⟩ := Prod.mk.inj h
    exact ⟨rfl, fun _ => Or.inl hown⟩
  next =>
    obtain ⟨e, ha, rfl⟩ | ⟨found, z, ha, h⟩ := Agora.Action.bind_eq h
    · obtain ⟨_, hl, _⟩ | ⟨_, hl, _⟩ := Agora.Action.mapError_eq ha
      · exact ⟨(Agora.Action.lookup_cases hl).1, by simp⟩
      · exact ⟨(Agora.Action.lookup_cases hl).1, by simp⟩
    · obtain ⟨_, _, hr⟩ | ⟨answer, hl, hr⟩ := Agora.Action.mapError_eq ha
      · cases hr
      · cases hr
        have hw := (Agora.Action.lookup_cases hl).1
        have hanswer : roleAnswer x roleName = .ok found := by
          unfold roleAnswer
          rw [hl]
        cases found with
        | none =>
          obtain ⟨rfl, rfl⟩ := Prod.mk.inj h
          exact ⟨hw, by simp⟩
        | some role =>
          obtain ⟨rfl, rfl⟩ := Prod.mk.inj h
          refine ⟨hw, fun hyes => Or.inr ⟨role, hanswer, ?_, ?_⟩⟩
          · exact Store.name_of_role? (role?_of_roleAnswer hanswer)
          · simpa using hyes

/-- A post that is loaded is the one that the store has under its id. -/
theorem loadPost_cases {id : Int} {r : Except (Stop ServiceError) Post}
    (h : loadPost id x = (r, y)) :
    y.world = x.world ∧
      ((∃ e, r = .error e) ∨ ∃ p, r = .ok p ∧ x.world.store.post? id = some p) := by
  unfold loadPost at h
  obtain ⟨e, ha, rfl⟩ | ⟨found, z, ha, h⟩ := Agora.Action.bind_eq h
  · obtain ⟨_, hl, _⟩ | ⟨_, _, hr⟩ := Agora.Action.mapError_eq ha
    · exact ⟨(Agora.Action.lookup_cases hl).1, Or.inl ⟨e, rfl⟩⟩
    · cases hr
  · obtain ⟨_, _, hr⟩ | ⟨answer, hl, hr⟩ := Agora.Action.mapError_eq ha
    · cases hr
    · cases hr
      obtain ⟨hw, _, hfound⟩ := Agora.Action.lookup_cases hl
      cases found with
      | none =>
        obtain ⟨rfl, rfl⟩ := Prod.mk.inj h
        exact ⟨hw, Or.inl ⟨_, rfl⟩⟩
      | some p =>
        obtain ⟨rfl, rfl⟩ := Prod.mk.inj h
        refine ⟨hw, Or.inr ⟨p, rfl, ?_⟩⟩
        obtain ⟨_, hr⟩ | hr | ⟨_, hr⟩ | ⟨_, hanswer, hr⟩ := hfound
        · cases hr
        · cases hr
        · cases hr
        · cases hr
          exact (World.map_tables?_eq_some.mp hanswer).2

/-- The guard changes nothing and lets pass only who may act. -/
theorem guardPost_cases {caller : User} {p : Post} {roleName : String}
    {r : Except (Stop ServiceError) Unit} (h : guardPost caller p roleName x = (r, y)) :
    y.world = x.world ∧
      ((∃ e, r = .error e) ∨ (r = .ok () ∧ MayAct x caller p.userId roleName)) := by
  unfold guardPost at h
  obtain ⟨e, ha, rfl⟩ | ⟨allowed, z, ha, h⟩ := Agora.Action.bind_eq h
  · obtain ⟨_, hl, _⟩ | ⟨_, _, hr⟩ := Agora.Action.mapError_eq ha
    · exact ⟨(authorize_cases hl).1, Or.inl ⟨e, rfl⟩⟩
    · cases hr
  · obtain ⟨_, _, hr⟩ | ⟨answer, hl, hr⟩ := Agora.Action.mapError_eq ha
    · cases hr
    · cases hr
      obtain ⟨hw, hmay⟩ := authorize_cases hl
      cases allowed with
      | false =>
        obtain ⟨rfl, rfl⟩ := Prod.mk.inj h
        exact ⟨hw, Or.inl ⟨_, rfl⟩⟩
      | true =>
        obtain ⟨rfl, rfl⟩ := Prod.mk.inj h
        exact ⟨hw, Or.inr ⟨rfl, hmay rfl⟩⟩

/-! ## Changing the tables -/

section

variable {α : Type} {c : Call} {f : Failure → ServiceError}
  {change : World → Store → Ending Store StoreError α}

/-- A writing call on the tables that succeeds puts new tables into the world. -/
theorem writeStore_ok {a : α}
    (h : (Agora.Action.write c (fun w => w.onStore (change w))).mapError f x = (.ok a, y)) :
    ∃ store, change x.world x.world.store = .ok (a, store) ∧ y.world = { x.world with store } := by
  obtain ⟨_, _, hr⟩ | ⟨_, hw, hr⟩ := Agora.Action.mapError_eq h
  · cases hr
  cases hr
  obtain ⟨_, ⟨_, hr, _⟩ | ⟨_, heffect, hr⟩ | ⟨_, hr⟩⟩ := Agora.Action.write_cases hw
  · cases hr
  · cases hr
    exact (World.onStore_eq_ok heffect).2
  · cases hr

/-- One that is given up found the tables locked, or broke down in the middle and locked them. -/
theorem writeStore_abandoned
    (h : (Agora.Action.write c (fun w => w.onStore (change w))).mapError f x =
      (.error .abandoned, y)) :
    (x.world.poisoned = true ∧ y.world = x.world) ∨
      ∃ store, change x.world x.world.store = .broken store ∧
        y.world = { x.world with store, poisoned := true } := by
  obtain ⟨stop, hw, hr⟩ | ⟨_, _, hr⟩ := Agora.Action.mapError_eq h
  · cases stop with
    | refused e => cases hr
    | abandoned =>
      obtain ⟨_, ⟨_, hr, _⟩ | ⟨_, _, hr⟩ | ⟨heffect, _⟩⟩ := Agora.Action.write_cases hw
      · cases hr
      · cases hr
      · exact (World.onStore_eq_broken heffect).imp_right And.right
  · cases hr

/-- A writing call on the tables that fails leaves the world as it was. -/
theorem writeStore_refused {e : ServiceError}
    (h : (Agora.Action.write c (fun w => w.onStore (change w))).mapError f x =
      (.error (.refused e), y)) : y.world = x.world := by
  obtain ⟨stop, hw, hr⟩ | ⟨_, _, hr⟩ := Agora.Action.mapError_eq h
  · cases stop with
    | refused failure =>
      obtain ⟨_, ⟨_, _, hworld⟩ | ⟨_, _, hr⟩ | ⟨_, hr⟩⟩ := Agora.Action.write_cases hw
      · exact hworld
      · cases hr
      · cases hr
    | abandoned => cases hr
  · cases hr

end

/-- The row that is made from a draft. -/
def PostDraft.row (caller : User) (draft : PostDraft) : Store.NewPost where
  userId := caller.id
  title := draft.title
  content := draft.content
  tags := Tag.clean draft.tags

/-- The one way in which an operation that succeeds changes the tables. `x` is the exchange as it
was when the operation began. -/
inductive Changes (x : Exchange World Call) (caller : User) : Operation → Answer → Store → Prop
  | create {draft : PostDraft} {p : Post} {store : Store}
      (hrow : x.world.store.createPost x.world.now (PostDraft.row caller draft) = .ok (p, store)) :
      Changes x caller (.create draft) (.post p) store
  | update {id : Int} {edit : PostEdit} {p q : Post} {c : Commit} {store : Store}
      (hfound : x.world.store.post? id = some p) (hmay : MayChange x caller p editRole)
      (hcommit : Commit.ofEdit p edit = .ok c)
      (hrow : x.world.store.updatePost x.world.now c.id c.version c.title c.content =
        .ok (q, store)) :
      Changes x caller (.update id edit) (.post q) store
  | delete {id : Int} {p : Post} {store : Store}
      (hfound : x.world.store.post? id = some p) (hmay : MayChange x caller p deleteRole)
      (hrow : x.world.store.deletePost id = .ok ((), store)) :
      Changes x caller (.delete id) .done store
  | comment {id : Int} {draft : CommentDraft} {p : Post} {c : Comment} {store : Store}
      (hfound : x.world.store.post? id = some p) (hmay : MayChange x caller p commentRole)
      (hrow : x.world.store.createComment x.world.now ⟨id, caller.id, draft.content⟩ =
        .ok (c, store)) :
      Changes x caller (.comment id draft) (.comment c) store
  | follow {id : Int} {store : Store} (hother : caller.id ≠ id)
      (hrow : x.world.store.follow caller.id id = .ok ((), store)) :
      Changes x caller (.follow id) .done store
  | unfollow {id : Int} {store : Store}
      (hrow : x.world.store.unfollow caller.id id = .ok ((), store)) :
      Changes x caller (.unfollow id) .done store

/-- The one way in which an operation breaks down in its change of the tables. -/
inductive Breaks (x : Exchange World Call) (caller : User) : Operation → Store → Prop
  | create {draft : PostDraft} {store : Store}
      (hrow : x.world.store.createPost x.world.now (PostDraft.row caller draft) = .broken store) :
      Breaks x caller (.create draft) store
  | update {id : Int} {edit : PostEdit} {p : Post} {c : Commit} {store : Store}
      (hfound : x.world.store.post? id = some p) (hmay : MayChange x caller p editRole)
      (hcommit : Commit.ofEdit p edit = .ok c)
      (hrow : x.world.store.updatePost x.world.now c.id c.version c.title c.content =
        .broken store) :
      Breaks x caller (.update id edit) store
  | comment {id : Int} {draft : CommentDraft} {p : Post} {store : Store}
      (hfound : x.world.store.post? id = some p) (hmay : MayChange x caller p commentRole)
      (hrow : x.world.store.createComment x.world.now ⟨id, caller.id, draft.content⟩ =
        .broken store) :
      Breaks x caller (.comment id draft) store

/-- Whatever breaks down leaves the tables in one of few ways. -/
theorem Breaks.remains {caller : User} {op : Operation} {store : Store}
    (h : Breaks x caller op store) : Store.Remains x.world.store store := by
  cases h with
  | create hrow =>
    rw [(Store.createPost_broken hrow).2]
    exact .same
  | update _ _ _ hrow =>
    obtain ⟨_, hf, rfl, _⟩ := Store.updatePost_broken hrow
    exact .edited hf
  | comment _ _ hrow =>
    rw [(Store.createComment_broken hrow).2]
    exact .skipped

/-- Checks a text if it is given. -/
def checkGiven (check : String → Except ServiceError Unit) :
    Option String → Except ServiceError Unit
  | none => .ok ()
  | some text => check text

theorem checkGiven_eq_error {check : String → Except ServiceError Unit} {given : Option String}
    {e : ServiceError} :
    checkGiven check given = .error e ↔ ∃ text, given = some text ∧ check text = .error e := by
  cases given with
  | none => simp [checkGiven]
  | some text => simp [checkGiven]

/-- The texts of an edit are checked in their order, and the rest is no question. -/
theorem Commit.ofEdit_eq (p : Post) (edit : PostEdit) :
    Commit.ofEdit p edit = (do
      checkGiven checkTitle edit.title
      checkGiven checkContent edit.content
      return { id := p.id, version := edit.version, title := edit.title.getD p.title,
               content := edit.content.getD p.content }) := by
  unfold Commit.ofEdit
  cases edit.title <;> cases edit.content <;> rfl

/-- A commit is for the post as it was loaded; it carries the version that the change names, and
the fields of the post where the change names none. -/
theorem Commit.eq_of_ofEdit {p : Post} {edit : PostEdit} {c : Commit}
    (h : Commit.ofEdit p edit = .ok c) :
    c = { id := p.id, version := edit.version, title := edit.title.getD p.title,
          content := edit.content.getD p.content } := by
  rw [ofEdit_eq] at h
  obtain ⟨_, _, h⟩ := Result.bind_eq_ok.mp h
  obtain ⟨_, _, h⟩ := Result.bind_eq_ok.mp h
  exact (Except.ok.inj h).symm

/-- What a run of an operation came to: nothing but perhaps the cache is changed, and the cache
only by a profile; or the operation succeeded and made its change of the tables; or it broke down in
that change. -/
def Ends (x : Exchange World Call) (caller : User) (op : Operation)
    (r : Except (Stop ServiceError) Answer) (y : Exchange World Call) : Prop :=
  y.world = x.world ∨
    (∃ id, op = .profile id ∧ y.world = { x.world with cache := y.world.cache }) ∨
    (∃ answer store, r = .ok answer ∧ Changes x caller op answer store ∧
      y.world = { x.world with store }) ∨
    ∃ store, r = .error .abandoned ∧ Breaks x caller op store ∧
      y.world = { x.world with store, poisoned := true }

/-- Every change of a post that is there begins with loading it and passing the guard. -/
theorem guarded_cases {α : Type} {caller : User} {id : Int} {roleName : String}
    {next : Post → Action ServiceError α} {r : Except (Stop ServiceError) α}
    (h : (do
      let p ← loadPost id
      guardPost caller p roleName
      next p) x = (r, y)) :
    ((∃ e, r = .error e) ∧ y.world = x.world) ∨
      ∃ p z, x.world.store.post? id = some p ∧ MayChange x caller p roleName ∧
        z.world = x.world ∧ next p z = (r, y) := by
  -- the post is loaded
  obtain ⟨e, hload, hr⟩ | ⟨p, z, hload, h⟩ := Agora.Action.bind_eq h
  · exact Or.inl ⟨⟨e, hr⟩, (loadPost_cases hload).1⟩
  obtain ⟨hz, ⟨e, he⟩ | ⟨_, hp, hfound⟩⟩ := loadPost_cases hload
  · cases he
  cases hp
  -- the guard decides on the post as it was loaded
  obtain ⟨e, hguard, hr⟩ | ⟨_, v, hguard, h⟩ := Agora.Action.bind_eq h
  · exact Or.inl ⟨⟨e, hr⟩, (guardPost_cases hguard).1.trans hz⟩
  obtain ⟨hv, ⟨e, he⟩ | ⟨_, hmay⟩⟩ := guardPost_cases hguard
  · cases he
  · refine Or.inr ⟨p, v, hfound, ?_, hv.trans hz, h⟩
    unfold MayChange
    rw [Store.id_of_post? hfound, hload]
    exact hmay

/-! ## Reading -/

theorem getPost_world {id : Int} {r : Except (Stop ServiceError) Thread}
    (h : getPost id x = (r, y)) : y.world = x.world := by
  unfold getPost at h
  obtain ⟨_, hload, _⟩ | ⟨p, z, hload, h⟩ := Agora.Action.bind_eq h
  · exact (loadPost_cases hload).1
  have hz := (loadPost_cases hload).1
  obtain ⟨_, hread, _⟩ | ⟨_, v, hread, h⟩ := Agora.Action.bind_eq h
  · obtain ⟨_, hread⟩ := Agora.Action.mapError_run hread
    exact (Agora.Action.read_cases hread).1.trans hz
  · obtain ⟨_, rfl⟩ := Prod.mk.inj h
    obtain ⟨_, hread⟩ := Agora.Action.mapError_run hread
    exact (Agora.Action.read_cases hread).1.trans hz

theorem feed_world {caller : User} {params : Feed.Params}
    {r : Except (Stop ServiceError) (List FeedItem)} (h : Social.feed caller params x = (r, y)) :
    y.world = x.world := by
  unfold Social.feed at h
  cases hquery : params.query with
  | error e =>
    rw [hquery] at h
    obtain ⟨_, rfl⟩ := Prod.mk.inj h
    rfl
  | ok query =>
    rw [hquery] at h
    obtain ⟨_, hread⟩ := Agora.Action.mapError_run h
    exact (Agora.Action.read_cases hread).1

end Agora.Social
