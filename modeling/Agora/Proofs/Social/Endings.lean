import Agora.Proofs.Social.Operations
import Agora.Proofs.Store.Texts
import Agora.Proofs.Text.LowerCase

/-!
# How an operation ends

An operation that writes `Settles`: it fails and leaves the world as it was, or it succeeds, its
texts being fit, and makes its change of the tables, or it breaks down in that change and leaves the
tables locked. There is no fourth way: a success is never without its change, and no error comes
with one. `run_cases` puts this together with the operations that read.
-/

namespace Agora.Social

variable {x y z : Exchange World Call} {caller : User} {op : Operation}

/-! ## Texts that are checked -/

/-- The texts that an operation brings in, if it brings in any, are fit. -/
def Operation.IsFit : Operation → Prop
  | .create draft => Text.IsFit draft.title 100 ∧ Text.IsFit draft.content 1000
  | .update _ edit =>
    (∀ title, edit.title = some title → Text.IsFit title 100) ∧
      ∀ content, edit.content = some content → Text.IsFit content 1000
  | .comment _ draft => Text.IsFit draft.content 1000
  | .get _ | .delete _ | .follow _ | .unfollow _ | .profile _ | .feed _ => True

theorem checkText_ok_iff {field text : String} {longest : Nat} :
    checkText field text longest = .ok () ↔ Text.IsFit text longest := by
  unfold checkText
  simp only [List.isEmpty_iff, Text.trim_eq_nil]
  constructor
  · intro h
    split at h
    next => cases h
    next hblank =>
      split at h
      next => cases h
      next hlong => exact ⟨by simpa using hblank, Nat.le_of_not_lt hlong⟩
  · intro h
    obtain ⟨⟨c, hc, hvisible⟩, hshort⟩ := h
    rw [if_neg, if_neg (Nat.not_lt.mpr hshort)]
    intro hblank
    rw [hblank c hc] at hvisible
    cases hvisible

theorem checkGiven_ok_iff {check : String → Except ServiceError Unit} {given : Option String} :
    checkGiven check given = .ok () ↔ ∀ text, given = some text → check text = .ok () := by
  cases given with
  | none => simp [checkGiven]
  | some text => simp [checkGiven]

/-- An edit is prepared exactly if its texts are fit. -/
theorem isFit_of_ofEdit {p : Post} {id : Int} {edit : PostEdit} {c : Commit}
    (h : Commit.ofEdit p edit = .ok c) : (Operation.update id edit).IsFit := by
  rw [Commit.ofEdit_eq] at h
  obtain ⟨_, htitle, h⟩ := Result.bind_eq_ok.mp h
  obtain ⟨_, hcontent, _⟩ := Result.bind_eq_ok.mp h
  refine ⟨?_, ?_⟩
  · intro title hgiven
    exact checkText_ok_iff.mp (checkGiven_ok_iff.mp htitle title hgiven)
  · intro content hgiven
    exact checkText_ok_iff.mp (checkGiven_ok_iff.mp hcontent content hgiven)

/-! ## Three ways to end -/

/-- What comes of an operation that writes: its result, and the world that is left. -/
inductive Settles (x : Exchange World Call) (caller : User) (op : Operation) :
    Except (Stop ServiceError) Answer → World → Prop
  | fails (e : Stop ServiceError) : Settles x caller op (.error e) x.world
  | succeeds {answer : Answer} {store : Store} (hfit : op.IsFit)
      (hchange : Changes x caller op answer store) :
      Settles x caller op (.ok answer) { x.world with store }
  | breaks {store : Store} (hfit : op.IsFit) (hbreak : Breaks x caller op store) :
      Settles x caller op (.error .abandoned) { x.world with store, poisoned := true }

section

variable {α : Type} {form : α → Answer}

/-- To give an answer a form does not change how an action ends. -/
theorem settles_of_form {a : Action ServiceError α} {r : Except (Stop ServiceError) Answer}
    (h : (do return form (← a)) x = (r, y))
    (ha : ∀ {r'}, a x = (r', y) → Settles x caller op (r'.map form) y.world) :
    Settles x caller op r y.world := by
  obtain ⟨e, hrun, rfl⟩ | ⟨v, z, hrun, h⟩ := Agora.Action.bind_eq h
  · exact ha hrun
  · obtain ⟨rfl, rfl⟩ := Prod.mk.inj h
    exact ha hrun

/-- The last call of an operation fails, or it makes the change, or it breaks down in it. -/
theorem settles_of_write {c : Call} {f : Failure → ServiceError}
    {change : World → Store → Ending Store StoreError α} {r : Except (Stop ServiceError) α}
    (h : (Agora.Action.write c (fun w => w.onStore (change w))).mapError f z = (r, y))
    (hz : z.world = x.world) (hfit : op.IsFit)
    (hchange : ∀ {a store}, change x.world x.world.store = .ok (a, store) →
      Changes x caller op (form a) store)
    (hbreak : ∀ {store}, change x.world x.world.store = .broken store →
      Breaks x caller op store) : Settles x caller op (r.map form) y.world := by
  cases r with
  | ok a =>
    obtain ⟨store, hrow, hworld⟩ := writeStore_ok h
    rw [hz] at hrow hworld
    rw [hworld]
    exact .succeeds hfit (hchange hrow)
  | error stop =>
    cases stop with
    | refused e =>
      rw [writeStore_refused h, hz]
      exact .fails _
    | abandoned =>
      obtain ⟨_, hworld⟩ | ⟨store, hrow, hworld⟩ := writeStore_abandoned h
      · rw [hworld, hz]
        exact .fails _
      · rw [hz] at hrow hworld
        rw [hworld]
        exact .breaks hfit (hbreak hrow)

end

/-! ## Each operation -/

theorem settles_createPost {draft : PostDraft} {r : Except (Stop ServiceError) Post}
    (h : createPost caller draft x = (r, y)) :
    Settles x caller (.create draft) (r.map .post) y.world := by
  unfold createPost at h
  obtain ⟨_, _, rfl, rfl⟩ | ⟨_, htitle, h⟩ := Agora.Action.ofExcept_bind_eq h
  · exact .fails _
  obtain ⟨_, _, rfl, rfl⟩ | ⟨_, hcontent, h⟩ := Agora.Action.ofExcept_bind_eq h
  · exact .fails _
  exact settles_of_write h rfl ⟨checkText_ok_iff.mp htitle, checkText_ok_iff.mp hcontent⟩
    .create .create

theorem settles_updatePost {id : Int} {edit : PostEdit} {r : Except (Stop ServiceError) Post}
    (h : updatePost caller id edit x = (r, y)) :
    Settles x caller (.update id edit) (r.map .post) y.world := by
  unfold updatePost at h
  obtain ⟨_, hprepare, rfl⟩ | ⟨c, z, hprepare, hcommit⟩ := Agora.Action.bind_eq h
  · -- the change could not be prepared
    obtain ⟨_, hworld⟩ | ⟨p, z, _, _, hz, hedit⟩ := guarded_cases hprepare
    · rw [hworld]
      exact .fails _
    · rw [(Agora.Action.ofExcept_eq hedit).2, hz]
      exact .fails _
  · obtain ⟨⟨_, he⟩, _⟩ | ⟨p, v, hfound, hmay, hv, hedit⟩ := guarded_cases hprepare
    · cases he
    obtain ⟨hcommitted, rfl⟩ := Agora.Action.ofExcept_eq_ok hedit
    exact settles_of_write hcommit hv (isFit_of_ofEdit hcommitted)
      (.update hfound hmay hcommitted) (.update hfound hmay hcommitted)

theorem settles_deletePost {id : Int} {r : Except (Stop ServiceError) Unit}
    (h : deletePost caller id x = (r, y)) :
    Settles x caller (.delete id) (r.map fun _ => .done) y.world := by
  obtain ⟨⟨_, rfl⟩, hworld⟩ | ⟨p, v, hfound, hmay, hv, h⟩ := guarded_cases h
  · rw [hworld]
    exact .fails _
  · exact settles_of_write h hv trivial (.delete hfound hmay) fun hrow =>
      absurd hrow Store.deletePost_broken

theorem settles_commentPost {id : Int} {draft : CommentDraft}
    {r : Except (Stop ServiceError) Comment} (h : commentPost caller id draft x = (r, y)) :
    Settles x caller (.comment id draft) (r.map .comment) y.world := by
  obtain ⟨⟨_, rfl⟩, hworld⟩ | ⟨p, v, hfound, hmay, hv, h⟩ := guarded_cases h
  · rw [hworld]
    exact .fails _
  obtain ⟨_, _, rfl, rfl⟩ | ⟨_, hcontent, h⟩ := Agora.Action.ofExcept_bind_eq h
  · rw [hv]
    exact .fails _
  · exact settles_of_write h hv (checkText_ok_iff.mp hcontent) (.comment hfound hmay)
      (.comment hfound hmay)

theorem settles_follow {id : Int} {r : Except (Stop ServiceError) Unit}
    (h : Social.follow caller id x = (r, y)) :
    Settles x caller (.follow id) (r.map fun _ => .done) y.world := by
  unfold Social.follow at h
  split at h
  next =>
    obtain ⟨rfl, rfl⟩ := Prod.mk.inj h
    exact .fails _
  next hother =>
    exact settles_of_write h rfl trivial (.follow hother) fun hrow =>
      absurd hrow Store.follow_broken

theorem settles_unfollow {id : Int} {r : Except (Stop ServiceError) Unit}
    (h : Social.unfollow caller id x = (r, y)) :
    Settles x caller (.unfollow id) (r.map fun _ => .done) y.world :=
  settles_of_write h rfl trivial .unfollow fun hrow => absurd hrow Store.unfollow_broken

/-- An operation that settles has come to one of its ends. -/
theorem Settles.ends {r : Except (Stop ServiceError) Answer} (h : Settles x caller op r y.world) :
    Ends x caller op r y := by
  unfold Ends
  generalize y.world = after at h ⊢
  cases h with
  | fails e => exact Or.inl rfl
  | succeeds _ hchange => exact Or.inr (Or.inr (Or.inl ⟨_, _, rfl, hchange, rfl⟩))
  | breaks _ hbreak => exact Or.inr (Or.inr (Or.inr ⟨_, rfl, hbreak, rfl⟩))

/-- All that a run of an operation can come to. -/
theorem run_cases {r : Except (Stop ServiceError) Answer} (h : op.run caller x = (r, y)) :
    Ends x caller op r y := by
  cases op with
  | create draft => exact (settles_of_form h settles_createPost).ends
  | get id =>
    obtain ⟨_, hrun, _⟩ | ⟨_, z, hrun, h⟩ := Agora.Action.bind_eq h
    · exact Or.inl (getPost_world hrun)
    · obtain ⟨_, rfl⟩ := Prod.mk.inj h
      exact Or.inl (getPost_world hrun)
  | update id edit => exact (settles_of_form h settles_updatePost).ends
  | delete id => exact (settles_of_form h settles_deletePost).ends
  | comment id draft => exact (settles_of_form h settles_commentPost).ends
  | follow id => exact (settles_of_form h settles_follow).ends
  | unfollow id => exact (settles_of_form h settles_unfollow).ends
  | profile id =>
    obtain ⟨_, hrun, _⟩ | ⟨_, z, hrun, h⟩ := Agora.Action.bind_eq h
    · obtain ⟨_, hrun⟩ := Agora.Action.mapError_run hrun
      exact Or.inr (Or.inl ⟨id, rfl, (resolve_cases hrun).1⟩)
    · obtain ⟨_, rfl⟩ := Prod.mk.inj h
      obtain ⟨_, hrun⟩ := Agora.Action.mapError_run hrun
      exact Or.inr (Or.inl ⟨id, rfl, (resolve_cases hrun).1⟩)
  | feed params =>
    obtain ⟨_, hrun, _⟩ | ⟨_, z, hrun, h⟩ := Agora.Action.bind_eq h
    · exact Or.inl (feed_world hrun)
    · obtain ⟨_, rfl⟩ := Prod.mk.inj h
      exact Or.inl (feed_world hrun)

end Agora.Social
