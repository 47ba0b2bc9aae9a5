import Agora.Proofs.Social.Integrity
import Agora.Proofs.Social.Locking

/-!
# Only fit texts are stored

Main result: `runSteps_wellFormed`. Whatever a session does over the seeded tables, and whatever
faults it meets, the posts and comments that are stored are well formed, as long as none is planted.
An operation that brings in a text that is not fit is refused and changes nothing.

A title or a content is looked at by three operations: a creation and a comment check all that they
store, and an update what its edit gives. What an edit does not give is written back from the post
as it was loaded, so that an update keeps well-formed tables well formed only because they were so
before.
-/

namespace Agora.Social

variable {f : Front} {w : World} {terms : Terms} {step : Step} {x : Exchange World Call}
  {caller : User} {op : Operation} {answer : Answer} {store : Store}

/-! ## One step -/

/-- The step puts a text into the tables without asking the service. -/
def Step.plantsText : Step → Bool
  | .plantPost .. | .plantComment _ => true
  | _ => false

theorem isFit_getD {given : Option String} {old : String} {longest : Nat}
    (hgiven : ∀ text, given = some text → Text.IsFit text longest)
    (hold : Text.IsFit old longest) : Text.IsFit (given.getD old) longest := by
  cases given with
  | none => exact hold
  | some text => exact hgiven text rfl

/-- A commit has the texts of its edit, and those of the post where the edit gives none. -/
theorem isFit_commit {p : Post} {id : Int} {edit : PostEdit} {c : Commit} (hp : p.WellFormed)
    (hfit : (Operation.update id edit).IsFit) (hcommit : Commit.ofEdit p edit = .ok c) :
    Text.IsFit c.title 100 ∧ Text.IsFit c.content 1000 := by
  rw [Commit.eq_of_ofEdit hcommit]
  exact ⟨isFit_getD hfit.1 hp.title, isFit_getD hfit.2 hp.content⟩

/-- A change that brings in fit texts. -/
theorem wellFormed_of_changes (hs : x.world.store.WellFormed) (hfit : op.IsFit)
    (h : Changes x caller op answer store) : store.WellFormed := by
  cases h with
  | create hrow => exact hs.createPost hrow hfit.1 hfit.2 rfl
  | @update _ _ p _ c _ hfound _ hcommit hrow =>
    obtain ⟨htitle, hcontent⟩ := isFit_commit (hs.posts p (List.mem_of_find?_eq_some hfound)) hfit
      hcommit
    obtain ⟨_, hf, rfl⟩ := Store.updatePost_ok hrow
    exact hs.editPost hf htitle hcontent
  | delete _ _ hrow => exact hs.deletePost hrow
  | comment _ _ hrow => exact hs.createComment hrow hfit
  | follow _ hrow =>
    rw [Store.follow_ok hrow]
    exact hs.of_eq rfl rfl
  | unfollow hrow =>
    rw [Store.unfollow_ok hrow]
    exact hs.of_eq rfl rfl

/-- What breaks down in a change has not brought in any other texts. -/
theorem wellFormed_of_breaks (hs : x.world.store.WellFormed) (hfit : op.IsFit)
    (h : Breaks x caller op store) : store.WellFormed := by
  cases h with
  | create hrow =>
    rw [(Store.createPost_broken hrow).2]
    exact hs
  | @update _ _ p c _ hfound _ hcommit hrow =>
    obtain ⟨_, hf, rfl, _⟩ := Store.updatePost_broken hrow
    obtain ⟨htitle, hcontent⟩ := isFit_commit (hs.posts p (List.mem_of_find?_eq_some hfound)) hfit
      hcommit
    exact hs.editPost hf htitle hcontent
  | comment _ _ hrow =>
    rw [(Store.createComment_broken hrow).2]
    exact hs.of_eq rfl rfl

theorem Step.wellFormed (hs : w.store.WellFormed) (hstep : step.plantsText = false) :
    (step.run f w terms).2.2.store.WellFormed := by
  have hway := Step.way f w terms step
  generalize step.deed? f w terms = deed? at hway
  generalize (step.run f w terms).2.2.store = after at hway ⊢
  cases hway with
  | keeps _ => exact hs
  | does hx _ hfit hchange =>
    rw [← hx.store] at hs
    exact wellFormed_of_changes hs hfit hchange
  | breaks hx _ hfit hbreak =>
    rw [← hx.store] at hs
    exact wellFormed_of_breaks hs hfit hbreak
  | plantsUser hrow => exact hs.addUser hrow
  | plantsPost new time => cases hstep
  | plantsComment hrow => cases hstep
  | plantsFollow follower followed => exact hs.of_eq rfl rfl
  | skips => exact hs.of_eq rfl rfl

theorem runSteps_texts {steps : List (Terms × Step)} (hs : w.store.WellFormed)
    (h : ∀ s ∈ steps, s.2.plantsText = false) : (runSteps f w steps).2.store.WellFormed := by
  induction steps generalizing w with
  | nil => exact hs
  | cons s rest ih =>
    obtain ⟨hstep, hrest⟩ := List.forall_mem_cons.mp h
    exact ih (Step.wellFormed hs hstep) hrest

/-! ## What is refused -/

/-- An operation with a text that is not fit, in an exchange: it fails and changes nothing, and a
creation does not even make a call. -/
structure Refused (x : Exchange World Call) (caller : User) (op : Operation) : Prop where
  error : ∃ e, (op.run caller x).1 = .error e
  /-- The failure is an error that is told, unless nobody gets the tables any more. -/
  answered : x.world.poisoned = false → (op.run caller x).1 ≠ .error .abandoned
  world : (op.run caller x).2.world = x.world
  silent : ∀ draft, op = .create draft → (op.run caller x).2 = x

theorem createPost_silent {draft : PostDraft} {r : Except (Stop ServiceError) Post}
    {y : Exchange World Call} (h : createPost caller draft x = (r, y))
    (hunfit : ¬(Operation.create draft).IsFit) : y = x := by
  unfold createPost at h
  obtain ⟨_, _, _, rfl⟩ | ⟨_, htitle, h⟩ := Agora.Action.ofExcept_bind_eq h
  · rfl
  obtain ⟨_, _, _, rfl⟩ | ⟨_, hcontent, _⟩ := Agora.Action.ofExcept_bind_eq h
  · rfl
  exact absurd ⟨checkText_ok_iff.mp htitle, checkText_ok_iff.mp hcontent⟩ hunfit

theorem refused_of_unfit (caller : User) (x : Exchange World Call) (h : ¬op.IsFit) :
    Refused x caller op := by
  have hwrites : op.reads = false := by
    cases op with
    | get id => exact absurd trivial h
    | profile id => exact absurd trivial h
    | feed params => exact absurd trivial h
    | _ => rfl
  cases hrun : op.run caller x with
  | mk r y =>
    have hfails : (∃ e, r = .error e) ∧ y.world = x.world := by
      have hsettles := run_settles hrun hwrites
      generalize y.world = after at hsettles ⊢
      cases hsettles with
      | fails e => exact ⟨⟨e, rfl⟩, rfl⟩
      | succeeds hfit _ => exact absurd hfit h
      | breaks hfit _ => exact absurd hfit h
    refine ⟨?_, ?_, ?_, ?_⟩
    · rw [hrun]
      exact hfails.1
    · -- what is given up leaves the tables locked, and they are as before
      intro hfree
      rw [hrun, Ne, locking_run caller op hrun hfree, hfails.2, hfree]
      exact Bool.false_ne_true
    · rw [hrun]
      exact hfails.2
    · rintro draft rfl
      rw [hrun]
      obtain ⟨_, hcreate, _⟩ | ⟨_, z, hcreate, hz⟩ := Agora.Action.bind_eq hrun
      · exact createPost_silent hcreate h
      · obtain ⟨_, rfl⟩ := Prod.mk.inj hz
        exact createPost_silent hcreate h

/-- A request for a creation that is refused makes no call but those of finding its caller. -/
theorem handle_silent {q : Http.Request} {t : Http.Target} {draft : PostDraft}
    {r : Except (Stop ServiceError) Answer}
    (hdeed : f.deed? q t x = some ⟨caller, .create draft, r⟩)
    (h : ¬(Operation.create draft).IsFit) : (f.handle q t x).2 = (f.caller q x).2 := by
  obtain ⟨hnone, -⟩ | ⟨r, u, op, z, hcaller, hsome, -, hhandle⟩ := handle_deed f q t x
  · rw [hnone] at hdeed
    cases hdeed
  · rw [hsome] at hdeed
    obtain ⟨rfl, rfl, _⟩ := Deed.mk.inj (Option.some.inj hdeed)
    rw [hhandle, hcaller]
    exact (refused_of_unfit u z h).silent draft rfl

/-- A step that comes to an operation with a text that is not fit. -/
theorem Step.keeps_of_unfit {d : Deed} (hdeed : step.deed? f w terms = some d)
    (h : ¬d.op.IsFit) : w.Keeps (step.run f w terms).2.2 := by
  cases step with
  | operate u op =>
    obtain rfl := Option.some.inj hdeed
    exact .of_eq (refused_of_unfit u (terms.opening w) h).world
  | request q t =>
    rw [Step.run_request]
    obtain ⟨-, hworld⟩ | ⟨r, u, op, z, -, hsome, hz, hhandle⟩ :=
      handle_deed f q t (terms.opening w)
    · exact hworld
    · obtain rfl := Option.some.inj (hsome.symm.trans hdeed)
      rw [hhandle]
      exact hz.trans (.of_eq (refused_of_unfit u z h).world)
  | _ => cases hdeed

/-! ## Whole sessions -/

/-- A service on a world that lets no text in that is not fit. -/
structure Vetted (f : Front) (w : World) : Prop where
  /-- Every post and every comment is well formed. -/
  stored : w.store.WellFormed
  refused : ∀ (x : Exchange World Call) (caller : User) (op : Operation),
    ¬op.IsFit → Refused x caller op
  /-- Over HTTP too, whatever the limits and the faults. -/
  kept : ∀ terms step d, Step.deed? f w terms step = some d → ¬d.op.IsFit →
    w.Keeps (step.run f w terms).2.2
  silent : ∀ (x : Exchange World Call) q t caller draft r,
    f.deed? q t x = some ⟨caller, .create draft, r⟩ → ¬(Operation.create draft).IsFit →
      (f.handle q t x).2 = (f.caller q x).2

/-- Every session on the seeded tables in which no text is planted. -/
theorem runSteps_wellFormed (f : Front) (cache : Option (List (Int × User))) (now : Time.Instant)
    (steps : List (Terms × Step)) (h : ∀ s ∈ steps, s.2.plantsText = false) :
    Vetted f (runSteps f (.seeded cache now) steps).2 where
  stored := runSteps_texts (.of_empty rfl rfl) h
  refused := fun x caller _ hunfit => refused_of_unfit caller x hunfit
  kept := fun _ _ _ hdeed hunfit => Step.keeps_of_unfit hdeed hunfit
  silent := fun _ _ _ _ _ _ hdeed hunfit => handle_silent hdeed hunfit

/-- A post is made, its content is changed twice, the second time to nothing but blanks, and it is
commented on. -/
def carefulSession : List (Terms × Step) :=
  [({}, .plantUser "ada" "user"),
    ({}, .operate (memberNamed 101 "ada") (.create ⟨"Hello", "First.", [" tea ", "tea"]⟩)),
    ({}, .operate (memberNamed 101 "ada") (.update 102 ⟨none, some "Second.", 0⟩)),
    ({}, .operate (memberNamed 101 "ada") (.update 102 ⟨none, some " \t", 1⟩)),
    ({}, .operate (memberNamed 101 "ada") (.comment 102 ⟨"Welcome."⟩))]

theorem runSteps_wellFormed_carefulSession :
    (∀ s ∈ carefulSession, s.2.plantsText = false) ∧
      Vetted sampleFront (runSteps sampleFront (.seeded none noon) carefulSession).2 ∧
      (runSteps sampleFront (.seeded none noon) carefulSession).2.store.posts.map
        (fun p => (p.title, p.content, p.tags)) = [("Hello", "Second.", ["tea"])] := by
  have hcareful : ∀ s ∈ carefulSession, s.2.plantsText = false := by
    simp [carefulSession, Step.plantsText]
  exact ⟨hcareful, runSteps_wellFormed sampleFront none noon carefulSession hcareful,
    by decide +kernel⟩

end Agora.Social
