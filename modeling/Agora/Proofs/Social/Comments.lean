import Agora.Proofs.Social.Locking
import Agora.Proofs.Social.Sequential
import Agora.Proofs.Store.Comments

/-!
# Comments are kept

Main result: `runSteps_comments`. After any session over the seeded tables a post that is there
comes with exactly the comments that were made on it in the session, as they were answered, in the
order of their times and ids; and what was said about a post that was removed is never shown again.

A comment that is made at a time before 1970 is not answered, and leaves the tables locked. It is
not there then, but nor is anything else that was said: no post comes with its comments any more
(`thread_lost_before_1970`).

The rows of comments on a post grow by what a deed adds to them and by nothing else, as long as no
deed removes the post (`Step.rowsOn`, and `rowsOn_runSteps` for a session). A post that is there at
the end was not removed before: under an id that was handed out, what is gone stays gone
(`runSteps_removed`).
-/

namespace Agora.Social

variable {f : Front} {w : World} {terms : Terms} {step : Step} {x y : Exchange World Call}
  {caller reader : User} {op : Operation} {answer : Answer} {store : Store} {id : Int} {p : Post}

/-! ## What deeds add and remove -/

/-- The comment on a post that a deed has made, if it has made one. -/
def Deed.comment? (d : Deed) (id : Int) : Option Comment :=
  match d.op, d.result with
  | .comment about _, .ok (.comment c) => if about = id then some c else none
  | _, _ => none

/-- The deed has removed a post. -/
def Deed.Removes (d : Deed) (id : Int) : Prop :=
  d.op = .delete id ∧ ∃ answer, d.result = .ok answer

/-- The comments on a post that were made, as they were answered. -/
def commentsMade (done : List Deed) (id : Int) : List Comment := done.filterMap (·.comment? id)

theorem comment?_of_idle (id : Int) (d : Deed) (h : d.Idle) : d.comment? id = none := by
  unfold Deed.comment?
  obtain hreads | ⟨e, hresult⟩ := h
  · cases hop : d.op with
    | comment about draft =>
      rw [hop] at hreads
      cases hreads
    | _ => rfl
  · rw [hresult]
    cases d.op <;> rfl

/-! ## One step -/

/-- The rows on a post grow by what the operation answers, if it comments on that post. -/
theorem rowsOn_of_changes (h : Changes x caller op answer store) (hkept : op ≠ .delete id) :
    store.rowsOn id =
      x.world.store.rowsOn id ++ (Deed.comment? ⟨caller, op, .ok answer⟩ id).toList := by
  cases h with
  | create hrow =>
    obtain ⟨_, _, _, rfl⟩ := Store.createPost_ok hrow
    exact (List.append_nil _).symm
  | update _ _ _ hrow =>
    obtain ⟨_, _, rfl⟩ := Store.updatePost_ok hrow
    exact (List.append_nil _).symm
  | @delete removed _ _ _ _ hrow =>
    have hother : id ≠ removed := fun hid => hkept (congrArg Operation.delete hid.symm)
    rw [Store.rowsOn_deletePost hrow hother]
    exact (List.append_nil _).symm
  | @comment about draft _ c _ _ _ hrow =>
    rw [Store.rowsOn_createComment hrow id]
    unfold Deed.comment?
    by_cases habout : about = id
    · simp [habout]
    · simp [habout]
  | follow _ hrow =>
    rw [Store.rowsOn_congr (by rw [Store.follow_ok hrow])]
    exact (List.append_nil _).symm
  | unfollow hrow =>
    rw [Store.rowsOn_congr (by rw [Store.unfollow_ok hrow])]
    exact (List.append_nil _).symm

theorem Step.rowsOn (f : Front) (w : World) (terms : Terms) (hstep : step.bypasses = false)
    (hkept : ∀ d, step.deed? f w terms = some d → ¬d.Removes id) :
    (step.run f w terms).2.2.store.rowsOn id =
      w.store.rowsOn id ++ ((step.deed? f w terms).bind (·.comment? id)).toList := by
  have hway := Step.way f w terms step
  generalize step.deed? f w terms = deed? at hway hkept ⊢
  generalize (step.run f w terms).2.2.store = after at hway ⊢
  cases hway with
  | keeps hidle =>
    rw [bind_of_idle (comment?_of_idle id) hidle]
    exact (List.append_nil _).symm
  | @does _ d x answer _ hx hresult _ hchange =>
    have hother : d.op ≠ .delete id := fun hop => hkept d rfl ⟨hop, answer, hresult⟩
    have hd : (⟨d.caller, d.op, .ok answer⟩ : Deed) = d := by rw [← hresult]
    rw [Option.bind_some, ← hx.store, rowsOn_of_changes hchange hother, hd]
  | @breaks _ d _ _ hx hresult _ hbreak =>
    rw [Option.bind_some, comment?_of_idle id d (Or.inr ⟨_, hresult⟩), ← hx.store,
      Store.rowsOn_congr hbreak.remains.comments]
    exact (List.append_nil _).symm
  | plantsUser hrow =>
    obtain ⟨_, rfl⟩ := Store.addUser_ok hrow
    exact (List.append_nil _).symm
  | plantsPost new time => cases hstep
  | plantsComment hrow => cases hstep
  | plantsFollow follower followed => cases hstep
  | skips => exact (List.append_nil _).symm

theorem Step.later (f : Front) (w : World) (terms : Terms) (hstep : step.bypasses = false) :
    Store.Later w.store (step.run f w terms).2.2.store := by
  obtain hsame | ⟨_, _, _, hadd⟩ | ⟨x, _, _, _, hx, hchange⟩ | hremains :=
    Step.store_cases f w terms hstep
  · rw [hsame]
    exact .refl _
  · exact .of_addUser hadd
  · rw [← hx]
    exact (writes_of_changes hchange).later
  · exact .of_remains hremains

/-- A post that a step removes had an id that was handed out, and is gone. -/
theorem Step.removed (hs : w.store.Numbered) {d : Deed} (hdeed : step.deed? f w terms = some d)
    (hremoves : d.Removes id) :
    id ≤ w.store.lastId ∧ (step.run f w terms).2.2.store.post? id = none := by
  obtain ⟨hop, answer, hresult⟩ := hremoves
  have hway := Step.way f w terms step
  rw [hdeed] at hway
  generalize (step.run f w terms).2.2.store = after at hway ⊢
  cases hway with
  | keeps hidle =>
    obtain hreads | ⟨e, herror⟩ := hidle d rfl
    · rw [hop] at hreads
      cases hreads
    · rw [hresult] at herror
      cases herror
  | does hx _ _ hchange =>
    rw [hop] at hchange
    cases hchange with
    | delete hfound _ hrow =>
      refine ⟨?_, ?_⟩
      · rw [hx.store] at hfound
        have hle := hs.post_le (List.mem_of_find?_eq_some hfound)
        rwa [Store.id_of_post? hfound] at hle
      · rw [Store.post?_deletePost hrow]
        exact if_pos rfl
  | breaks _ hbroken _ _ =>
    rw [hresult] at hbroken
    cases hbroken

/-! ## Sessions -/

theorem runSteps_later {steps : List (Terms × Step)} (h : ∀ s ∈ steps, s.2.bypasses = false) :
    Store.Later w.store (runSteps f w steps).2.store := by
  induction steps generalizing w with
  | nil => exact .refl _
  | cons s rest ih =>
    obtain ⟨hstep, hrest⟩ := List.forall_mem_cons.mp h
    exact (Step.later f w s.1 hstep).trans (ih hrest)

/-- What a session has removed is not there at its end. -/
theorem runSteps_removed {steps : List (Terms × Step)} (hs : w.store.Numbered)
    (h : ∀ s ∈ steps, s.2.bypasses = false) {d : Deed} (hd : d ∈ deeds f w steps)
    (hremoves : d.Removes id) : (runSteps f w steps).2.store.post? id = none := by
  induction steps generalizing w with
  | nil => cases hd
  | cons s rest ih =>
    obtain ⟨terms, step⟩ := s
    obtain ⟨hstep, hrest⟩ := List.forall_mem_cons.mp h
    rcases List.mem_append.mp hd with hfirst | hlater
    · obtain ⟨hid, hnone⟩ := Step.removed hs (Option.mem_toList.mp hfirst) hremoves
      have hcounter := (Step.later f w terms hstep).counter
      exact (runSteps_later hrest).post?_none (Int.le_trans hid hcounter) hnone
    · exact ih (hs.of_counts (Step.counts hstep)) hrest hlater

/-- The rows on a post that is not removed grow by what is said about it. -/
theorem rowsOn_runSteps {steps : List (Terms × Step)} (h : ∀ s ∈ steps, s.2.bypasses = false)
    (hkept : ∀ d ∈ deeds f w steps, ¬d.Removes id) :
    (runSteps f w steps).2.store.rowsOn id =
      w.store.rowsOn id ++ commentsMade (deeds f w steps) id := by
  induction steps generalizing w with
  | nil => exact (List.append_nil _).symm
  | cons s rest ih =>
    obtain ⟨terms, step⟩ := s
    obtain ⟨hstep, hrest⟩ := List.forall_mem_cons.mp h
    rw [deeds] at hkept
    obtain ⟨hfirst, hlater⟩ := List.forall_mem_append.mp hkept
    have hrows := Step.rowsOn f w terms hstep fun d hd => hfirst d (Option.mem_toList.mpr hd)
    show (runSteps f (step.run f w terms).2.2 rest).2.store.rowsOn id = _
    rw [ih hrest hlater, hrows, commentsMade, commentsMade, filterMap_deeds, List.append_assoc]

/-! ## Threads -/

/-- A post is got with the comments that the tables have. -/
theorem get_of_ok {t : Thread} (h : ((Operation.get id).run reader x).1 = .ok (.thread t)) :
    ∃ p, x.world.store.post? id = some p ∧ t = ⟨p, x.world.store.commentsOf id⟩ := by
  rw [run_get] at h
  cases hget : getPost id x with
  | mk r y =>
    rw [hget] at h
    obtain ⟨_, _, rfl⟩ | ⟨p, z, hload, hrest⟩ := Agora.Action.bind_eq hget
    · cases h
    obtain ⟨hz, ⟨_, he⟩ | ⟨q, hq, hfound⟩⟩ := loadPost_cases hload
    · cases he
    cases hq
    obtain ⟨_, _, rfl⟩ | ⟨cs, _, hread, hok⟩ := Agora.Action.bind_eq hrest
    · cases h
    obtain ⟨rfl, -⟩ := Prod.mk.inj hok
    obtain ⟨_, _, he⟩ | ⟨_, hread, hcs⟩ := Agora.Action.mapError_eq hread
    · cases he
    cases hcs
    obtain ⟨-, -, ⟨_, he⟩ | ⟨_, he⟩ | ⟨_, hanswer, hcs⟩⟩ := Agora.Action.read_cases hread
    · cases he
    · cases he
    · refine ⟨p, hfound, ?_⟩
      rw [← hz, (World.map_tables?_eq_some.mp hanswer).2, ← Except.ok.inj hcs]
      exact (Answer.thread.inj (Except.ok.inj h)).symm

/-- No fault is to come that a get can meet. -/
def SparesGet (x : Exchange World Call) : Prop :=
  ∀ fault ∈ x.faults, fault.target ≠ "posts.get_by_id" ∧ fault.target ≠ "comments.get_by_post_id"

theorem get_of_spares (hspares : SparesGet x) (hfree : x.world.poisoned = false)
    (hfound : x.world.store.post? id = some p) :
    ((Operation.get id).run reader x).1 = .ok (.thread ⟨p, x.world.store.commentsOf id⟩) := by
  have hpost : x.Spares (Call.postById id) :=
    Exchange.spares_of_forall fun fault hfault => (hspares fault hfault).1
  have hcomments : (x.log (Call.postById id)).Spares (Call.commentsByPost id) :=
    Exchange.spares_of_forall fun fault hfault =>
      (hspares fault (Exchange.mem_of_mem_takeFault hfault)).2
  rw [run_get, getPost_of_spares hpost hcomments (World.tables?_of_free hfree) hfound]
  rfl

theorem get_of_locked (hspares : SparesGet x) (hlocked : x.world.poisoned = true) :
    ((Operation.get id).run reader x).1 = .error .abandoned := by
  have hpost : x.Spares (Call.postById id) :=
    Exchange.spares_of_forall fun fault hfault => (hspares fault hfault).1
  rw [run_get]
  unfold getPost
  rw [Agora.Action.bind_run, loadPost_of_spares hpost, World.tables?_of_poisoned hlocked]
  rfl

theorem comment?_eq_some {d : Deed} {c : Comment} (h : d.comment? id = some c) :
    ∃ draft, d.op = .comment id draft ∧ d.result = .ok (.comment c) := by
  unfold Deed.comment? at h
  split at h
  next about draft made hop hresult =>
    split at h
    next habout =>
      subst habout
      obtain rfl := Option.some.inj h
      exact ⟨draft, hop, hresult⟩
    next => cases h
  next => cases h

theorem Step.postId_of_comment {d : Deed} {c : Comment} (hdeed : step.deed? f w terms = some d)
    (h : d.comment? id = some c) : c.postId = id := by
  obtain ⟨draft, hop, hresult⟩ := comment?_eq_some h
  have hway := Step.way f w terms step
  rw [hdeed] at hway
  generalize (step.run f w terms).2.2.store = after at hway
  cases hway with
  | keeps hidle =>
    rw [comment?_of_idle id d (hidle d rfl)] at h
    cases h
  | does _ hanswer _ hchange =>
    obtain rfl := Except.ok.inj (hanswer.symm.trans hresult)
    rw [hop] at hchange
    cases hchange with
    | comment _ _ hrow => exact (Store.createComment_ok hrow).1
  | breaks _ hbroken _ _ =>
    rw [hresult] at hbroken
    cases hbroken

/-- What was said about a post names it. -/
theorem postId_of_commentsMade {steps : List (Terms × Step)} {c : Comment}
    (hc : c ∈ commentsMade (deeds f w steps) id) : c.postId = id := by
  induction steps generalizing w with
  | nil => cases hc
  | cons s rest ih =>
    obtain ⟨terms, step⟩ := s
    unfold commentsMade at hc
    rw [filterMap_deeds] at hc
    rcases List.mem_append.mp hc with hfirst | hlater
    · obtain ⟨d, hdeed, hd⟩ := Option.bind_eq_some_iff.mp (Option.mem_toList.mp hfirst)
      exact Step.postId_of_comment hdeed hd
    · exact ih hlater

/-! ## What is shown -/

/-- Comments as a thread has to show them. -/
structure InThread (made cs : List Comment) : Prop where
  /-- Each comment that was made is there once, and no other. -/
  once : cs.Perm made
  /-- The latest stands first, and of those of one time the one with the greatest id. -/
  ordered : cs.Pairwise Comment.Above

/-- What becomes of the comments of a session. -/
structure CommentsKept (f : Front) (w : World) (steps : List (Terms × Step)) : Prop where
  /-- A get that meets no fault shows the comments that were made on the post, as they were
  answered, if the tables can be had; and whatever it meets, it shows nothing else. -/
  shown : ∀ id p, (runSteps f w steps).2.store.post? id = some p →
    ∃ cs, InThread (commentsMade (deeds f w steps) id) cs ∧
      ∀ (reader : User) (x : Exchange World Call), x.world.store = (runSteps f w steps).2.store →
        (SparesGet x → x.world.poisoned = false →
          ((Operation.get id).run reader x).1 = .ok (.thread ⟨p, cs⟩)) ∧
          ∀ t, ((Operation.get id).run reader x).1 = .ok (.thread t) → t = ⟨p, cs⟩
  /-- They can unless something broke down in a change of posts or comments. -/
  free : Safe f w steps → (runSteps f w steps).2.poisoned = false
  /-- Then no get is answered any more. -/
  lost : ∀ (reader : User) (id : Int) (x : Exchange World Call), x.world.poisoned = true →
    SparesGet x → ((Operation.get id).run reader x).1 = .error .abandoned
  /-- Another step changes the thread only by a comment on the post or by removing the post. -/
  stays : ∀ terms step id, Step.bypasses step = false →
    (∀ d, step.deed? f (runSteps f w steps).2 terms = some d →
      d.comment? id = none ∧ ¬d.Removes id) →
        (step.run f (runSteps f w steps).2 terms).2.2.store.commentsOf id =
          (runSteps f w steps).2.store.commentsOf id
  /-- Once a post was removed, it is not there, and no get of any post shows what was said about
  it. -/
  gone : ∀ id, ∀ d ∈ deeds f w steps, d.Removes id →
    (runSteps f w steps).2.store.post? id = none ∧
      ∀ c ∈ commentsMade (deeds f w steps) id, ∀ (reader : User) (i : Int)
        (x : Exchange World Call) (t : Thread), x.world.store = (runSteps f w steps).2.store →
          ((Operation.get i).run reader x).1 = .ok (.thread t) → c ∉ t.comments

/-- Every session of the service on seeded tables, however the clock moves and whatever fails. -/
theorem runSteps_comments (f : Front) (cache : Option (List (Int × User))) (now : Time.Instant)
    (steps : List (Terms × Step)) (h : ∀ s ∈ steps, s.2.bypasses = false) :
    CommentsKept f (.seeded cache now) steps where
  shown := by
    intro id p hfound
    have hsound := runSteps_sound (f := f) (w := .seeded cache now) Store.sound_seeded h
    -- what is there now was not removed on the way
    have hkept : ∀ d ∈ deeds f (.seeded cache now) steps, ¬d.Removes id := by
      intro d hd hremoves
      rw [runSteps_removed Store.sound_seeded.toNumbered h hd hremoves] at hfound
      cases hfound
    have hrows := rowsOn_runSteps h hkept
    refine ⟨(runSteps f (.seeded cache now) steps).2.store.commentsOf id, ⟨?once, ?ordered⟩, ?got⟩
    case once =>
      have hperm := Store.commentsOf_perm (runSteps f (.seeded cache now) steps).2.store id
      rwa [hrows] at hperm
    case ordered => exact Store.commentsOf_ordered hsound.distinct id
    case got =>
      intro reader x hx
      rw [← hx] at hfound ⊢
      refine ⟨fun hspares hfree => get_of_spares hspares hfree hfound, ?_⟩
      intro t ht
      obtain ⟨q, hq, rfl⟩ := get_of_ok ht
      obtain rfl := Option.some.inj (hfound.symm.trans hq)
      rfl
  free := runSteps_free rfl
  lost := fun _ _ _ hlocked hspares => get_of_locked hspares hlocked
  stays := by
    intro terms step id hstep hidle
    have hrows := Step.rowsOn f (runSteps f (.seeded cache now) steps).2 terms hstep
      fun d hd => (hidle d hd).2
    have hnone : (step.deed? f (runSteps f (.seeded cache now) steps).2 terms).bind
        (·.comment? id) = none := by
      rw [Option.bind_eq_none_iff]
      exact fun d hd => (hidle d hd).1
    rw [hnone, Option.toList_none, List.append_nil] at hrows
    exact Store.commentsOf_congr hrows
  gone := by
    intro id d hd hremoves
    have hnone := runSteps_removed Store.sound_seeded.toNumbered h hd hremoves
    refine ⟨hnone, ?_⟩
    intro c hc reader i x t hx ht hshown
    obtain ⟨p, hp, rfl⟩ := get_of_ok ht
    have hpostId := (Store.mem_rowsOn.mp ((Store.commentsOf_perm _ i).mem_iff.mp hshown)).2
    -- the comment names the post that was removed, and the post that was got
    rw [postId_of_commentsMade hc] at hpostId
    rw [hx, ← hpostId, hnone] at hp
    cases hp

/-- Two comments on one post, the second of them after the clock was put back, and one on another
post, which is then removed. -/
def livelySession : List (Terms × Step) :=
  [({}, .plantUser "ada" "user"),
    ({}, .operate (memberNamed 101 "ada") (.create ⟨"Hello", "First.", []⟩)),
    ({}, .operate (memberNamed 101 "ada") (.create ⟨"Again", "Second.", []⟩)),
    ({}, .operate (memberNamed 101 "ada") (.comment 102 ⟨"Welcome."⟩)),
    ({}, .setClock ⟨1704106800, 0, by decide⟩),
    ({}, .operate (memberNamed 101 "ada") (.comment 102 ⟨"Hello?"⟩)),
    ({}, .operate (memberNamed 101 "ada") (.comment 103 ⟨"No."⟩)),
    ({}, .operate (memberNamed 101 "ada") (.delete 103))]

theorem runSteps_comments_livelySession :
    (∀ s ∈ livelySession, s.2.bypasses = false) ∧
      CommentsKept sampleFront (.seeded none noon) livelySession ∧
      (commentsMade (deeds sampleFront (.seeded none noon) livelySession) 102).map (·.id) =
        [104, 105] ∧
      (runSteps sampleFront (.seeded none noon) livelySession).2.store.comments.map (·.id) =
        [104, 105] := by
  have hlively : ∀ s ∈ livelySession, s.2.bypasses = false := by
    simp [livelySession, Step.bypasses]
  exact ⟨hlively, runSteps_comments sampleFront none noon livelySession hlively,
    by decide +kernel, by decide +kernel⟩

/-- A post, and a comment on it at a time for which there is no clock. -/
def earlySession : List (Terms × Step) :=
  [({}, .plantUser "ada" "user"),
    ({}, .operate (memberNamed 101 "ada") (.create ⟨"Hello", "First.", []⟩)),
    ({}, .operate (memberNamed 101 "ada") (.comment 102 ⟨"Welcome."⟩)),
    ({}, .setClock ⟨-1, 0, isInstant_early⟩),
    ({}, .operate (memberNamed 101 "ada") (.comment 102 ⟨"Hello?"⟩))]

/-- The post is there with the comment that was made, but who asks for it gets no answer. -/
theorem thread_lost_before_1970 :
    (∀ s ∈ earlySession, s.2.bypasses = false) ∧
      (commentsMade (deeds sampleFront (.seeded none noon) earlySession) 102).map (·.id) = [103] ∧
      ((runSteps sampleFront (.seeded none noon) earlySession).2.store.post? 102).isSome = true ∧
      ∀ (reader : User) (x : Exchange World Call),
        x.world = (runSteps sampleFront (.seeded none noon) earlySession).2 → x.faults = [] →
          ((Operation.get 102).run reader x).1 = .error .abandoned := by
  refine ⟨by simp [earlySession, Step.bypasses], by decide +kernel, by decide +kernel, ?_⟩
  intro reader x hworld hfaults
  have hlocked : x.world.poisoned = true := by
    rw [hworld]
    decide +kernel
  refine get_of_locked ?_ hlocked
  rw [SparesGet, hfaults]
  exact List.forall_mem_nil _

end Agora.Social
