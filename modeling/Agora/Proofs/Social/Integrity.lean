import Agora.Proofs.Social.Deeds

/-!
# The tables stay sound

Main result: `runSteps_intact`. A session that starts with the seeded tables and plants no posts,
comments or edges behind the service's back keeps its tables sound, however its operations end and
whoever asks for them; ids are handed out in increasing order, so none ever comes back; and whoever
is no user reads an empty feed.

`Step.store_cases` says what such a step can do to the tables: nothing, add a user, make the one
change of an operation, or break down in one of these. Each of them keeps the tables linked and
counts ids, and both lift to whole sessions by induction on the steps.
-/

namespace Agora.Social

variable {f : Front} {w : World} {terms : Terms} {step : Step} {x : Exchange World Call}
  {caller : User} {op : Operation} {answer : Answer} {store : Store}

/-! ## One operation -/

theorem writes_of_changes (h : Changes x caller op answer store) :
    Store.Writes x.world.now x.world.store store := by
  cases h with
  | create hrow => exact .createPost hrow
  | update _ _ _ hrow => exact .updatePost hrow
  | delete _ _ hrow => exact .deletePost hrow
  | comment _ _ hrow => exact .createComment hrow
  | follow _ hrow => exact .follow hrow
  | unfollow hrow => exact .unfollow hrow

theorem linked_of_changes (hs : x.world.store.Linked) (h : Changes x caller op answer store) :
    store.Linked := by
  cases h with
  | create hrow => exact hs.createPost hrow
  | update _ _ _ hrow => exact hs.updatePost hrow
  | delete _ _ hrow => exact hs.deletePost hrow
  | comment _ _ hrow => exact hs.createComment hrow
  | follow hother hrow => exact hs.follow hother hrow
  | unfollow hrow => exact hs.unfollow hrow

/-! ## One step -/

/-- The step puts a post, a comment or an edge into the tables without asking the service. -/
def Step.bypasses : Step → Bool
  | .plantPost .. | .plantComment _ | .plantFollow .. => true
  | _ => false

/-- All that a step of a service can do to the tables. -/
theorem Step.store_cases (f : Front) (w : World) (terms : Terms) (hstep : step.bypasses = false) :
    (step.run f w terms).2.2.store = w.store ∨
      (∃ username roleName u, w.store.addUser w.now username roleName =
        .ok (u, (step.run f w terms).2.2.store)) ∨
      (∃ x caller op answer, x.world.store = w.store ∧
        Changes x caller op answer (step.run f w terms).2.2.store) ∨
      Store.Remains w.store (step.run f w terms).2.2.store := by
  have hway := Step.way f w terms step
  generalize step.deed? f w terms = deed? at hway
  generalize (step.run f w terms).2.2.store = after at hway ⊢
  cases hway with
  | keeps => exact Or.inl rfl
  | does hx _ _ hchange => exact Or.inr (Or.inr (Or.inl ⟨_, _, _, _, hx.store, hchange⟩))
  | breaks hx _ _ hbreak =>
    rw [← hx.store]
    exact Or.inr (Or.inr (Or.inr hbreak.remains))
  | skips => exact Or.inr (Or.inr (Or.inr .skipped))
  | plantsUser hrow => exact Or.inr (Or.inl ⟨_, _, _, hrow⟩)
  | plantsPost new time => cases hstep
  | plantsComment hrow => cases hstep
  | plantsFollow follower followed => cases hstep

theorem Step.counts (hstep : step.bypasses = false) :
    Store.Counts w.store (step.run f w terms).2.2.store := by
  obtain hsame | ⟨_, _, _, hadd⟩ | ⟨x, _, _, _, hx, hchange⟩ | hremains :=
    Step.store_cases f w terms hstep
  · rw [hsame]
    exact .refl _
  · exact Store.counts_addUser hadd
  · rw [← hx]
    exact (writes_of_changes hchange).counts
  · have hwrites : Store.Writes w.now w.store (step.run f w terms).2.2.store := .breaks hremains
    exact hwrites.counts

theorem Step.linked (hs : w.store.Linked) (hstep : step.bypasses = false) :
    (step.run f w terms).2.2.store.Linked := by
  obtain hsame | ⟨_, _, _, hadd⟩ | ⟨x, _, _, _, hx, hchange⟩ | hremains :=
    Step.store_cases f w terms hstep
  · rw [hsame]
    exact hs
  · exact hs.addUser hadd
  · rw [← hx] at hs
    exact linked_of_changes hs hchange
  · exact hs.remains hremains

/-! ## Whole sessions -/

/-- The ids that are handed out in a session, in their order. -/
def handedOut (f : Front) (w : World) : List (Terms × Step) → List Int
  | [] => []
  | (terms, step) :: rest =>
    let after := (step.run f w terms).2.2
    w.store.newIds after.store ++ handedOut f after rest

/-- A session hands out ids in increasing order, above the counter with which it starts. -/
theorem handedOut_increasing {steps : List (Terms × Step)} (hs : w.store.Numbered)
    (h : ∀ s ∈ steps, s.2.bypasses = false) :
    (handedOut f w steps).Pairwise (· < ·) ∧ ∀ id ∈ handedOut f w steps, w.store.lastId < id := by
  induction steps generalizing w with
  | nil =>
    refine ⟨List.Pairwise.nil, ?_⟩
    intro id hid
    cases hid
  | cons s rest ih =>
    obtain ⟨terms, step⟩ := s
    obtain ⟨hstep, hrest⟩ := List.forall_mem_cons.mp h
    have hcounts : Store.Counts w.store (step.run f w terms).2.2.store := Step.counts hstep
    obtain ⟨hincreasing, habove⟩ := ih (hs.of_counts hcounts) hrest
    simp only [handedOut]
    rcases Store.newIds_of_counts hs hcounts with ⟨hnone, hlast⟩ | ⟨hone, hlast⟩
    · rw [hnone]
      exact ⟨hincreasing, fun id hid => Int.lt_of_le_of_lt hlast (habove id hid)⟩
    · -- the id of this step lies between the counter before it and all ids after it
      rw [hone]
      rw [hlast] at habove
      refine ⟨List.pairwise_cons.mpr ⟨habove, hincreasing⟩, ?_⟩
      intro id hid
      rcases List.mem_cons.mp hid with rfl | hlater
      · omega
      · have := habove id hlater
        omega

theorem runSteps_sound {steps : List (Terms × Step)} (hs : w.store.Sound)
    (h : ∀ s ∈ steps, s.2.bypasses = false) : (runSteps f w steps).2.store.Sound := by
  induction steps generalizing w with
  | nil => exact hs
  | cons s rest ih =>
    obtain ⟨hstep, hrest⟩ := List.forall_mem_cons.mp h
    exact ih ⟨hs.toNumbered.of_counts (Step.counts hstep), Step.linked hs.toLinked hstep⟩ hrest

/-- A session as it should be at its end. -/
structure Intact (f : Front) (w : World) (steps : List (Terms × Step)) : Prop where
  sound : (runSteps f w steps).2.store.Sound
  /-- No id is ever handed out twice, whatever was removed in between. -/
  handedOut : (handedOut f w steps).Pairwise (· < ·)
  /-- Whoever is no user reads nothing. -/
  strangers : ∀ reader, (runSteps f w steps).2.store.user? reader = none →
    ∀ q, (runSteps f w steps).2.store.feed reader q = []

/-- The seeded tables, which hold nobody and nothing yet. -/
def World.seeded (cache : Option (List (Int × User))) (now : Time.Instant) : World where
  store := .seeded
  cache
  now

/-- Every session of the service on seeded tables, to which users may be added at any time, leaves
them intact. -/
theorem runSteps_intact (f : Front) (cache : Option (List (Int × User))) (now : Time.Instant)
    (steps : List (Terms × Step)) (h : ∀ s ∈ steps, s.2.bypasses = false) :
    Intact f (.seeded cache now) steps := by
  have hseeded : (World.seeded cache now).store.Sound := Store.sound_seeded
  have hsound := runSteps_sound (f := f) hseeded h
  exact {
    sound := hsound
    handedOut := (handedOut_increasing hseeded.toNumbered h).1
    strangers := fun _ hreader => hsound.toLinked.feed_eq_nil hreader }

/-! ## One session -/

/-- Noon of the first day of 2024. -/
def noon : Time.Instant := ⟨1704110400, 0, by decide⟩

/-- A user as the tables have it when it was added at noon. -/
def memberNamed (id : Int) (username : String) : User where
  id
  username
  email := username ++ "@example.com"
  createdAt := noon
  isActive := true
  role := ⟨1, "user", 1, ""⟩

/-- A post is made, commented on and removed; a stranger is refused; another post is made. -/
def busySession : List (Terms × Step) :=
  [({}, .plantUser "ada" "user"), ({}, .plantUser "bob" "user"),
    ({}, .operate (memberNamed 101 "ada") (.create ⟨"Hello", "First.", []⟩)),
    ({}, .operate (memberNamed 102 "bob") (.comment 103 ⟨"Welcome."⟩)),
    ({}, .operate (memberNamed 102 "bob") (.follow 101)),
    ({}, .operate (memberNamed 999 "eve") (.create ⟨"Hello", "Me too.", []⟩)),
    ({}, .operate (memberNamed 101 "ada") (.delete 103)),
    ({}, .operate (memberNamed 101 "ada") (.create ⟨"Again", "Second.", []⟩))]

/-- The post that was removed does not give its id back. -/
theorem runSteps_intact_busySession :
    (∀ s ∈ busySession, s.2.bypasses = false) ∧
      Intact sampleFront (.seeded none noon) busySession ∧
      handedOut sampleFront (.seeded none noon) busySession = [101, 102, 103, 104, 105] := by
  have hbusy : ∀ s ∈ busySession, s.2.bypasses = false := by
    simp [busySession, Step.bypasses]
  exact ⟨hbusy, runSteps_intact sampleFront none noon busySession hbusy, by decide +kernel⟩

end Agora.Social
