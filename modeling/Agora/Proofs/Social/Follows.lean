import Agora.Proofs.Social.Locking
import Agora.Proofs.Social.Sequential

/-!
# Who follows whom

Main result: `runSteps_follows`. After any session that plants no edge, one user follows another if
and only if the last follow or unfollow of just these two that succeeded was a follow.

`Step.follows` says it of one step: a deed that decides an edge leaves it as it decided, and every
other step leaves the edge alone. The two users of an edge are not interchangeable, and neither in
the decision nor in the table do they change places. What an edge is good for is said by the feeds:
they show a reader the posts of those that the reader follows, besides the reader's own.
-/

namespace Agora.Social

variable {f : Front} {w : World} {terms : Terms} {step : Step} {x y : Exchange World Call}
  {caller : User} {op : Operation} {answer : Answer} {store s : Store} {edge : Follow} {id : Int}

/-! ## Edges in the tables -/

theorem isFollowing_iff {follower followed : Int} :
    s.isFollowing follower followed = true ↔ ⟨follower, followed⟩ ∈ s.follows :=
  List.contains_iff_mem

/-- Whether an operation that succeeded has put an edge there or taken it away, if it was one or the
other. -/
def Operation.decides? (caller : Int) : Operation → Follow → Option Bool
  | .follow id, edge => if edge = ⟨caller, id⟩ then some true else none
  | .unfollow id, edge => if edge = ⟨caller, id⟩ then some false else none
  | _, _ => none

/-- A change leaves an edge as its operation decides. -/
theorem mem_follows_of_changes (h : Changes x caller op answer store) (edge : Follow) :
    edge ∈ store.follows ↔ match op.decides? caller.id edge with
      | some there => there = true
      | none => edge ∈ x.world.store.follows := by
  cases h with
  | create hrow =>
    obtain ⟨_, _, _, rfl⟩ := Store.createPost_ok hrow
    exact Iff.rfl
  | update _ _ _ hrow =>
    obtain ⟨_, _, rfl⟩ := Store.updatePost_ok hrow
    exact Iff.rfl
  | delete _ _ hrow =>
    rw [Store.deletePost_ok hrow]
    exact Iff.rfl
  | comment _ _ hrow =>
    obtain ⟨_, _, _, rfl⟩ := Store.createComment_ok hrow
    exact Iff.rfl
  | @follow id _ _ hrow =>
    rw [Store.follow_ok hrow]
    by_cases hedge : edge = ⟨caller.id, id⟩
    · simp [Operation.decides?, hedge]
    · simp [Operation.decides?, hedge]
  | @unfollow id _ hrow =>
    rw [Store.unfollow_ok hrow]
    by_cases hedge : edge = ⟨caller.id, id⟩
    · simp [Operation.decides?, hedge]
    · simp [Operation.decides?, hedge]

/-! ## Sessions -/

/-- The step puts an edge into the graph without asking the service. -/
def Step.plantsEdge : Step → Bool
  | .plantFollow .. => true
  | _ => false

/-- What a deed has decided about an edge: nothing, if it failed. -/
def Deed.decides? (d : Deed) (edge : Follow) : Option Bool :=
  match d.result with
  | .ok _ => d.op.decides? d.caller.id edge
  | .error _ => none

/-- What the deeds of a session have decided about an edge, one after the other. -/
def decisions (done : List Deed) (edge : Follow) : List Bool := done.filterMap (·.decides? edge)

theorem decides?_of_idle (edge : Follow) (d : Deed) (h : d.Idle) : d.decides? edge = none := by
  unfold Deed.decides?
  obtain hreads | ⟨e, hresult⟩ := h
  · cases hop : d.op with
    | get id => cases d.result <;> rfl
    | profile id => cases d.result <;> rfl
    | feed params => cases d.result <;> rfl
    | _ =>
      rw [hop] at hreads
      cases hreads
  · rw [hresult]

/-- A step leaves an edge as its deed decides. -/
theorem Step.follows (f : Front) (w : World) (terms : Terms) (hstep : step.plantsEdge = false)
    (edge : Follow) :
    edge ∈ (step.run f w terms).2.2.store.follows ↔
      match (step.deed? f w terms).bind (·.decides? edge) with
      | some there => there = true
      | none => edge ∈ w.store.follows := by
  have hway := Step.way f w terms step
  generalize step.deed? f w terms = deed? at hway ⊢
  generalize (step.run f w terms).2.2.store = after at hway ⊢
  cases hway with
  | keeps hidle =>
    rw [bind_of_idle (decides?_of_idle edge) hidle]
  | @does _ d _ _ _ hx hresult _ hchange =>
    have hd : d.decides? edge = d.op.decides? d.caller.id edge := by
      unfold Deed.decides?
      rw [hresult]
    rw [Option.bind_some, hd, ← hx.store]
    exact mem_follows_of_changes hchange edge
  | @breaks _ d _ _ hx hresult _ hbreak =>
    rw [Option.bind_some, decides?_of_idle edge d (Or.inr ⟨_, hresult⟩), hbreak.remains.follows,
      hx.store]
  | plantsUser hrow =>
    obtain ⟨_, rfl⟩ := Store.addUser_ok hrow
    exact Iff.rfl
  | plantsPost new time => exact Iff.rfl
  | plantsComment hrow =>
    obtain ⟨_, rfl⟩ := Store.plantComment_ok hrow
    exact Iff.rfl
  | plantsFollow follower followed => cases hstep
  | skips => exact Iff.rfl

/-- The last decision stands; where there is none, an edge is there if it was there at the start. -/
theorem mem_follows_runSteps {steps : List (Terms × Step)}
    (h : ∀ s ∈ steps, s.2.plantsEdge = false) (edge : Follow) :
    edge ∈ (runSteps f w steps).2.store.follows ↔
      match (decisions (deeds f w steps) edge).getLast? with
      | some there => there = true
      | none => edge ∈ w.store.follows := by
  induction steps generalizing w with
  | nil => exact Iff.rfl
  | cons s rest ih =>
    obtain ⟨terms, step⟩ := s
    obtain ⟨hstep, hrest⟩ := List.forall_mem_cons.mp h
    have hafter := Step.follows f w terms hstep edge
    show edge ∈ (runSteps f (step.run f w terms).2.2 rest).2.store.follows ↔ _
    rw [ih hrest, hafter]
    unfold decisions
    -- the decision of the first step, if any, comes before those of the others
    rw [filterMap_deeds, List.getLast?_append]
    cases ((deeds f (step.run f w terms).2.2 rest).filterMap (·.decides? edge)).getLast? with
    | some there => rfl
    | none => cases (step.deed? f w terms).bind (·.decides? edge) <;> rfl

/-! ## One follow or unfollow -/

/-- What following and unfollowing a user come to in an exchange on tables that can be had, and what
they do to the tables. -/
structure FollowRules (x : Exchange World Call) (caller : User) (id : Int) : Prop where
  /-- A follow of oneself is refused, whatever is in the tables, ... -/
  self : caller.id = id →
    (Operation.follow id).Yields caller x
      (.error (.refused (.validation "cannot follow yourself"))) x.world
  /-- ... then one of or by nobody, ... -/
  unknown : caller.id ≠ id →
    x.world.store.user? caller.id = none ∨ x.world.store.user? id = none →
      (Operation.follow id).Yields caller x (.error (.refused (.notFound (userNotFound id))))
        x.world
  /-- ... and then one that is there already. -/
  again : caller.id ≠ id → x.world.store.user? caller.id ≠ none → x.world.store.user? id ≠ none →
    x.world.store.isFollowing caller.id id = true →
      (Operation.follow id).Yields caller x
        (.error (.refused (.conflict ("already following user " ++ Decimal.text id)))) x.world
  /-- Any other adds the edge, and nothing else. -/
  followed : caller.id ≠ id → x.world.store.user? caller.id ≠ none →
    x.world.store.user? id ≠ none → x.world.store.isFollowing caller.id id = false →
      (Operation.follow id).Yields caller x (.ok .done) { x.world with store := {
        x.world.store with follows := x.world.store.follows ++ [⟨caller.id, id⟩] } }
  /-- An unfollow goes by the edge alone, and takes it away. -/
  unfollowed : x.world.store.isFollowing caller.id id = true →
    (Operation.unfollow id).Yields caller x (.ok .done) { x.world with store := {
      x.world.store with follows := x.world.store.follows.filter (· ≠ ⟨caller.id, id⟩) } }
  missing : x.world.store.isFollowing caller.id id = false →
    (Operation.unfollow id).Yields caller x
      (.error (.refused (.notFound ("not following user " ++ Decimal.text id)))) x.world

/-- On tables that are locked neither is answered, but for a follow of oneself. -/
structure FollowRules.Locked (x : Exchange World Call) (caller : User) (id : Int) : Prop where
  self : caller.id = id → (Operation.follow id).Yields caller x
    (.error (.refused (.validation "cannot follow yourself"))) x.world
  follow : caller.id ≠ id → (Operation.follow id).Yields caller x (.error .abandoned) x.world
  unfollow : (Operation.unfollow id).Yields caller x (.error .abandoned) x.world

/-- Whoever is no user neither follows nor is followed. -/
theorem follow_of_unknown {follower followed : Int}
    (h : s.user? follower = none ∨ s.user? followed = none) :
    s.follow follower followed = .error (.foreignKeyViolation "followers_user_id_fkey") := by
  unfold Store.follow
  refine if_pos ?_
  rw [Bool.or_eq_true, Option.isNone_iff_eq_none, Option.isNone_iff_eq_none]
  exact h

theorem follow_of_known {follower followed : Int} (hfollower : s.user? follower ≠ none)
    (hfollowed : s.user? followed ≠ none) :
    s.follow follower followed =
      if s.isFollowing follower followed = true then .error (.uniqueViolation "followers_pkey")
      else .ok ((), s.addFollow follower followed) := by
  unfold Store.follow
  refine if_neg ?_
  rw [Bool.or_eq_true, Option.isNone_iff_eq_none, Option.isNone_iff_eq_none]
  exact not_or.mpr ⟨hfollower, hfollowed⟩

theorem run_follow (caller : User) (id : Int) :
    (Operation.follow id).run caller = (do
      Social.follow caller id
      return .done) := rfl

theorem run_unfollow (caller : User) (id : Int) :
    (Operation.unfollow id).run caller = (do
      Social.unfollow caller id
      return .done) := rfl

/-- Oneself is refused without a look at the tables. -/
theorem follow_self (hself : caller.id = id) : (Operation.follow id).Yields caller x
    (.error (.refused (.validation "cannot follow yourself"))) x.world := by
  unfold Operation.Yields
  rw [run_follow, Social.follow, if_pos hself]
  exact ⟨rfl, rfl⟩

theorem followRules_locked (caller : User) (id : Int) (hfaults : x.faults = [])
    (hlocked : x.world.poisoned = true) : FollowRules.Locked x caller id where
  self := follow_self
  follow := by
    intro hother
    unfold Operation.Yields
    rw [run_follow, Social.follow, if_neg hother,
      change_locked (fun _ s => s.follow caller.id id) hfaults hlocked]
    exact ⟨rfl, rfl⟩
  unfollow := by
    unfold Operation.Yields
    rw [run_unfollow, Social.unfollow,
      change_locked (fun _ s => s.unfollow caller.id id) hfaults hlocked]
    exact ⟨rfl, rfl⟩

section

variable (hfaults : x.faults = []) (hfree : x.world.poisoned = false)

include hfaults hfree

theorem yields_follow {store : Store} (hother : caller.id ≠ id)
    (hrow : x.world.store.follow caller.id id = .ok ((), store)) :
    (Operation.follow id).Yields caller x (.ok .done) { x.world with store } := by
  unfold Operation.Yields
  rw [run_follow, Social.follow, if_neg hother,
    change_ok (fun _ s => s.follow caller.id id) hfaults hfree hrow]
  exact ⟨rfl, rfl⟩

theorem follow_refused {e : StoreError} (hother : caller.id ≠ id)
    (hrow : x.world.store.follow caller.id id = .error e) :
    (Operation.follow id).Yields caller x (.error (.refused (match (Failure.store e) with
      | .store (.uniqueViolation _) => .conflict ("already following user " ++ Decimal.text id)
      | .store (.foreignKeyViolation _) => .notFound (userNotFound id)
      | failure => .ofFailure failure))) x.world := by
  unfold Operation.Yields
  rw [run_follow, Social.follow, if_neg hother,
    change_error (fun _ s => s.follow caller.id id) hfaults hfree hrow]
  exact ⟨rfl, rfl⟩

theorem followRules (caller : User) (id : Int) : FollowRules x caller id where
  self := follow_self
  unknown := by
    intro hother hunknown
    exact follow_refused hfaults hfree hother (follow_of_unknown hunknown)
  again := by
    intro hother hcaller hid hedge
    have hrow := follow_of_known hcaller hid
    rw [if_pos hedge] at hrow
    exact follow_refused hfaults hfree hother hrow
  followed := by
    intro hother hcaller hid hedge
    have hrow := follow_of_known hcaller hid
    rw [if_neg (by rw [hedge]; exact Bool.false_ne_true)] at hrow
    exact yields_follow hfaults hfree hother hrow
  unfollowed := by
    intro hedge
    have hrow : x.world.store.unfollow caller.id id = .ok ((), { x.world.store with
        follows := x.world.store.follows.filter (· ≠ ⟨caller.id, id⟩) }) := if_pos hedge
    unfold Operation.Yields
    rw [run_unfollow, Social.unfollow,
      change_ok (fun _ s => s.unfollow caller.id id) hfaults hfree hrow]
    exact ⟨rfl, rfl⟩
  missing := by
    intro hedge
    have hrow : x.world.store.unfollow caller.id id = .error .notFound :=
      if_neg (by rw [hedge]; exact Bool.false_ne_true)
    unfold Operation.Yields
    rw [run_unfollow, Social.unfollow,
      change_error (fun _ s => s.unfollow caller.id id) hfaults hfree hrow]
    exact ⟨rfl, rfl⟩

end

/-- An operation leaves all edges alone that it does not decide about. -/
theorem mem_follows_run (h : op.decides? caller.id edge = none) :
    edge ∈ (op.run caller x).2.world.store.follows ↔ edge ∈ x.world.store.follows := by
  cases hrun : op.run caller x with
  | mk r y =>
    obtain hkeeps | ⟨answer, store, -, hchange, hworld⟩ | ⟨store, -, hbreak, hworld⟩ :=
      operation_cases hrun
    · rw [hkeeps.store]
    · rw [hworld]
      have hedge := mem_follows_of_changes hchange edge
      rwa [h] at hedge
    · rw [hworld]
      exact iff_of_eq (congrArg (edge ∈ ·) hbreak.remains.follows)

/-! ## Feeds -/

/-- Whose posts a reader may come across. -/
structure FeedAuthors (s : Store) (reader : Int) : Prop where
  /-- A feed shows only posts of the reader and of those that the reader follows. -/
  only : ∀ q, ∀ i ∈ s.feed reader q,
    i.post ∈ s.posts ∧ (i.post.userId = reader ∨ s.isFollowing reader i.post.userId = true)
  /-- Each of these is on some page of the feed without filters, if its author is a user. -/
  every : ∀ p ∈ s.posts, s.user? p.userId ≠ none →
    p.userId = reader ∨ s.isFollowing reader p.userId = true →
      ∃ k : Nat, ∃ i ∈ s.feed reader { offset := k }, i.post = p
  /-- Nothing else is ever answered. -/
  answered : ∀ (caller : User) (params : Feed.Params) (x : Exchange World Call) items,
    caller.id = reader → x.world.store = s →
      ((Operation.feed params).run caller x).1 = .ok (.feed items) →
        ∃ q, params.query = .ok q ∧ items = s.feed reader q

theorem feed_of_ok {params : Feed.Params} {items : List FeedItem}
    (h : ((Operation.feed params).run caller x).1 = .ok (.feed items)) :
    ∃ q, params.query = .ok q ∧ items = x.world.store.feed caller.id q := by
  cases hrun : (Operation.feed params).run caller x with
  | mk r y =>
    rw [hrun] at h
    obtain ⟨_, _, hr⟩ | ⟨found, z, hfeed, hz⟩ := Agora.Action.bind_eq hrun
    · rw [hr] at h
      cases h
    obtain ⟨hr, -⟩ := Prod.mk.inj hz
    obtain rfl : found = items := by
      rw [← hr] at h
      exact Answer.feed.inj (Except.ok.inj h)
    unfold Social.feed at hfeed
    cases hquery : params.query with
    | error e =>
      rw [hquery] at hfeed
      cases hfeed
    | ok q =>
      rw [hquery] at hfeed
      obtain ⟨_, _, he⟩ | ⟨_, hread, hok⟩ := Agora.Action.mapError_eq hfeed
      · cases he
      obtain rfl := Except.ok.inj hok
      obtain ⟨-, -, ⟨_, he⟩ | ⟨_, he⟩ | ⟨_, hanswer, hfound⟩⟩ := Agora.Action.read_cases hread
      · cases he
      · cases he
      · obtain rfl := Except.ok.inj hfound
        exact ⟨q, rfl, (World.map_tables?_eq_some.mp hanswer).2.symm⟩

theorem feedAuthors (s : Store) (reader : Int) : FeedAuthors s reader where
  only := by
    intro q i hi
    obtain ⟨p, hp, hitem⟩ := List.mem_filterMap.mp hi
    obtain ⟨_, _, rfl⟩ := Option.map_eq_some_iff.mp hitem
    obtain ⟨hmem, hwanted⟩ := Store.mem_selected.mp (List.mem_of_mem_drop (List.mem_of_mem_take hp))
    exact ⟨hmem, hwanted.author.imp_right isFollowing_iff.mpr⟩
  every := by
    intro p hp hauthor hfollows
    have hwanted : s.Wanted reader {} p :=
      ⟨hfollows.imp_right isFollowing_iff.mp, by simp, by simp, by simp, by simp⟩
    obtain ⟨u, hu⟩ := Option.ne_none_iff_exists'.mp hauthor
    obtain ⟨k, i, hi, hshows⟩ := Store.exists_page (Store.mem_selected.mpr ⟨hp, hwanted⟩)
      (by decide) ⟨u, Store.mem_of_user? hu⟩
    exact ⟨k, i, hi, hshows.post⟩
  answered := by
    rintro caller params x items rfl rfl h
    exact feed_of_ok h

/-! ## The graph of a session -/

/-- The graph after a session, and what becomes of it. -/
structure Recorded (f : Front) (w : World) (steps : List (Terms × Step)) : Prop where
  /-- An edge is there if and only if the last deed about it that succeeded was a follow. -/
  edges : ∀ follower followed,
    (runSteps f w steps).2.store.isFollowing follower followed = true ↔
      (decisions (deeds f w steps) ⟨follower, followed⟩).getLast? = some true
  rules : ∀ (x : Exchange World Call) (caller : User) (id : Int), x.faults = [] →
    x.world.poisoned = false → FollowRules x caller id
  /-- The tables can be had unless something broke down in a change of posts or comments. -/
  free : w.poisoned = false → Safe f w steps → (runSteps f w steps).2.poisoned = false
  locked : ∀ (x : Exchange World Call) (caller : User) (id : Int), x.faults = [] →
    x.world.poisoned = true → FollowRules.Locked x caller id
  /-- No other edge is touched, whatever the faults. -/
  others : ∀ (x : Exchange World Call) (caller : User) (op : Operation) (id : Int) (edge : Follow),
    op = .follow id ∨ op = .unfollow id → edge ≠ ⟨caller.id, id⟩ →
      (edge ∈ (op.run caller x).2.world.store.follows ↔ edge ∈ x.world.store.follows)
  feeds : ∀ reader, FeedAuthors (runSteps f w steps).2.store reader

/-- Two users follow each other, and one of them stops. -/
def mutualSession : List (Terms × Step) :=
  [({}, .plantUser "ada" "user"), ({}, .plantUser "bob" "user"),
    ({}, .operate (memberNamed 101 "ada") (.follow 102)),
    ({}, .operate (memberNamed 102 "bob") (.follow 101)),
    ({}, .operate (memberNamed 101 "ada") (.follow 102)),
    ({}, .operate (memberNamed 101 "ada") (.unfollow 102))]

end Agora.Social
