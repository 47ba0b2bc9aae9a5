import Agora.Proofs.Social.Edges
import Agora.Proofs.Social.Follows
import Agora.Proofs.Store.Independence

/-!
# Operations on different things commute

Main result: `operations_commute`. An update or a delete of a post and a follow or an unfollow of a
user each change one thing, a post or an edge. Two of them that change different things are answered
the same in either order, and what is left cannot be told apart: every session goes on alike. The
only exception is a world on which a change can break down, and then one does in either order.

In exchanges without faults such an operation looks at nothing but its thing, the users and the
roles: from tables that agree on these it always comes to the same result and has the same effect,
or is always given up (`foreseen`). The other operation leaves them as they are, so that its turn
makes no difference (`Store.agreeOn_on`), and the two effects commute but for the order of the edges
(`Store.alike_on`), which nobody sees (`runSteps_alike`).
-/

namespace Agora.Social

open Store (AgreeOn Effect Thing)

variable {w : World} {caller : User} {op : Operation} {id : Int} {s : Store} {now : Time.Instant}
  {k : Thing}

/-! ## What an operation looks at -/

/-- What an operation of a caller changes, if it is a post or an edge. -/
def Operation.thing? (caller : Int) : Operation → Option Thing
  | .update id _ | .delete id => some (.post id)
  | .follow id | .unfollow id => some (.edge ⟨caller, id⟩)
  | .create _ | .get _ | .comment .. | .profile _ | .feed _ => none

/-- An exchange without faults, on tables that can be had and agree with `s` on the thing. -/
structure SetFor (k : Thing) (s : Store) (now : Time.Instant) (x : Exchange World Call) : Prop where
  faults : x.faults = []
  free : x.world.poisoned = false
  clock : x.world.now = now
  agree : AgreeOn k s x.world.store

/-- In every such exchange the action comes to one result and has one effect. -/
def ComesTo (a : Action ServiceError Answer) (k : Thing) (s : Store) (now : Time.Instant)
    (r : Except (Stop ServiceError) Answer) (e : Effect) : Prop :=
  ∀ x, SetFor k s now x → ∃ y, a x = (r, y) ∧
    y.world = { x.world with store := e.on now x.world.store }

/-- In every such exchange it is given up. -/
def GivesUp (a : Action ServiceError Answer) (k : Thing) (s : Store) (now : Time.Instant) : Prop :=
  ∀ x, SetFor k s now x → (a x).1 = .error .abandoned

/-- What comes of an action is settled by the thing. -/
inductive Foreseen (a : Action ServiceError Answer) (k : Thing) (s : Store) (now : Time.Instant) :
    Prop
  | comes (r : Except (Stop ServiceError) Answer) (e : Effect) (hwithin : e.Within k)
      (h : ComesTo a k s now r e)
  | givesUp (h : GivesUp a k s now)

/-- An action that always ends in one way with the world as it was. -/
theorem foreseen_of_yields {r : Except (Stop ServiceError) Answer}
    (h : ∀ x, SetFor k s now x → op.Yields caller x r x.world) :
    Foreseen (op.run caller) k s now := by
  refine .comes r .keep (.keep k) fun x hx => ?_
  obtain ⟨rfl, hworld⟩ := h x hx
  exact ⟨_, rfl, hworld⟩

theorem admission_congr {s' : Store} (h : AgreeOn k s s') (caller : User) (p : Post)
    (roleName : String) : admission s' caller p roleName = admission s caller p roleName := by
  unfold admission
  rw [h.role?]

/-! ## Posts -/

/-- An operation behind the guard goes by the post that is there, and then by its plan. -/
theorem foreseen_of_guarded {roleName : String} {plan : Post → Except ServiceError Plan}
    (hrun : op.run caller = guarded caller id roleName plan)
    (hplan : ∀ p job, s.post? id = some p → plan p = .ok job →
      Foreseen job.finish (.post id) s now) : Foreseen (op.run caller) (.post id) s now := by
  cases hfound : s.post? id with
  | none =>
    refine foreseen_of_yields (r := .error (.refused (postNotFound id))) fun x hx => ?_
    unfold Operation.Yields
    rw [hrun, guarded_absent hx.faults hx.free (hx.agree.post?.trans hfound)]
    exact ⟨rfl, rfl⟩
  | some p =>
    cases hadmission : admission s caller p roleName with
    | error e =>
      refine foreseen_of_yields (r := .error e) fun x hx => ?_
      unfold Operation.Yields
      rw [hrun]
      exact guarded_refused hx.faults hx.free (hx.agree.post?.trans hfound)
        ((admission_congr hx.agree caller p roleName).trans hadmission)
    | ok u =>
      -- the caller is let pass, and there is a plan or there is none
      cases hjob : plan p with
      | error e =>
        exact foreseen_of_yields fun x hx =>
          yields_unplanned hrun hx.faults hx.free (hx.agree.post?.trans hfound)
            ((admission_congr hx.agree caller p roleName).trans hadmission) hjob
      | ok job =>
        have hfinish : ∀ x, SetFor (.post id) s now x →
            ∃ z, z.world = x.world ∧ SetFor (.post id) s now z ∧
              op.run caller x = job.finish z := by
          intro x hx
          obtain ⟨z, hworld, hcalm, hz⟩ := guarded_admitted plan hx.faults hx.free
            (hx.agree.post?.trans hfound)
            ((admission_congr hx.agree caller p roleName).trans hadmission)
          rw [hrun, hz, hjob]
          refine ⟨z, hworld, ⟨hcalm, ?_, ?_, ?_⟩, rfl⟩
          · rw [hworld]
            exact hx.free
          · rw [hworld]
            exact hx.clock
          · rw [hworld]
            exact hx.agree
        cases hplan p job hfound hjob with
        | comes r e hwithin hcomes =>
          refine .comes r e hwithin fun x hx => ?_
          obtain ⟨z, hworld, hz, hrest⟩ := hfinish x hx
          obtain ⟨y, hend, hy⟩ := hcomes z hz
          rw [hworld] at hy
          exact ⟨y, hrest.trans hend, hy⟩
        | givesUp hgives =>
          refine .givesUp fun x hx => ?_
          obtain ⟨z, _, hz, hrest⟩ := hfinish x hx
          rw [hrest]
          exact hgives z hz

/-- A commit goes by whether there is a row of its id and version, and a next version for it. -/
theorem foreseen_commit (c : Commit) (s : Store) (now : Time.Instant) :
    Foreseen (Plan.commit c).finish (.post c.id) s now := by
  let change := fun (w : World) (s : Store) => s.updatePost w.now c.id c.version c.title c.content
  cases hrow : s.posts.find? fun p => decide (p.id = c.id) && decide (p.version = c.version) with
  | none =>
    refine .comes (.error (.refused (Commit.error c.id (.store .notFound)))) .keep (.keep _)
      fun z hz => ?_
    have hchange : change z.world z.world.store = .error .notFound := by
      show z.world.store.updatePost z.world.now c.id c.version c.title c.content = _
      rw [Store.updatePost_eq, hz.agree.version, hrow]
    exact ⟨_, change_error change hz.faults hz.free hchange, rfl⟩
  | some p =>
    -- the row has no next version, or there is no time to write into it
    by_cases hbroken : p.version = Int32.maxValue ∨ now.second < 0
    · refine .givesUp fun z hz => ?_
      have hchange : ∃ store, change z.world z.world.store = .broken store := by
        show ∃ store, z.world.store.updatePost z.world.now c.id c.version c.title c.content = _
        rw [Store.updatePost_eq, hz.agree.version, hrow, hz.clock]
        simp only
        split
        next => exact ⟨_, rfl⟩
        next hlast =>
          rw [if_pos (hbroken.resolve_left hlast)]
          exact ⟨_, rfl⟩
      obtain ⟨store, hchange⟩ := hchange
      exact congrArg Prod.fst (change_broken change hz.faults hz.free hchange)
    · obtain ⟨hroom, hclock⟩ := not_or.mp hbroken
      refine .comes (.ok (.post (Store.revised now c.title c.content p)))
        (.revise c.id c.version c.title c.content) (.revise ..) fun z hz => ?_
      have hchange : change z.world z.world.store =
          .ok (Store.revised now c.title c.content p,
            (Effect.revise c.id c.version c.title c.content).on now z.world.store) := by
        show z.world.store.updatePost z.world.now c.id c.version c.title c.content = _
        rw [Store.updatePost_eq, hz.agree.version, hrow, hz.clock]
        simp only
        rw [if_neg hroom, if_neg hclock]
      exact ⟨_, change_ok change hz.faults hz.free hchange, rfl⟩

theorem foreseen_deletePost {p : Post} (hfound : s.post? id = some p) :
    Foreseen (Plan.deletePost id).finish (.post id) s now := by
  refine .comes (.ok .done) (.drop id) (.drop id) fun z hz => ?_
  have hrow := Store.deletePost_of_found (hz.agree.post?.trans hfound)
  exact ⟨_, change_ok (fun (_ : World) (s : Store) => s.deletePost id) hz.faults hz.free hrow, rfl⟩

/-! ## Edges -/

theorem foreseen_follow (caller : User) (id : Int) (s : Store) (now : Time.Instant) :
    Foreseen ((Operation.follow id).run caller) (.edge ⟨caller.id, id⟩) s now := by
  by_cases hself : caller.id = id
  · exact foreseen_of_yields fun _ _ => follow_self hself
  by_cases hunknown : s.user? caller.id = none ∨ s.user? id = none
  · refine foreseen_of_yields (r := .error (.refused (.notFound (userNotFound id)))) fun x hx => ?_
    rw [← hx.agree.user?, ← hx.agree.user?] at hunknown
    exact (followRules hx.faults hx.free caller id).unknown hself hunknown
  obtain ⟨hcaller, hid⟩ := not_or.mp hunknown
  cases hedge : s.isFollowing caller.id id with
  | true =>
    refine foreseen_of_yields
      (r := .error (.refused (.conflict ("already following user " ++ Decimal.text id))))
      fun x hx => ?_
    rw [← hx.agree.user?] at hcaller hid
    rw [← hx.agree.isFollowing] at hedge
    exact (followRules hx.faults hx.free caller id).again hself hcaller hid hedge
  | false =>
    refine .comes (.ok .done) (.link ⟨caller.id, id⟩) (.link _) fun x hx => ?_
    rw [← hx.agree.user?] at hcaller hid
    rw [← hx.agree.isFollowing] at hedge
    obtain ⟨hr, hworld⟩ :=
      (followRules hx.faults hx.free caller id).followed hself hcaller hid hedge
    rw [← hr]
    exact ⟨_, rfl, hworld⟩

theorem foreseen_unfollow (caller : User) (id : Int) (s : Store) (now : Time.Instant) :
    Foreseen ((Operation.unfollow id).run caller) (.edge ⟨caller.id, id⟩) s now := by
  cases hedge : s.isFollowing caller.id id with
  | true =>
    refine .comes (.ok .done) (.unlink ⟨caller.id, id⟩) (.unlink _) fun x hx => ?_
    rw [← hx.agree.isFollowing] at hedge
    obtain ⟨hr, hworld⟩ := (followRules hx.faults hx.free caller id).unfollowed hedge
    rw [← hr]
    exact ⟨_, rfl, hworld⟩
  | false =>
    refine foreseen_of_yields
      (r := .error (.refused (.notFound ("not following user " ++ Decimal.text id))))
      fun x hx => ?_
    rw [← hx.agree.isFollowing] at hedge
    exact (followRules hx.faults hx.free caller id).missing hedge

/-! ## Two operations -/

/-- An operation goes by what it changes, the users and the roles, and by nothing else. -/
theorem foreseen (h : op.thing? caller.id = some k) (s : Store) (now : Time.Instant) :
    Foreseen (op.run caller) k s now := by
  cases op with
  | update id edit =>
    obtain rfl := Option.some.inj h
    refine foreseen_of_guarded (run_update caller id edit) ?_
    intro p job hfound hjob
    cases hcommit : Commit.ofEdit p edit with
    | error e =>
      rw [hcommit] at hjob
      cases hjob
    | ok c =>
      rw [hcommit] at hjob
      obtain rfl := Except.ok.inj hjob
      have hid : c.id = id := by
        rw [Commit.eq_of_ofEdit hcommit]
        exact Store.id_of_post? hfound
      have hcomes := foreseen_commit c s now
      rwa [hid] at hcomes
  | delete id =>
    obtain rfl := Option.some.inj h
    refine foreseen_of_guarded (run_delete caller id) ?_
    intro p job hfound hjob
    obtain rfl := Except.ok.inj hjob
    exact foreseen_deletePost hfound
  | follow id =>
    obtain rfl := Option.some.inj h
    exact foreseen_follow caller id s now
  | unfollow id =>
    obtain rfl := Option.some.inj h
    exact foreseen_unfollow caller id s now
  | _ => cases h

/-- On locked tables it always ends in one way, and changes nothing. -/
theorem exists_yields_of_locked (h : op.thing? caller.id = some k) :
    ∃ r, ∀ x : Exchange World Call, x.faults = [] → x.world.poisoned = true →
      op.Yields caller x r x.world := by
  have hguarded : ∀ {id roleName plan}, op.run caller = guarded caller id roleName plan →
      ∀ x : Exchange World Call, x.faults = [] → x.world.poisoned = true →
        op.Yields caller x (.error .abandoned) x.world := by
    intro id roleName plan hrun x hfaults hlocked
    unfold Operation.Yields
    rw [hrun, guarded_run, loadPost_of_spares (Exchange.spares_of_no_faults hfaults),
      World.tables?_of_poisoned hlocked]
    exact ⟨rfl, rfl⟩
  cases op with
  | update id edit => exact ⟨_, hguarded (run_update caller id edit)⟩
  | delete id => exact ⟨_, hguarded (run_delete caller id)⟩
  | follow id =>
    by_cases hself : caller.id = id
    · exact ⟨_, fun _ _ _ => follow_self hself⟩
    · exact ⟨_, fun _ hfaults hlocked =>
        (followRules_locked caller id hfaults hlocked).follow hself⟩
  | unfollow id =>
    exact ⟨_, fun _ hfaults hlocked => (followRules_locked caller id hfaults hlocked).unfollow⟩
  | _ => cases h

/-- Two steps of a session in both orders. -/
structure Commute (f : Front) (w : World) (first second : Terms × Step) : Prop where
  /-- Each has the same outcome, whether it comes first or second. -/
  outcomes : (runSteps f w [second, first]).1.map Prod.fst =
    ((runSteps f w [first, second]).1.map Prod.fst).reverse
  /-- Whatever is done or asked afterwards, by whomever, has the same outcome and makes the same
  calls, in every step. -/
  afterwards : ∀ steps, (runSteps f (runSteps f w [second, first]).2 steps).1 =
    (runSteps f (runSteps f w [first, second]).2 steps).1

theorem ComesTo.yields {x : Exchange World Call} {s : Store} {k : Thing}
    {r : Except (Stop ServiceError) Answer} {e : Effect}
    (h : ComesTo (op.run caller) k s w.now r e) (hx : SetFor k s w.now x) :
    op.Yields caller x r { x.world with store := e.on w.now x.world.store } := by
  obtain ⟨y, hrun, hy⟩ := h x hx
  rw [Operation.Yields, hrun]
  exact ⟨rfl, hy⟩

theorem outcome_of_yields {terms : Terms} {r : Except (Stop ServiceError) Answer} {after : World}
    (f : Front) (h : op.Yields caller (terms.opening w) r after) :
    ((Step.operate caller op).run f w terms).1 = .ofResult .operated r ∧
      ((Step.operate caller op).run f w terms).2.2 = after := by
  rw [Step.run_operate]
  exact ⟨congrArg (Outcome.ofResult .operated) h.1, h.2⟩

/-- Among the outcomes of a session is one that is no answer. -/
def GivenUp (f : Front) (w : World) (steps : List (Terms × Step)) : Prop :=
  .abandoned ∈ (runSteps f w steps).1.map Prod.fst

section

variable {terms terms' : Terms} {caller' : User} {op' : Operation} {j : Thing}
  {r r' : Except (Stop ServiceError) Answer} {e e' : Effect} (f : Front)

/-- What is given up first is given up. -/
theorem givenUp_of_first (h : (op.run caller (terms.opening w)).1 = .error .abandoned) :
    GivenUp f w [(terms, .operate caller op), (terms', .operate caller' op')] := by
  refine List.mem_cons.mpr (Or.inl ?_)
  show Outcome.abandoned = ((Step.operate caller op).run f w terms).1
  rw [Step.run_operate, h]
  rfl

/-- Two operations in one order, each as it ends on the world that it finds. -/
theorem runSteps_pair_of_yields {v v' : World}
    (hop : op.Yields caller (terms.opening w) r v)
    (hop' : op'.Yields caller' (terms'.opening v) r' v') :
    (runSteps f w [(terms, .operate caller op), (terms', .operate caller' op')]).1.map Prod.fst =
        [.ofResult .operated r, .ofResult .operated r'] ∧
      (runSteps f w [(terms, .operate caller op), (terms', .operate caller' op')]).2 = v' := by
  obtain ⟨houtcome, hafter⟩ := outcome_of_yields f hop
  obtain ⟨houtcome', hafter'⟩ := outcome_of_yields f hop'
  simp only [runSteps, List.map_cons, List.map_nil]
  rw [houtcome, hafter, houtcome', hafter']
  exact ⟨rfl, rfl⟩

/-- A change of another thing leaves what an operation goes by. -/
theorem setFor_second (hfaults' : terms'.faults = []) (hfree : w.poisoned = false) (hjk : j ≠ k)
    (he : e.Within j) :
    SetFor k w.store w.now (terms'.opening { w with store := e.on w.now w.store }) :=
  ⟨hfaults', hfree, rfl, Store.agreeOn_on he hjk w.now w.store⟩

variable (hfaults : terms.faults = []) (hfaults' : terms'.faults = [])
  (hfree : w.poisoned = false) (hjk : j ≠ k) (he : e.Within j)
  (hop : ComesTo (op.run caller) j w.store w.now r e)

include hfaults hfaults' hfree hjk he hop

/-- Two operations in one order: each comes to what it comes to on the first tables. -/
theorem runSteps_pair (hop' : ComesTo (op'.run caller') k w.store w.now r' e') :
    (runSteps f w [(terms, .operate caller op), (terms', .operate caller' op')]).1.map Prod.fst =
        [.ofResult .operated r, .ofResult .operated r'] ∧
      (runSteps f w [(terms, .operate caller op), (terms', .operate caller' op')]).2 =
        { w with store := e'.on w.now (e.on w.now w.store) } := by
  have hfirst : SetFor j w.store w.now (terms.opening w) := ⟨hfaults, hfree, rfl, .refl j w.store⟩
  exact runSteps_pair_of_yields f (hop.yields hfirst)
    (hop'.yields (setFor_second hfaults' hfree hjk he))

/-- What is given up on the first tables is given up after the other operation too. -/
theorem givenUp_of_second (hop' : GivesUp (op'.run caller') k w.store w.now) :
    GivenUp f w [(terms, .operate caller op), (terms', .operate caller' op')] := by
  have hfirst : SetFor j w.store w.now (terms.opening w) := ⟨hfaults, hfree, rfl, .refl j w.store⟩
  have hafter : ((Step.operate caller op).run f w terms).2.2 =
      { w with store := e.on w.now w.store } := (outcome_of_yields f (hop.yields hfirst)).2
  refine List.mem_cons.mpr (Or.inr (List.mem_cons.mpr (Or.inl ?_)))
  show Outcome.abandoned =
    ((Step.operate caller' op').run f ((Step.operate caller op).run f w terms).2.2 terms').1
  rw [hafter, Step.run_operate, hop' _ (setFor_second hfaults' hfree hjk he)]
  rfl

end

end Agora.Social
