import Agora.Proofs.Social.Untouched

/-!
# What a session did

A `Deed` is an operation that was run: for whom, and with what result. A step that is an operation
has it for its deed, and a request has the one that it comes to when its caller is known and its
arguments are read. The deeds of a session are what its history is told by.

`Step.way` is all that a step can do to the tables, in view of its deed. The tables stay, and then
no deed that writes succeeded; or the deed succeeded and made its change; or a row was planted. What
breaks down on either way has ways of its own.
-/

namespace Agora.Social

open Agora.Http (Request Target)

variable {f : Front} {q : Request} {t : Target} {x z : Exchange World Call} {w : World} {u : User}

/-- An operation that was run: who for, and how it ended. -/
structure Deed where
  caller : User
  op : Operation
  result : Except (Stop ServiceError) Answer

/-- The deed of running an operation in an exchange. -/
def Deed.of (caller : User) (op : Operation) (x : Exchange World Call) : Deed :=
  ⟨caller, op, (op.run caller x).1⟩

/-- The deed has written nothing: it only asked for something, or it failed. -/
def Deed.Idle (d : Deed) : Prop := d.op.reads = true ∨ ∃ e, d.result = .error e

/-- What idle deeds have no part in. -/
theorem bind_of_idle {α : Type} {deed? : Option Deed} {g : Deed → Option α}
    (hg : ∀ d : Deed, d.Idle → g d = none) (hidle : ∀ d, deed? = some d → d.Idle) :
    deed?.bind g = none := by
  rw [Option.bind_eq_none_iff]
  exact fun d hd => hg d (hidle d hd)

/-! ## Requests -/

/-- The deed of a request on a route when its caller is known, if the operation can be read. -/
def Route.deed? (r : Route) (q : Request) (t : Target) (caller : User)
    (x : Exchange World Call) : Option Deed :=
  (r.reader? q.method).bind fun reader => (reader q t).toOption.map fun op => .of caller op x

/-- The deed of a request: what is asked for, of the caller that was found, in the exchange as it is
when the caller was found. -/
def Front.deed? (f : Front) (q : Request) (t : Target) (x : Exchange World Call) : Option Deed :=
  (Route.ofSegments? t.segments).bind fun r => match f.caller q x with
    | (.ok u, z) => r.deed? q t u z
    | (.error _, _) => none

/-- Serving a known caller is to run the deed, or to do nothing. -/
theorem serve_deed (r : Route) (q : Request) (t : Target) (u : User) (z : Exchange World Call) :
    (r.deed? q t u z = none ∧ (serve r q t u z).2 = z) ∨
      ∃ op, r.deed? q t u z = some (.of u op z) ∧
        serve r q t u z = (responseTo op (op.run u z).1, (op.run u z).2) := by
  rw [serve_run]
  unfold Route.deed?
  cases r.reader? q.method with
  | none => exact Or.inl ⟨rfl, rfl⟩
  | some reader =>
    simp only [Option.bind_some]
    cases reader q t with
    | error response => exact Or.inl ⟨rfl, rfl⟩
    | ok op => exact Or.inr ⟨op, rfl, rfl⟩

/-- A request keeps the tables on its way to the caller, and then runs its deed and answers with how
that ended. -/
theorem handle_deed (f : Front) (q : Request) (t : Target) (x : Exchange World Call) :
    (f.deed? q t x = none ∧ x.world.Keeps (f.handle q t x).2.world) ∨
      ∃ r u op z, f.caller q x = (.ok u, z) ∧ f.deed? q t x = some (.of u op z) ∧
        x.world.Keeps z.world ∧ f.handle q t x =
          (report r q.method (responseTo op (op.run u z).1), (op.run u z).2) := by
  unfold Front.deed?
  cases hroute : Route.ofSegments? t.segments with
  | none =>
    rw [handle_of_no_route hroute]
    exact Or.inl ⟨rfl, .refl _⟩
  | some r =>
    simp only [Option.bind_some]
    by_cases hhealth : r = .health
    · -- nobody is asked for who wants to know about the health
      subst hhealth
      rw [handle_of_health hroute]
      refine Or.inl ⟨?_, .refl _⟩
      cases f.caller q x with
      | mk found z => cases found <;> rfl
    rw [handle_run hroute hhealth, Agora.Action.bind_run, caller_run]
    cases f.subject x.world.now q with
    | error stop => exact Or.inl ⟨rfl, .refl _⟩
    | ok id =>
      simp only
      rw [Agora.Action.mapError_apply]
      cases hresolve : resolve id x with
      | mk found z =>
        have hz : x.world.Keeps z.world := (resolve_cases hresolve).1
        cases found with
        | error e => exact Or.inl ⟨rfl, hz⟩
        | ok u =>
          obtain ⟨hdeed, hserve⟩ | ⟨op, hdeed, hserve⟩ := serve_deed r q t u z
          · refine Or.inl ⟨hdeed, ?_⟩
            show x.world.Keeps (serve r q t u z).2.world
            rw [hserve]
            exact hz
          · refine Or.inr ⟨r, u, op, z, rfl, hdeed, hz, ?_⟩
            show (report r q.method (serve r q t u z).1, (serve r q t u z).2) = _
            rw [hserve]

/-! ## Steps -/

/-- The deed of a step, if it has one. -/
def Step.deed? (f : Front) (w : World) (terms : Terms) : Step → Option Deed
  | .operate caller op => some (.of caller op (terms.opening w))
  | .request q t => f.deed? q t (terms.opening w)
  | .plantUser .. | .plantPost .. | .plantComment _ | .plantFollow .. | .plantCached _
  | .isFollowing .. | .peekPost _ | .setClock _ | .authorize .. | .resolve _ | .resolveAll _ => none

/-- What a step with a deed makes of the tables of a world. -/
inductive Step.Way (w : World) : Step → Option Deed → Store → Prop
  /-- Nothing, and if there was something to write, it was not done. -/
  | keeps {step : Step} {deed? : Option Deed}
      (hidle : ∀ d, deed? = some d → d.Idle) : Way w step deed? w.store
  /-- What the deed says. -/
  | does {step : Step} {d : Deed} {x : Exchange World Call} {answer : Answer} {store : Store}
      (hx : w.Keeps x.world) (hresult : d.result = .ok answer) (hfit : d.op.IsFit)
      (hchange : Changes x d.caller d.op answer store) : Way w step (some d) store
  /-- What the deed had written when it broke down. -/
  | breaks {step : Step} {d : Deed} {x : Exchange World Call} {store : Store}
      (hx : w.Keeps x.world) (hresult : d.result = .error .abandoned) (hfit : d.op.IsFit)
      (hbreak : Breaks x d.caller d.op store) : Way w step (some d) store
  | plantsUser {username roleName : String} {u : User} {store : Store}
      (hrow : w.store.addUser w.now username roleName = .ok (u, store)) :
      Way w (.plantUser username roleName) none store
  | plantsPost (new : Store.NewPost) (time : Time.Instant) :
      Way w (.plantPost new time) none (w.store.addPost new time).2
  | plantsComment {new : Store.NewComment} {c : Comment} {store : Store}
      (hrow : w.store.plantComment w.now new = .ok (c, store)) :
      Way w (.plantComment new) none store
  | plantsFollow (follower followed : Int) :
      Way w (.plantFollow follower followed) none (w.store.addFollow follower followed)
  /-- An id was taken for a row that was not planted. -/
  | skips {step : Step} : Way w step none w.store.skipId

/-- A step that has no deed and keeps the tables. -/
theorem Step.Way.of_same {step : Step} : Way w step none w.store := by
  refine .keeps ?_
  intro d hd
  cases hd

theorem Step.Way.of_keeps {step : Step} {w' : World} (h : w.Keeps w') :
    Way w step none w'.store := by
  rw [h.store]
  exact .of_same

/-- A deed ends as its operation does. -/
theorem Step.Way.of_run {step : Step} {op : Operation} {r : Except (Stop ServiceError) Answer}
    {y : Exchange World Call} (hrun : op.run u z = (r, y)) (hz : w.Keeps z.world) :
    Way w step (some ⟨u, op, r⟩) y.world.store := by
  cases hreads : op.reads with
  | true =>
    rw [(hz.trans (keeps_of_reads hrun hreads)).store]
    refine .keeps ?_
    intro d hd
    obtain rfl := Option.some.inj hd
    exact Or.inl hreads
  | false =>
    have hsettles := run_settles hrun hreads
    generalize y.world = after at hsettles ⊢
    cases hsettles with
    | fails e =>
      rw [hz.store]
      refine .keeps ?_
      intro d hd
      obtain rfl := Option.some.inj hd
      exact Or.inr ⟨e, rfl⟩
    | succeeds hfit hchange => exact .does hz rfl hfit hchange
    | breaks hfit hbreak => exact .breaks hz rfl hfit hbreak

/-- What is planted goes its way if each end of its change does. -/
theorem Step.Way.of_plant {step : Step} {α : Type} {report : α → Outcome}
    {change : Store → Ending Store Empty α}
    (hmade : ∀ a store, change w.store = .ok (a, store) → Way w step none store)
    (hbroken : ∀ store, change w.store = .broken store → store = w.store ∨ store = w.store.skipId) :
    Way w step none (plant w report change).2.2.store := by
  obtain ⟨a, store, hrow, hrun⟩ | hrun | ⟨store, hrow, hrun⟩ := plant_cases w report change
  · rw [hrun]
    exact hmade a store hrow
  · rw [hrun]
    exact .of_same
  · rw [hrun]
    obtain rfl | rfl := hbroken store hrow
    · exact .of_same
    · exact .skips

/-- All that a step can do to the tables. -/
theorem Step.way (f : Front) (w : World) (terms : Terms) (step : Step) :
    Step.Way w step (step.deed? f w terms) (step.run f w terms).2.2.store := by
  cases step with
  | operate caller op =>
    rw [Step.run_operate]
    simp only [Step.deed?, Deed.of]
    cases hrun : op.run caller (terms.opening w) with
    | mk r y => exact .of_run hrun (.refl w)
  | request q t =>
    rw [Step.run_request]
    simp only [Step.deed?]
    obtain ⟨hdeed, hworld⟩ | ⟨_, u, op, z, _, hdeed, hz, hhandle⟩ :=
      handle_deed f q t (terms.opening w)
    · rw [hdeed]
      exact .of_keeps hworld
    · rw [hdeed, hhandle]
      simp only [Deed.of]
      cases hrun : op.run u z with
      | mk r y => exact .of_run hrun hz
  | plantUser username roleName =>
    refine .of_plant (fun u store hrow => .plantsUser hrow) fun store hrow => ?_
    exact (Store.addUser_broken hrow).imp And.right And.right
  | plantPost new time =>
    refine .of_plant (fun p store hrow => ?_) fun _ => nofun
    obtain ⟨_, rfl⟩ := Prod.mk.inj (Ending.ok.inj hrow)
    exact .plantsPost new time
  | plantComment new =>
    refine .of_plant (fun c store hrow => .plantsComment hrow) fun store hrow => ?_
    exact (Store.plantComment_broken hrow).imp And.right And.right
  | plantFollow follower followed =>
    refine .of_plant (fun _ store hrow => ?_) fun _ => nofun
    obtain ⟨_, rfl⟩ := Prod.mk.inj (Ending.ok.inj hrow)
    exact .plantsFollow follower followed
  | plantCached user => exact .of_same
  | isFollowing follower followed => exact .of_keeps (Step.run_keeps f w terms rfl)
  | peekPost id => exact .of_keeps (Step.run_keeps f w terms rfl)
  | setClock now => exact .of_same
  | authorize caller owner roleName => exact .of_keeps (Step.run_keeps f w terms rfl)
  | resolve id => exact .of_keeps (Step.run_keeps f w terms rfl)
  | resolveAll ids => exact .of_keeps (Step.run_keeps f w terms rfl)

/-! ## Sessions -/

/-- The deeds of a session, in their order. -/
def deeds (f : Front) (w : World) : List (Terms × Step) → List Deed
  | [] => []
  | (terms, step) :: rest =>
    (step.deed? f w terms).toList ++ deeds f (step.run f w terms).2.2 rest

/-- What is told by the deeds of a session begins with what the deed of its first step tells. -/
theorem filterMap_deeds {α : Type} (g : Deed → Option α) (f : Front) (w : World) (terms : Terms)
    (step : Step) (rest : List (Terms × Step)) :
    (deeds f w ((terms, step) :: rest)).filterMap g =
      ((step.deed? f w terms).bind g).toList ++
        (deeds f (step.run f w terms).2.2 rest).filterMap g := by
  rw [deeds, List.filterMap_append]
  cases step.deed? f w terms with
  | none => rfl
  | some d =>
    cases hd : g d with
    | none => simp [hd]
    | some a => simp [hd]

end Agora.Social
