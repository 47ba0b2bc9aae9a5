import Agora.Proofs.Social.Endings
import Agora.Proofs.Social.Gate
import Agora.Social.Session

/-!
# What fails or only reads changes no table

Main result: `Step.run_untouched`. A step of a session that is answered with an error, and a step
that only reads, leave the world as it was but for the cache of users. A step that is given up
leaves it like that too, or it broke down in a change and locked the tables.

For an operation this is read off `run_cases`: the only runs that change a table are those that
succeed, in one of the ways of `Changes`, or break down in one of the ways of `Breaks`, and no
operation that reads has such a way. A request over HTTP runs at most one operation
(`handle_cases`), reads with the methods GET and HEAD, and answers an operation that succeeded with
a status below 400.
-/

namespace Agora.Social

open Agora.Http (Request Response Target)

variable {f : Front} {q : Request} {t : Target} {r : Route} {x y : Exchange World Call}
  {w w' w'' : World}

/-! ## All but the cache -/

/-- The tables and their lock, the counter of ids and the clock are the same; only the cache may
differ. -/
def World.Keeps (w after : World) : Prop := after = { w with cache := after.cache }

namespace World.Keeps

theorem refl (w : World) : w.Keeps w := rfl

theorem of_eq (h : w' = w) : w.Keeps w' := by
  rw [h]
  exact refl w

theorem store (h : w.Keeps w') : w'.store = w.store := by
  rw [h]

theorem now (h : w.Keeps w') : w'.now = w.now := by
  rw [h]

theorem poisoned (h : w.Keeps w') : w'.poisoned = w.poisoned := by
  rw [h]

theorem symm (h : w.Keeps w') : w'.Keeps w := by
  unfold World.Keeps at h ⊢
  rw [h]

theorem trans (h : w.Keeps w') (h' : w'.Keeps w'') : w.Keeps w'' := by
  unfold World.Keeps at h h' ⊢
  rw [h', h]

end World.Keeps

/-- Something broke down in a change of the tables and left them locked. -/
structure World.Damages (w after : World) : Prop where
  tables : Store.Remains w.store after.store
  rest : after = { w with store := after.store, cache := after.cache, poisoned := true }

/-! ## What fails and what reads -/

/-- The operation only asks for something. -/
def Operation.reads : Operation → Bool
  | .get _ | .profile _ | .feed _ => true
  | .create _ | .update .. | .delete _ | .comment .. | .follow _ | .unfollow _ => false

/-- The step only asks for something; over HTTP, its method says so. -/
def Step.reads : Step → Bool
  | .isFollowing .. | .peekPost _ | .authorize .. | .resolve _ | .resolveAll _ => true
  | .operate _ op => op.reads
  | .request q _ => isReading q.method
  | .plantUser .. | .plantPost .. | .plantComment _ | .plantFollow .. | .plantCached _
  | .setClock _ => false

/-- What was asked for was not done: an error, or a status of 400 or above. -/
def Outcome.failed : Outcome → Bool
  | .operated (.error _) | .authorized (.error _) | .resolved (.error _) => true
  | .responded response => 400 ≤ response.status
  | _ => false

/-! ## Operations -/

/-- An operation that reads has no way to change a table. -/
theorem Changes.not_reads {caller : User} {op : Operation} {answer : Answer} {store : Store}
    (h : Changes x caller op answer store) : op.reads = false := by
  cases h <;> rfl

theorem Breaks.not_reads {caller : User} {op : Operation} {store : Store}
    (h : Breaks x caller op store) : op.reads = false := by
  cases h <;> rfl

/-- An operation keeps the tables, or it is one that writes, and makes its change or breaks down in
it. -/
theorem operation_cases {caller : User} {op : Operation}
    {result : Except (Stop ServiceError) Answer} (h : op.run caller x = (result, y)) :
    x.world.Keeps y.world ∨
      (∃ answer store, result = .ok answer ∧ Changes x caller op answer store ∧
        y.world = { x.world with store }) ∨
      ∃ store, result = .error .abandoned ∧ Breaks x caller op store ∧
        y.world = { x.world with store, poisoned := true } := by
  obtain hsame | ⟨_, _, hworld⟩ | hended := run_cases h
  · exact Or.inl (.of_eq hsame)
  · exact Or.inl hworld
  · exact Or.inr hended

theorem run_settles {caller : User} {op : Operation} {r : Except (Stop ServiceError) Answer}
    (h : op.run caller x = (r, y)) (hwrites : op.reads = false) :
    Settles x caller op r y.world := by
  cases op with
  | create draft => exact settles_of_form h settles_createPost
  | update id edit => exact settles_of_form h settles_updatePost
  | delete id => exact settles_of_form h settles_deletePost
  | comment id draft => exact settles_of_form h settles_commentPost
  | follow id => exact settles_of_form h settles_follow
  | unfollow id => exact settles_of_form h settles_unfollow
  | get id => cases hwrites
  | profile id => cases hwrites
  | feed params => cases hwrites

/-- An operation that reads keeps the tables, whatever comes of it. -/
theorem keeps_of_reads {caller : User} {op : Operation} {r : Except (Stop ServiceError) Answer}
    (h : op.run caller x = (r, y)) (hreads : op.reads = true) : x.world.Keeps y.world := by
  obtain hkeeps | ⟨_, _, _, hchange, _⟩ | ⟨_, _, hbreak, _⟩ := operation_cases h
  · exact hkeeps
  · rw [hchange.not_reads] at hreads
    cases hreads
  · rw [hbreak.not_reads] at hreads
    cases hreads

/-- Looking for several users changes nothing but the cache. -/
theorem resolveAll_keeps {ε : Type} {ids : List Int}
    {result : Except (Stop ε) (List (Except ResolveError User))}
    (h : resolveAll ids x = (result, y)) : x.world.Keeps y.world := by
  induction ids generalizing x result with
  | nil =>
    obtain ⟨_, rfl⟩ := Prod.mk.inj h
    exact .refl _
  | cons id rest ih =>
    obtain ⟨_, hfirst, _⟩ | ⟨first, z, hfirst, h⟩ := Agora.Action.bind_eq h
    · obtain ⟨_, hfirst, _⟩ := Agora.Action.attempt_eq hfirst
      exact (resolve_cases hfirst).1
    -- the others are looked for in the world that the first one left
    obtain ⟨_, hfirst, _⟩ := Agora.Action.attempt_eq hfirst
    have hz : x.world.Keeps z.world := (resolve_cases hfirst).1
    obtain ⟨_, hrest, _⟩ | ⟨_, v, hrest, h⟩ := Agora.Action.bind_eq h
    · exact hz.trans (ih hrest)
    · obtain ⟨_, rfl⟩ := Prod.mk.inj h
      exact hz.trans (ih hrest)

/-! ## Requests -/

theorem success_status (op : Operation) (answer : Answer) : (op.success answer).status < 400 := by
  cases op <;> simp [Operation.success, Response.json, Response.bare]

/-- What is read from a request with a reading method is an operation that reads. -/
theorem reads_of_reader {reader : Request → Target → Except Response Operation}
    {op : Operation} (hmethod : isReading q.method = true)
    (hreader : r.reader? q.method = some reader) (hop : reader q t = .ok op) :
    op.reads = true := by
  have hpost : q.method ≠ "POST" := by
    intro h
    rw [h] at hmethod
    exact absurd hmethod (by decide)
  have hput : q.method ≠ "PUT" := by
    intro h
    rw [h] at hmethod
    exact absurd hmethod (by decide)
  cases r with
  | health => simp [Route.reader?] at hreader
  | posts => simp [Route.reader?, hpost] at hreader
  | comments id => simp [Route.reader?, hpost] at hreader
  | follow id => simp [Route.reader?, hput] at hreader
  | unfollow id => simp [Route.reader?, hput] at hreader
  | post id =>
    simp only [Route.reader?, hmethod, if_true, Option.some.injEq] at hreader
    subst hreader
    obtain ⟨_, _, hop⟩ := Result.bind_eq_ok.mp hop
    cases hop
    rfl
  | user id =>
    simp only [Route.reader?, hmethod, if_true, Option.some.injEq] at hreader
    subst hreader
    obtain ⟨_, _, hop⟩ := Result.bind_eq_ok.mp hop
    cases hop
    rfl
  | feed =>
    simp only [Route.reader?, hmethod, if_true, Option.some.injEq] at hreader
    subst hreader
    simp only at hop
    split at hop
    next =>
      cases hop
      rfl
    next => cases hop

/-- An operation that writes is not read from a request with a reading method. -/
theorem not_reading_of_reader {reader : Request → Target → Except Response Operation}
    {op : Operation} (hreader : r.reader? q.method = some reader) (hop : reader q t = .ok op)
    (hwrites : op.reads = false) : isReading q.method = false := by
  cases hmethod : isReading q.method with
  | false => rfl
  | true =>
    rw [reads_of_reader hmethod hreader hop] at hwrites
    cases hwrites

/-- All that serving a known caller can do. -/
theorem serve_cases {u : User} :
    x.world.Keeps (serve r q t u x).2.world ∨
      (∃ op answer store, Changes x u op answer store ∧
        (serve r q t u x).2.world = { x.world with store } ∧ isReading q.method = false ∧
        (serve r q t u x).1 = .ok (op.success answer)) ∨
      ∃ op store, Breaks x u op store ∧
        (serve r q t u x).2.world = { x.world with store, poisoned := true } ∧
        isReading q.method = false ∧ (serve r q t u x).1 = .error .abandoned := by
  rw [serve_run]
  cases hreader : r.reader? q.method with
  | none => exact Or.inl (.refl _)
  | some reader =>
    simp only
    cases hop : reader q t with
    | error a => exact Or.inl (.refl _)
    | ok op =>
      simp only
      cases hrun : op.run u x with
      | mk result z =>
        obtain hkeeps | ⟨answer, store, rfl, hchange, hworld⟩ | ⟨store, rfl, hbreak, hworld⟩ :=
          operation_cases hrun
        · exact Or.inl hkeeps
        · exact Or.inr (Or.inl ⟨op, answer, store, hchange, hworld,
            not_reading_of_reader hreader hop hchange.not_reads, rfl⟩)
        · exact Or.inr (Or.inr ⟨op, store, hbreak, hworld,
            not_reading_of_reader hreader hop hbreak.not_reads, rfl⟩)

/-- All that a request can do: it keeps the tables, or its method is one that writes, and its
caller's operation makes its change and the response says so, or breaks down in it. -/
theorem handle_cases {response : Option Response} (h : f.handle q t x = (response, y)) :
    x.world.Keeps y.world ∨
      (∃ u op answer store z, x.world.Keeps z.world ∧ Changes z u op answer store ∧
        y.world = { z.world with store } ∧ isReading q.method = false ∧
        ∃ a, response = some a ∧ a.status < 400) ∨
      ∃ u op store z, x.world.Keeps z.world ∧ Breaks z u op store ∧
        y.world = { z.world with store, poisoned := true } ∧ isReading q.method = false ∧
        response = none := by
  -- until the caller is found nothing but the cache can change
  cases hroute : Route.ofSegments? t.segments with
  | none =>
    unfold Front.handle at h
    rw [hroute] at h
    obtain ⟨_, rfl⟩ := Prod.mk.inj h
    exact Or.inl (.refl _)
  | some r =>
    by_cases hhealth : r = .health
    · subst hhealth
      unfold Front.handle at h
      rw [hroute] at h
      obtain ⟨_, rfl⟩ := Prod.mk.inj h
      exact Or.inl (.refl _)
    cases hsubject : f.subject x.world.now q with
    | error stop =>
      rw [handle_of_stop hroute hhealth hsubject] at h
      obtain ⟨_, rfl⟩ := Prod.mk.inj h
      exact Or.inl (.refl _)
    | ok id =>
      cases hresolve : resolve id x with
      | mk found z =>
        have hz : x.world.Keeps z.world := (resolve_cases hresolve).1
        cases found with
        | error e =>
          rw [handle_of_resolve_error hroute hhealth hsubject hresolve] at h
          obtain ⟨_, rfl⟩ := Prod.mk.inj h
          exact Or.inl hz
        | ok u =>
          rw [handle_of_resolve_ok hroute hhealth hsubject hresolve] at h
          obtain ⟨rfl, rfl⟩ := Prod.mk.inj h
          -- from there on the operation of the request decides
          obtain hserve | ⟨op, answer, store, hchange, hworld, hmethod, hanswer⟩ |
              ⟨op, store, hbreak, hworld, hmethod, hanswer⟩ :=
            serve_cases (r := r) (q := q) (t := t) (x := z) (u := u)
          · exact Or.inl (hz.trans hserve)
          · refine Or.inr (Or.inl ⟨u, op, answer, store, z, hz, hchange, hworld, hmethod, ?_⟩)
            rw [hanswer]
            refine ⟨trimBody r q.method (op.success answer), rfl, ?_⟩
            rw [trimBody_status]
            exact success_status op answer
          · refine Or.inr (Or.inr ⟨u, op, store, z, hz, hbreak, hworld, hmethod, ?_⟩)
            rw [hanswer]
            rfl

/-! ## Steps -/

/-- The exchange that a step begins with. -/
def Terms.opening (terms : Terms) (w : World) : Exchange World Call where
  world := w
  deadline := some terms.deadline
  faults := terms.faults

theorem Step.run_operate (f : Front) (w : World) (terms : Terms) (caller : User) (op : Operation) :
    (Step.operate caller op).run f w terms =
      (.ofResult .operated (op.run caller (terms.opening w)).1,
        (op.run caller (terms.opening w)).2.calls,
        (op.run caller (terms.opening w)).2.world) := rfl

theorem Step.run_request (f : Front) (w : World) (terms : Terms) (q : Request) (t : Target) :
    (Step.request q t).run f w terms =
      (.ofResponse (f.handle q t (terms.opening w)).1,
        (f.handle q t (terms.opening w)).2.calls, (f.handle q t (terms.opening w)).2.world) := rfl

/-- What is planted is planted whole, or in part with the lock lost, or not at all since the tables
are locked. -/
theorem plant_cases {α : Type} (w : World) (report : α → Outcome)
    (change : Store → Ending Store Empty α) :
    (∃ a store, change w.store = .ok (a, store) ∧
        plant w report change = (report a, [], { w with store })) ∨
      plant w report change = (.abandoned, [], w) ∨
      ∃ store, change w.store = .broken store ∧
        plant w report change = (.abandoned, [], { w with store, poisoned := true }) := by
  unfold plant
  cases hrun : w.onStore change with
  | ok result =>
    obtain ⟨_, store, hrow, hw⟩ := World.onStore_eq_ok hrun
    exact Or.inl ⟨result.1, store, hrow, by simp only [← hw]⟩
  | error e => cases e
  | broken after =>
    obtain ⟨_, rfl⟩ | ⟨_, store, hrow, rfl⟩ := World.onStore_eq_broken hrun
    · exact Or.inr (Or.inl rfl)
    · exact Or.inr (Or.inr ⟨store, hrow, rfl⟩)

theorem peek_world (w : World) (report : Store → Outcome) : (peek w report).2.2 = w := by
  unfold peek
  cases w.tables? <;> rfl

/-- A step that reads keeps the tables, whatever comes of it. -/
theorem Step.run_keeps (f : Front) (w : World) (terms : Terms) {step : Step}
    (hreads : step.reads = true) : w.Keeps (step.run f w terms).2.2 := by
  cases step with
  | isFollowing follower followed => exact .of_eq (peek_world w _)
  | peekPost id => exact .of_eq (peek_world w _)
  | authorize caller owner roleName => exact .of_eq (authorize_cases rfl).1
  | resolve id => exact (resolve_cases rfl).1
  | resolveAll ids => exact resolveAll_keeps (ε := Empty) rfl
  | operate caller op => exact keeps_of_reads (x := terms.opening w) rfl hreads
  | request q t =>
    rw [Step.run_request]
    cases hrun : f.handle q t (terms.opening w) with
    | mk response y =>
      obtain hkeeps | ⟨_, _, _, _, _, _, _, _, hwrites, _⟩ | ⟨_, _, _, _, _, _, _, hwrites, _⟩ :=
        handle_cases hrun
      · exact hkeeps
      · cases hwrites.symm.trans hreads
      · cases hwrites.symm.trans hreads
  | _ => cases hreads

/-- A step of a session against the world that it was run on: its outcome and the world after. -/
structure Untouched (w : World) (step : Step) (outcome : Outcome) (after : World) : Prop where
  /-- What fails leaves users, roles, posts, comments, edges and the counter as they were. -/
  failed : outcome.failed = true → w.Keeps after
  /-- What reads does so whatever it is answered. -/
  reading : step.reads = true → w.Keeps after
  /-- So does what is given up, unless it broke down in the middle of a change. -/
  abandoned : outcome = .abandoned → w.Keeps after ∨ w.Damages after

theorem untouched_of_keeps {step : Step} {outcome : Outcome} (h : w.Keeps w') :
    Untouched w step outcome w' :=
  ⟨fun _ => h, fun _ => h, fun _ => Or.inl h⟩

/-- Nothing is promised of what succeeds and writes. -/
theorem untouched_of_done {step : Step} {outcome : Outcome} (hdone : outcome.failed = false)
    (hwrites : step.reads = false) (hanswered : outcome ≠ .abandoned) :
    Untouched w step outcome w' := by
  refine ⟨?_, ?_, fun h => absurd h hanswered⟩
  · rw [hdone]
    intro h
    cases h
  · rw [hwrites]
    intro h
    cases h

theorem untouched_of_damages {step : Step} (h : w.Damages w') (hwrites : step.reads = false) :
    Untouched w step .abandoned w' := by
  refine ⟨nofun, ?_, fun _ => Or.inr h⟩
  rw [hwrites]
  exact nofun

/-- What is planted was not asked for, so that only what breaks down matters. -/
theorem untouched_plant {α : Type} {step : Step} {report : α → Outcome}
    {change : Store → Ending Store Empty α} (hwrites : step.reads = false)
    (hdone : ∀ a, (report a).failed = false ∧ report a ≠ .abandoned)
    (hremains : ∀ store, change w.store = .broken store → Store.Remains w.store store) :
    Untouched w step (plant w report change).1 (plant w report change).2.2 := by
  obtain ⟨a, store, _, hrun⟩ | hrun | ⟨store, hrow, hrun⟩ := plant_cases w report change
  · rw [hrun]
    exact untouched_of_done (hdone a).1 hwrites (hdone a).2
  · rw [hrun]
    exact untouched_of_keeps (.refl w)
  · rw [hrun]
    exact untouched_of_damages ⟨hremains store hrow, rfl⟩ hwrites

/-- Every step of every session: what fails or only reads changes no table. -/
theorem Step.run_untouched (f : Front) (w : World) (terms : Terms) (step : Step) :
    Untouched w step (step.run f w terms).1 (step.run f w terms).2.2 := by
  cases step with
  | plantUser username roleName =>
    exact untouched_plant rfl (fun _ => ⟨rfl, nofun⟩) fun _ => Store.remains_addUser
  | plantPost new time => exact untouched_plant rfl (fun _ => ⟨rfl, nofun⟩) fun _ => nofun
  | plantComment new =>
    exact untouched_plant rfl (fun _ => ⟨rfl, nofun⟩) fun _ => Store.remains_plantComment
  | plantFollow follower followed =>
    exact untouched_plant rfl (fun _ => ⟨rfl, nofun⟩) fun _ => nofun
  | plantCached user => exact untouched_of_keeps rfl
  | isFollowing follower followed => exact untouched_of_keeps (Step.run_keeps f w terms rfl)
  | peekPost id => exact untouched_of_keeps (Step.run_keeps f w terms rfl)
  | setClock now => exact untouched_of_done rfl rfl nofun
  | operate caller op =>
    rw [Step.run_operate]
    cases hrun : op.run caller (terms.opening w) with
    | mk result y =>
      obtain hkeeps | ⟨answer, store, rfl, hchange, _⟩ | ⟨store, rfl, hbreak, hworld⟩ :=
        operation_cases hrun
      · exact untouched_of_keeps hkeeps
      · exact untouched_of_done rfl hchange.not_reads nofun
      · refine untouched_of_damages ⟨?_, ?_⟩ hbreak.not_reads
        · rw [hworld]
          exact hbreak.remains
        · rw [hworld]
          rfl
  | authorize caller owner roleName =>
    exact untouched_of_keeps (Step.run_keeps f w terms rfl)
  | resolve id => exact untouched_of_keeps (Step.run_keeps f w terms rfl)
  | resolveAll ids => exact untouched_of_keeps (Step.run_keeps f w terms rfl)
  | request q t =>
    rw [Step.run_request]
    cases hrun : f.handle q t (terms.opening w) with
    | mk response y =>
      obtain hkeeps | ⟨_, _, _, _, _, _, _, _, hmethod, a, rfl, hstatus⟩ |
          ⟨_, _, store, z, hz, hbreak, hworld, hmethod, rfl⟩ := handle_cases hrun
      · exact untouched_of_keeps hkeeps
      · exact untouched_of_done (by simpa [Outcome.failed, Outcome.ofResponse] using hstatus)
          hmethod nofun
      · refine untouched_of_damages ⟨?_, ?_⟩ hmethod
        · have hremains := hbreak.remains
          rw [hz.store] at hremains
          rw [hworld]
          exact hremains
        · rw [hworld, hz]
          rfl

end Agora.Social
