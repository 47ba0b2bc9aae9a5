import Agora.Proofs.Social.CacheAside
import Agora.Proofs.Social.Composition
import Agora.Proofs.Social.Untouched

/-!
# One deadline for a whole request

Main result: `bounded_by_deadline`. All calls of an operation, and all calls of a request over HTTP,
those that find its caller included, share one deadline. What time does to each of them is `OnTime`;
what a cut does to the request depends on the call. A call on a table that is cut ends the request
as cancelled; a call on the cache that is cut is passed over.

`Went` is this rule as a relation on the calls of a run, in their order. It is kept when one run
follows another (`Went.append`), so every operation obeys it, by induction on what it is composed of
(`timely_of_composed`).
-/

namespace Agora.Social

open Agora.Exchange (Made Ran wasCut)
open Agora.Http (Request Response Target)

variable {f : Front} {q : Request} {t : Target} {r : Route} {x y : Exchange World Call}
  {made made' : List (Made World Call)} {m : Made World Call}

/-! ## Calls in a row -/

/-- The calls of a run in their order, and whether the run ends as cancelled. -/
inductive Went : List (Made World Call) → Bool → Prop
  | done : Went [] false
  /-- A call on a table that is cut is the last one. -/
  | stopped {m : Made World Call} (hcut : m.cut = true) (htable : m.call.isOnCache = false) :
      Went [m] true
  | ended {m : Made World Call} {rest : List (Made World Call)} {cancelled : Bool}
      (hcut : m.cut = false) (hrest : Went rest cancelled) : Went (m :: rest) cancelled
  /-- Asking the cache for a user was cut. That is a miss, so the table is asked. -/
  | missed {id : Int} {m next : Made World Call} {rest : List (Made World Call)} {cancelled : Bool}
      (hcut : m.cut = true) (hcall : m.call = .cachedUser id)
      (hmiss : (cachedUser id : Action ResolveError _) m.before = (.ok none, m.after))
      (hnext : next.call = .userById id) (hrest : Went (next :: rest) cancelled) :
      Went (m :: next :: rest) cancelled
  /-- Putting a user into the cache was cut. Nothing comes of that. -/
  | ignored {u : User} {m : Made World Call} {rest : List (Made World Call)} {cancelled : Bool}
      (hcut : m.cut = true) (hcall : m.call = .cacheUser u.id)
      (hdone : (remember u : Action ResolveError _) m.before = (.ok (), m.after))
      (hrest : Went rest cancelled) : Went (m :: rest) cancelled

namespace Went

/-- A run that is not cancelled can be followed by another one. -/
theorem append {before : Bool} (h : Went made before) (hbefore : before = false) {cancelled : Bool}
    (h' : Went made' cancelled) : Went (made ++ made') cancelled := by
  induction h with
  | done => exact h'
  | stopped => cases hbefore
  | ended hcut _ ih => exact .ended hcut (ih hbefore)
  | missed hcut hcall hmiss hnext _ ih => exact .missed hcut hcall hmiss hnext (ih hbefore)
  | ignored hcut hcall hdone _ ih => exact .ignored hcut hcall hdone (ih hbefore)

theorem cancelled_iff {cancelled : Bool} (h : Went made cancelled) :
    cancelled = true ↔ ∃ m ∈ made, m.cut = true ∧ m.call.isOnCache = false := by
  induction h with
  | done => simp
  | stopped hcut htable => simp [hcut, htable]
  | ended hcut _ ih => simp [ih, hcut]
  | missed _ hcall _ _ _ ih => simp [ih, hcall, Call.isOnCache]
  | ignored _ hcall _ _ ih => simp [ih, hcall, Call.isOnCache]

theorem tail {cancelled : Bool} (h : Went (m :: made) cancelled) :
    ∃ cancelled, Went made cancelled := by
  cases h with
  | stopped => exact ⟨false, .done⟩
  | ended _ hrest => exact ⟨_, hrest⟩
  | missed _ _ _ _ hrest => exact ⟨_, hrest⟩
  | ignored _ _ _ hrest => exact ⟨_, hrest⟩

/-- What follows in a run went in the same way. -/
theorem from_call {before after : List (Made World Call)} {cancelled : Bool}
    (h : Went made cancelled) (hmade : made = before ++ m :: after) :
    ∃ cancelled, Went (m :: after) cancelled := by
  subst hmade
  induction before generalizing cancelled with
  | nil => exact ⟨cancelled, h⟩
  | cons first rest ih =>
    obtain ⟨_, hrest⟩ := h.tail
    exact ih hrest

/-- All that a cut can do, by the call. -/
theorem cut_cases {before after : List (Made World Call)} {cancelled : Bool}
    (h : Went made cancelled) (hmade : made = before ++ m :: after) (hcut : m.cut = true) :
    (m.call.isOnCache = false ∧ after = []) ∨
      (∃ id, m.call = .cachedUser id ∧
        (cachedUser id : Action ResolveError _) m.before = (.ok none, m.after) ∧
        ∃ next rest, after = next :: rest ∧ next.call = .userById id) ∨
      ∃ u : User, m.call = .cacheUser u.id ∧
        (remember u : Action ResolveError _) m.before = (.ok (), m.after) := by
  obtain ⟨_, hrest⟩ := h.from_call hmade
  cases hrest with
  | stopped _ htable => exact Or.inl ⟨htable, rfl⟩
  | ended hended =>
    rw [hcut] at hended
    cases hended
  | missed _ hcall hmiss hnext => exact Or.inr (Or.inl ⟨_, hcall, hmiss, _, _, rfl, hnext⟩)
  | ignored _ hcall hdone => exact Or.inr (Or.inr ⟨_, hcall, hdone⟩)

end Went

/-! ## Actions -/

/-- The action was cancelled. -/
def endedCancelled {ε α : Type} [Cancellable ε] : Except (Stop ε) α → Bool
  | .ok _ | .error .abandoned => false
  | .error (.refused e) => isCancelled e

theorem endedCancelled_iff {α : Type} {result : Except (Stop ServiceError) α} :
    endedCancelled result = true ↔ result = .error (.refused .cancelled) := by
  match result with
  | .ok answer => simp [endedCancelled]
  | .error .abandoned => simp [endedCancelled]
  | .error (.refused e) =>
    rw [endedCancelled, isCancelled_serviceError]
    simp

/-- All that an action does is to make calls, and a cut is dealt with by the rule. -/
def Timely {ε α : Type} [Cancellable ε] (a : Action ε α) : Prop :=
  ∀ {x y r}, a x = (r, y) → ∃ made, Ran x made y ∧ Went made (endedCancelled r)

/-- A single call on a table is the last one exactly if it is cut. -/
theorem went_of_table {c : Call} (hc : c.isOnCache = false) (x y : Exchange World Call)
    {α : Type} (r : Except (Stop Failure) α) : Went [⟨c, x, y, wasCut r⟩] (endedCancelled r) := by
  match r with
  | .ok _ => exact .ended rfl .done
  | .error (.refused .cancelled) => exact .stopped rfl hc
  | .error (.refused (.store _)) => exact .ended rfl .done
  | .error .abandoned => exact .ended rfl .done

theorem timely_of_call {α : Type} {c : Call} (hc : c.isOnCache = false) {absent : Option α}
    {effect : World → Ending World StoreError α} :
    Timely (ε := Failure) (fun x => x.call c absent effect) := by
  intro x y r h
  exact ⟨_, .single h, went_of_table hc x y r⟩

theorem timely_bind {ε α β : Type} [Cancellable ε] {a : Action ε α} {f : α → Action ε β}
    (ha : Timely a) (hf : ∀ v, Timely (f v)) : Timely (a >>= f) := by
  intro x y r h
  obtain ⟨stop, hfirst, rfl⟩ | ⟨v, z, hfirst, hsecond⟩ := Agora.Action.bind_eq h
  · obtain ⟨made, hran, hwent⟩ := ha hfirst
    refine ⟨made, hran, ?_⟩
    cases stop <;> exact hwent
  · obtain ⟨made, hran, hwent⟩ := ha hfirst
    obtain ⟨made', hran', hwent'⟩ := hf v hsecond
    exact ⟨made ++ made', hran.trans hran', hwent.append rfl hwent'⟩

theorem timely_mapError {ε ε' α : Type} [Cancellable ε] [Cancellable ε'] {f : ε → ε'}
    {a : Action ε α} (hf : ∀ e, isCancelled (f e) = isCancelled e) (ha : Timely a) :
    Timely (a.mapError f) := by
  intro x y r h
  obtain ⟨stop, hrun, rfl⟩ | ⟨v, hrun, rfl⟩ := Agora.Action.mapError_eq h
  · obtain ⟨made, hran, hwent⟩ := ha hrun
    refine ⟨made, hran, ?_⟩
    cases stop with
    | refused e =>
      rw [Stop.map, endedCancelled, hf]
      exact hwent
    | abandoned => exact hwent
  · exact ha hrun

/-! ## Finding a user -/

/-- Asking the cache. Unless it has the user, the table's call is expected next. -/
theorem askCache_made (id : Int) (x : Exchange World Call) :
    ∃ made, Ran x made (askCache id x).2 ∧
      (∀ u, (askCache id x).1 = .ok (some u) → Went made false) ∧
      ∀ {next rest cancelled}, next.call = .userById id → Went (next :: rest) cancelled →
        Went (made ++ next :: rest) cancelled := by
  have hmiss := cachedUser_run (ε := ResolveError) id x
  unfold askCache at hmiss ⊢
  cases hcache : x.world.cache with
  | none => exact ⟨[], .refl x, fun _ _ => .done, fun _ h => h⟩
  | some entries =>
    simp only [hcache] at hmiss ⊢
    cases hlookup : Agora.Action.lookup (Call.cachedUser id)
        (fun w : World => some (w.cached? id)) x with
    | mk r y =>
      rw [hlookup] at hmiss
      refine ⟨_, .single hlookup, ?hit, ?next⟩
      case hit =>
        rintro u rfl
        exact .ended rfl .done
      case next =>
        intro next rest cancelled hnext hrest
        match r with
        | .ok _ => exact .ended rfl hrest
        | .error (.refused (.store _)) => exact .ended rfl hrest
        | .error (.refused .cancelled) => exact .missed rfl rfl hmiss hnext hrest
        | .error .abandoned => exact .ended rfl hrest

/-- Offering a user to the cache goes on whatever comes of it. -/
theorem offer_made (u : User) (x : Exchange World Call) :
    ∃ made, Ran x made (offer u x).2 ∧ Went made false := by
  have hdone := remember_run (ε := ResolveError) u x
  unfold offer at hdone ⊢
  cases hcache : x.world.cache with
  | none => exact ⟨[], .refl x, .done⟩
  | some entries =>
    simp only [hcache] at hdone ⊢
    cases hwrite : Agora.Action.write (Call.cacheUser u.id)
        (fun w : World => .ok ((), w.remember u)) x with
    | mk r y =>
      rw [hwrite] at hdone
      refine ⟨_, .single hwrite, ?_⟩
      match r with
      | .ok _ => exact .ended rfl .done
      | .error (.refused (.store _)) => exact .ended rfl .done
      | .error (.refused .cancelled) => exact .ignored rfl rfl hdone .done
      | .error .abandoned => exact .ended rfl .done

/-- Finding a user is cancelled only by a cut of the table's call. -/
theorem timely_resolve (id : Int) : Timely (resolve id) := by
  intro x y r h
  obtain ⟨made, hran, hhit, hnext⟩ := askCache_made id x
  by_cases hfound : ∃ u, (askCache id x).1 = .ok (some u)
  · obtain ⟨u, hu⟩ := hfound
    rw [resolve_of_hit hu] at h
    obtain ⟨rfl, rfl⟩ := Prod.mk.inj h
    exact ⟨made, hran, hhit u hu⟩
  · rw [resolve_of_miss fun u hu => hfound ⟨u, hu⟩] at h
    obtain ⟨rfl, rfl⟩ := Prod.mk.inj h
    cases htable : askTable id (askCache id x).2 with
    | mk answer z =>
      -- what follows the table's call, by its answer
      have hrest : ∃ rest, Ran z rest (putBack answer z) ∧
          Went (⟨.userById id, (askCache id x).2, z, wasCut answer⟩ :: rest)
            (endedCancelled (told id answer)) := by
        match answer with
        | .ok (some u) =>
          obtain ⟨rest, hrest, hwent⟩ := offer_made u z
          exact ⟨rest, hrest, .ended rfl hwent⟩
        | .ok none => exact ⟨[], .refl z, .ended rfl .done⟩
        | .error (.refused .cancelled) => exact ⟨[], .refl z, .stopped rfl rfl⟩
        | .error (.refused (.store _)) => exact ⟨[], .refl z, .ended rfl .done⟩
        | .error .abandoned => exact ⟨[], .refl z, .ended rfl .done⟩
      obtain ⟨rest, hoffered, hwent⟩ := hrest
      exact ⟨_, hran.trans (.call htable hoffered), hnext rfl hwent⟩

/-- Whatever is composed of calls on the tables and of finding users obeys the rule. -/
theorem timely_of_composed {ε α : Type} [Cancellable ε] {a : Action ε α} (h : Composed a) :
    Timely a := by
  induction h with
  | pure v =>
    intro x y r h
    obtain ⟨rfl, rfl⟩ := Prod.mk.inj h
    exact ⟨[], .refl x, .done⟩
  | refuse he =>
    intro x y r h
    obtain ⟨rfl, rfl⟩ := Agora.Action.refuse_eq h
    refine ⟨[], .refl _, ?_⟩
    rw [endedCancelled, he]
    exact .done
  | bind _ _ ha hf => exact timely_bind ha hf
  | mapError hf _ ha => exact timely_mapError hf ha
  | lookup hc => exact timely_of_call hc
  | read hc => exact timely_of_call hc
  | write hc => exact timely_of_call hc
  | resolve id => exact timely_resolve id

/-! ## Requests over HTTP -/

/-- Only a request that was cancelled is answered with 503. -/
theorem status_eq_503 {e : ServiceError} : e.response.status = 503 ↔ isCancelled e = true := by
  rw [isCancelled_serviceError]
  cases e with
  | store error => cases error <;> simp [ServiceError.response, Response.error, Response.json]
  | _ => simp [ServiceError.response, Response.error, Response.json]

theorem status_of_pathId {segment : List Char} {a : Response} (h : pathId segment = .error a) :
    a.status = 400 := by
  unfold pathId readId at h
  split at h
  next => cases h
  next e he =>
    cases h
    split at he
    next =>
      cases he
      rfl
    next =>
      split at he
      next => cases he
      next =>
        cases he
        rfl

theorem status_of_readBody {α : Type} {decode : Json.Decoder α} {a : Response}
    (h : q.readBody decode = .error a) : a.status < 500 := by
  unfold Request.readBody at h
  simp only at h
  split at h
  next =>
    cases h
    decide
  next =>
    split at h
    next =>
      cases h
      decide
    next =>
      split at h
      next => cases h
      next =>
        cases h
        decide
      next =>
        cases h
        decide

theorem status_of_id {segment : List Char} {g : Int → Operation} {a : Response}
    (h : (do return g (← pathId segment)) = Except.error a) : a.status < 500 := by
  obtain h | ⟨_, _, h⟩ := Result.bind_eq_error.mp h
  · rw [status_of_pathId h]
    decide
  · cases h

theorem status_of_body {α : Type} {decode : Json.Decoder α} {g : α → Operation} {a : Response}
    (h : (do return g (← q.readBody decode)) = Except.error a) : a.status < 500 := by
  obtain h | ⟨_, _, h⟩ := Result.bind_eq_error.mp h
  · exact status_of_readBody h
  · cases h

theorem status_of_id_body {α : Type} {segment : List Char} {decode : Json.Decoder α}
    {g : Int → α → Operation} {a : Response}
    (h : (do
      let id ← pathId segment
      return g id (← q.readBody decode)) = Except.error a) : a.status < 500 := by
  obtain h | ⟨_, _, h⟩ := Result.bind_eq_error.mp h
  · rw [status_of_pathId h]
    decide
  · exact status_of_body h

/-- A request out of which no operation can be read is at fault itself. -/
theorem status_of_reader {reader : Request → Target → Except Response Operation} {a : Response}
    (hreader : r.reader? q.method = some reader) (ha : reader q t = .error a) : a.status < 500 := by
  cases r with
  | health => cases hreader
  | posts =>
    simp only [Route.reader?, Option.ite_none_right_eq_some, Option.some.injEq] at hreader
    obtain ⟨_, rfl⟩ := hreader
    exact status_of_body ha
  | post id =>
    simp only [Route.reader?] at hreader
    split at hreader
    next =>
      cases hreader
      exact status_of_id ha
    next =>
      split at hreader
      next =>
        cases hreader
        exact status_of_id_body (g := Operation.update) ha
      next =>
        split at hreader
        next =>
          cases hreader
          exact status_of_id ha
        next => cases hreader
  | comments id =>
    simp only [Route.reader?, Option.ite_none_right_eq_some, Option.some.injEq] at hreader
    obtain ⟨_, rfl⟩ := hreader
    exact status_of_id_body ha
  | feed =>
    simp only [Route.reader?, Option.ite_none_right_eq_some, Option.some.injEq] at hreader
    obtain ⟨_, rfl⟩ := hreader
    simp only at ha
    split at ha
    next => cases ha
    next =>
      cases ha
      decide
  | user id =>
    simp only [Route.reader?, Option.ite_none_right_eq_some, Option.some.injEq] at hreader
    obtain ⟨_, rfl⟩ := hreader
    exact status_of_id ha
  | follow id =>
    simp only [Route.reader?, Option.ite_none_right_eq_some, Option.some.injEq] at hreader
    obtain ⟨_, rfl⟩ := hreader
    exact status_of_id ha
  | unfollow id =>
    simp only [Route.reader?, Option.ite_none_right_eq_some, Option.some.injEq] at hreader
    obtain ⟨_, rfl⟩ := hreader
    exact status_of_id ha

theorem answers_of_response {method : String} {a : Response} {status : Nat} :
    Answers status (report r method (.ok a)) ↔ a.status = status := by
  simp [Answers, report]

theorem answers_of_refusal {method : String} {e : ServiceError} :
    Answers 503 (report r method (.error (.refused e))) ↔ isCancelled e = true := by
  rw [← status_eq_503]
  simp [Answers, report]

/-- What is given up has no status. -/
theorem not_answers_none {status : Nat} : ¬Answers status none := by
  simp [Answers]

/-- A caller who cannot be found is answered with 503 only if the search was cancelled. -/
theorem answers_of_unresolved {method : String} {stop : Stop ResolveError} :
    Answers 503 (report r method (.error (stop.map ServiceError.ofCaller))) ↔
      endedCancelled (.error stop : Except (Stop ResolveError) User) = true := by
  match stop with
  | .refused (.notFound id) => exact answers_of_refusal
  | .refused .cancelled => exact answers_of_refusal
  | .refused (.store error) => exact answers_of_refusal
  | .abandoned => exact iff_of_false not_answers_none (by simp [endedCancelled])

/-- All that a request does is to make calls, and it is answered with 503 exactly if one of them
ended it. -/
def TimelyAnswer (x y : Exchange World Call) (response : Option Response) : Prop :=
  ∃ made cancelled, Ran x made y ∧ Went made cancelled ∧ (cancelled = true ↔ Answers 503 response)

/-- Without any call the status may be any other. -/
theorem timelyAnswer_refl {response : Option Response} (h : ¬Answers 503 response) :
    TimelyAnswer x x response :=
  ⟨[], false, .refl x, .done, iff_of_false (by simp) h⟩

/-- Of what a known caller is answered only the answer to a cancelled operation has status 503. -/
theorem serve_timely (r : Route) (q : Request) (t : Target) (u : User) (x : Exchange World Call) :
    TimelyAnswer x (serve r q t u x).2 (report r q.method (serve r q t u x).1) := by
  rw [serve_run]
  cases hreader : r.reader? q.method with
  | none =>
    refine timelyAnswer_refl ?_
    rw [answers_of_response]
    decide
  | some reader =>
    simp only
    cases hop : reader q t with
    | error a =>
      refine timelyAnswer_refl ?_
      rw [answers_of_response]
      have hstatus := status_of_reader hreader hop
      omega
    | ok op =>
      simp only
      cases hrun : op.run u x with
      | mk result y =>
        obtain ⟨made, hran, hwent⟩ := timely_of_composed (composed_run u op) hrun
        refine ⟨made, _, hran, hwent, ?_⟩
        match result with
        | .ok answer =>
          simp only [responseTo]
          rw [answers_of_response]
          have hstatus := success_status op answer
          exact iff_of_false (by simp [endedCancelled]) (by simp only [Operation.respond]; omega)
        | .error (.refused e) =>
          simp only [responseTo]
          rw [answers_of_response]
          exact status_eq_503.symm
        | .error .abandoned =>
          exact iff_of_false (by simp [endedCancelled]) not_answers_none

/-- Finding the caller and serving it follow the rule as one run. -/
theorem handle_timely (f : Front) (q : Request) (t : Target) (x : Exchange World Call) :
    TimelyAnswer x (f.handle q t x).2 (f.handle q t x).1 := by
  cases hroute : Route.ofSegments? t.segments with
  | none =>
    rw [handle_of_no_route hroute]
    exact timelyAnswer_refl (by simp [Answers, Response.bare])
  | some r =>
    by_cases hhealth : r = .health
    · subst hhealth
      rw [handle_of_health hroute]
      refine timelyAnswer_refl ?_
      unfold Front.health
      split <;> simp [Answers, Response.bare, Response.json]
    cases hsubject : f.subject x.world.now q with
    | error stop =>
      -- nobody is looked for
      rw [handle_of_stop hroute hhealth hsubject]
      refine timelyAnswer_refl ?_
      cases stop with
      | abandoned => exact not_answers_none
      | refused e =>
        rw [answers_of_refusal, eq_unauthenticated_of_subject hsubject]
        decide
    | ok id =>
      cases hresolve : resolve id x with
      | mk found z =>
        obtain ⟨made, hran, hwent⟩ := timely_resolve id hresolve
        cases found with
        | error e =>
          rw [handle_of_resolve_error hroute hhealth hsubject hresolve]
          exact ⟨made, _, hran, hwent, answers_of_unresolved.symm⟩
        | ok u =>
          -- the operation goes on with the time that the search has left
          rw [handle_of_resolve_ok hroute hhealth hsubject hresolve]
          obtain ⟨made', cancelled, hran', hwent', hstatus⟩ := serve_timely r q t u z
          exact ⟨made ++ made', cancelled, hran.trans hran', hwent.append rfl hwent', hstatus⟩

/-! ## The deadline -/

/-- What a deadline makes of the calls `made` that lead from an exchange to another. -/
structure Bounded (deadline : Nat) (x : Exchange World Call) (made : List (Made World Call))
    (y : Exchange World Call) (cancelled : Prop) : Prop where
  /-- Nothing happens but these calls. -/
  ran : Ran x made y
  /-- These are the calls that the log shows. -/
  calls : y.calls = x.calls ++ made.map (·.call)
  /-- A call is cut exactly if it would end after the deadline, and then changes nothing. -/
  onTime : ∀ m ∈ made, m.OnTime deadline
  elapsed : y.elapsed ≤ deadline
  /-- Cuts are told of exactly if one of them is of a call on a table. -/
  cancelled : cancelled ↔ ∃ m ∈ made, m.cut = true ∧ m.call.isOnCache = false
  /-- No call is made after that. -/
  last : ∀ before m after, made = before ++ m :: after → m.cut = true →
    m.call.isOnCache = false → after = []
  /-- If asking the cache is cut, that is a miss: the table is asked next. -/
  missed : ∀ before m after id, made = before ++ m :: after → m.cut = true →
    m.call = .cachedUser id →
      (cachedUser id : Action ResolveError _) m.before = (.ok none, m.after) ∧
        ∃ next rest, after = next :: rest ∧ next.call = .userById id
  /-- If putting a user into the cache is cut, it is as good as done. -/
  ignored : ∀ before m after id, made = before ++ m :: after → m.cut = true →
    m.call = .cacheUser id →
      ∃ u : User, u.id = id ∧ (remember u : Action ResolveError _) m.before = (.ok (), m.after)

/-- A run that starts before the deadline and follows the rule is bounded by it. -/
theorem bounded_of_went {deadline : Nat} {cancelled : Bool} (hdeadline : x.deadline = some deadline)
    (hx : x.elapsed ≤ deadline) (hran : Ran x made y) (hwent : Went made cancelled) :
    Bounded deadline x made y (cancelled = true) := by
  refine ⟨hran, hran.calls, hran.onTime hdeadline, hran.elapsed_le hdeadline hx,
    hwent.cancelled_iff, ?last, ?missed, ?ignored⟩
  case last =>
    intro before m after hmade hcut htable
    obtain ⟨_, hafter⟩ | ⟨_, hcall, _⟩ | ⟨_, hcall, _⟩ := hwent.cut_cases hmade hcut
    · exact hafter
    · rw [hcall] at htable
      cases htable
    · rw [hcall] at htable
      cases htable
  case missed =>
    intro before m after id hmade hcut hcall
    obtain ⟨htable, _⟩ | ⟨_, hcalled, hnext⟩ | ⟨_, hcalled, _⟩ := hwent.cut_cases hmade hcut
    · rw [hcall] at htable
      cases htable
    · rw [hcall] at hcalled
      cases hcalled
      exact hnext
    · rw [hcall] at hcalled
      cases hcalled
  case ignored =>
    intro before m after id hmade hcut hcall
    obtain ⟨htable, _⟩ | ⟨_, hcalled, _⟩ | ⟨_, hcalled, hdone⟩ := hwent.cut_cases hmade hcut
    · rw [hcall] at htable
      cases htable
    · rw [hcall] at hcalled
      cases hcalled
    · rw [hcall] at hcalled
      cases hcalled
      exact ⟨_, rfl, hdone⟩

/-- Every operation and every request, from its first call to its answer, is bounded by its one
deadline. -/
theorem bounded_by_deadline (w : World) (terms : Terms) :
    (∀ caller op, ∃ made, Bounded terms.deadline (terms.opening w) made
      (Operation.run caller op (terms.opening w)).2
      ((Operation.run caller op (terms.opening w)).1 = .error (.refused .cancelled))) ∧
    ∀ f q t, ∃ made, Bounded terms.deadline (terms.opening w) made
      (Front.handle f q t (terms.opening w)).2
      (Answers 503 (Front.handle f q t (terms.opening w)).1) := by
  refine ⟨fun caller op => ?operation, fun f q t => ?request⟩
  case operation =>
    obtain ⟨made, hran, hwent⟩ := timely_of_composed (composed_run caller op) rfl
    rw [← endedCancelled_iff]
    exact ⟨made, bounded_of_went rfl (Nat.zero_le _) hran hwent⟩
  case request =>
    obtain ⟨made, cancelled, hran, hwent, hstatus⟩ := handle_timely f q t (terms.opening w)
    rw [← hstatus]
    exact ⟨made, bounded_of_went rfl (Nat.zero_le _) hran hwent⟩

end Agora.Social
