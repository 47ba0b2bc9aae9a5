import Agora.Proofs.Http.Credentials
import Agora.Proofs.Social.Operations
import Agora.Proofs.Token.Lifetime
import Agora.Social.Http

/-!
# The gate of the service

Main result: `handle_gated`, on every request to a route that wants a token. Without credentials
that stand for a user id the request is refused before any call; with them the only calls before
the operation are those of finding that user, and the operation is run only for the user that was
found.

There are holes, and `Gated.abandoned` says exactly where: while the clock stands before 1970, a
token with a good signature is neither accepted nor refused, and the request ends without any
response; and so it ends when the tables are locked, or when the operation breaks down.
-/

namespace Agora.Social

open Agora.Http (Request Response Target)

variable {f : Front} {q : Request} {t : Target} {r : Route} {x : Exchange World Call}

/-- The credentials of a request are good now and stand for a user id. -/
def Authenticates (f : Front) (now : Time.Instant) (q : Request) (id : Int) : Prop :=
  ∃ token claims, q.token? = some token ∧ f.tokens.validate now token = .ok claims ∧
    claims.subjectId? = some id

/-- The clock stands before 1970, and the request comes with a token that is signed and can be
read. -/
def ClockFails (f : Front) (now : Time.Instant) (q : Request) : Prop :=
  ∃ token claims, q.token? = some token ∧ f.tokens.verify token = .ok claims ∧ now.second < 0

/-! ## Credentials -/

theorem subject_eq_ok {now : Time.Instant} {id : Int} :
    f.subject now q = .ok id ↔ Authenticates f now q id := by
  unfold Front.subject Authenticates
  constructor
  · intro h
    split at h
    next => cases h
    next token htoken =>
      split at h
      next => cases h
      next => cases h
      next claims hclaims =>
        split at h
        next id' hid =>
          cases h
          exact ⟨token, claims, htoken, hclaims, hid⟩
        next => cases h
  · rintro ⟨token, claims, htoken, hclaims, hid⟩
    simp only [htoken, hclaims, hid]

theorem subject_eq_abandoned {now : Time.Instant} :
    f.subject now q = .error .abandoned ↔ ClockFails f now q := by
  unfold Front.subject ClockFails
  constructor
  · intro h
    split at h
    next => cases h
    next token htoken =>
      split at h
      next hclock =>
        obtain ⟨⟨claims, hclaims⟩, hnow⟩ := Token.validate_eq_clockBeforeEpoch.mp hclock
        exact ⟨token, claims, htoken, hclaims, hnow⟩
      next => cases h
      next =>
        split at h
        next => cases h
        next => cases h
  · rintro ⟨token, claims, htoken, hclaims, hnow⟩
    have hclock := Token.validate_eq_clockBeforeEpoch.mpr ⟨⟨claims, hclaims⟩, hnow⟩
    simp only [htoken, hclock]

/-- Credentials are only ever refused as such. -/
theorem eq_unauthenticated_of_subject {now : Time.Instant} {e : ServiceError}
    (h : f.subject now q = .error (.refused e)) : e = .unauthenticated := by
  unfold Front.subject at h
  split at h
  next =>
    cases h
    rfl
  next =>
    split at h
    next => cases h
    next =>
      cases h
      rfl
    next =>
      split at h
      next => cases h
      next =>
        cases h
        rfl

/-- Credentials are good for one user at most, and not while the clock cannot be read. -/
theorem Authenticates.unique {now : Time.Instant} {id id' : Int} (h : Authenticates f now q id)
    (h' : Authenticates f now q id') : id = id' := by
  rw [← subject_eq_ok] at h h'
  rw [h] at h'
  cases h'
  rfl

theorem Authenticates.not_clockFails {now : Time.Instant} {id : Int}
    (h : Authenticates f now q id) : ¬ClockFails f now q := by
  rw [← subject_eq_ok] at h
  rw [← subject_eq_abandoned, h]
  intro hclock
  cases hclock

/-! ## The run of a request -/

/-- What a request is answered with when it has ended, if it is answered. -/
def report (r : Route) (method : String) : Except (Stop ServiceError) Response → Option Response
  | .ok response => some (trimBody r method response)
  | .error (.refused e) => some (trimBody r method e.response)
  | .error .abandoned => none

theorem caller_run :
    f.caller q x = match f.subject x.world.now q with
      | .ok id => (resolve id).mapError ServiceError.ofCaller x
      | .error stop => (.error stop, x) := by
  unfold Front.caller
  rw [Agora.Action.bind_run]
  show (Agora.Action.ofResult (f.subject x.world.now q) >>=
    fun id => (resolve id).mapError ServiceError.ofCaller) x = _
  rw [Agora.Action.bind_run]
  cases f.subject x.world.now q with
  | ok id => rfl
  | error stop => rfl

/-- What a run of an operation is answered with, if it is answered. -/
def responseTo (op : Operation) : Except (Stop ServiceError) Answer →
    Except (Stop ServiceError) Response
  | .ok answer => .ok (op.respond (.ok answer))
  | .error (.refused e) => .ok (op.respond (.error e))
  | .error .abandoned => .error .abandoned

theorem serve_run (caller : User) :
    serve r q t caller x = match r.reader? q.method with
      | none => (.ok (.bare 405), x)
      | some reader => match reader q t with
        | .error response => (.ok response, x)
        | .ok op => (responseTo op (op.run caller x).1, (op.run caller x).2) := by
  unfold serve
  cases r.reader? q.method with
  | none => rfl
  | some reader =>
    simp only
    cases reader q t with
    | error response => rfl
    | ok op =>
      simp only
      rw [Agora.Action.bind_run, Agora.Action.attempt_apply]
      cases (op.run caller x).1 with
      | ok answer => rfl
      | error stop => cases stop <;> rfl

theorem handle_run (hroute : Route.ofSegments? t.segments = some r) (hprotected : r ≠ .health) :
    f.handle q t x =
      (report r q.method ((f.caller q >>= serve r q t) x).1,
        ((f.caller q >>= serve r q t) x).2) := by
  -- the routes differ only in what they are read as
  have hrun : f.handle q t x = (do
      match ← (f.caller q >>= serve r q t : Action ServiceError Response).run with
      | .ok response => return some (trimBody r q.method response)
      | .error (.refused e) => return some (trimBody r q.method e.response)
      | .error .abandoned => return none : StateM (Exchange World Call) (Option Response)) x := by
    unfold Front.handle
    rw [hroute]
    cases r with
    | health => exact absurd rfl hprotected
    | _ => rfl
  rw [hrun]
  -- the result decides what is answered, and nothing more is done
  simp only [bind, StateT.bind, ExceptT.run]
  cases ExceptT.bind (f.caller q) (serve r q t) x with
  | mk result y =>
    match result with
    | .ok response => rfl
    | .error (.refused e) => rfl
    | .error .abandoned => rfl

/-- What goes to no route is answered without any call. -/
theorem handle_of_no_route (hroute : Route.ofSegments? t.segments = none) :
    f.handle q t x = (some (.bare 404), x) := by
  unfold Front.handle
  rw [hroute]
  rfl

/-- So is what asks for the health of the service. -/
theorem handle_of_health (hroute : Route.ofSegments? t.segments = some .health) :
    f.handle q t x = (some (trimBody .health q.method (f.health q.method)), x) := by
  unfold Front.handle
  rw [hroute]
  rfl

/-- Without a caller the request ends where it began. -/
theorem handle_of_stop (hroute : Route.ofSegments? t.segments = some r) (hprotected : r ≠ .health)
    {stop : Stop ServiceError} (h : f.subject x.world.now q = .error stop) :
    f.handle q t x = (report r q.method (.error stop), x) := by
  rw [handle_run hroute hprotected, Agora.Action.bind_run, caller_run, h]

theorem handle_of_resolve_error (hroute : Route.ofSegments? t.segments = some r)
    (hprotected : r ≠ .health) {id : Int} (h : f.subject x.world.now q = .ok id)
    {e : Stop ResolveError} {z : Exchange World Call} (hresolve : resolve id x = (.error e, z)) :
    f.handle q t x = (report r q.method (.error (e.map ServiceError.ofCaller)), z) := by
  have hcaller : f.caller q x = (.error (e.map ServiceError.ofCaller), z) := by
    rw [caller_run, h]
    simp only [Agora.Action.mapError, hresolve]
  rw [handle_run hroute hprotected, Agora.Action.bind_run, hcaller]

theorem handle_of_resolve_ok (hroute : Route.ofSegments? t.segments = some r)
    (hprotected : r ≠ .health) {id : Int} (h : f.subject x.world.now q = .ok id)
    {u : User} {z : Exchange World Call} (hresolve : resolve id x = (.ok u, z)) :
    f.handle q t x =
      (report r q.method (serve r q t u z).1, (serve r q t u z).2) := by
  have hcaller : f.caller q x = (.ok u, z) := by
    rw [caller_run, h]
    simp only [Agora.Action.mapError, hresolve]
  rw [handle_run hroute hprotected, Agora.Action.bind_run, hcaller]

@[simp] theorem trimBody_status (r : Route) (method : String) (a : Response) :
    (trimBody r method a).status = a.status := by
  unfold trimBody
  split
  next => rfl
  next => rfl

/-! ## The gate -/

/-- Some answer with a status. -/
def Answers (status : Nat) (response : Option Response) : Prop :=
  ∃ a, response = some a ∧ a.status = status

theorem answers_refused (r : Route) (method : String) (e : ServiceError) :
    Answers e.response.status (report r method (.error (.refused e))) :=
  ⟨trimBody r method e.response, rfl, trimBody_status r method _⟩

/-- Finding the user with an id makes no other calls than it needs, leaves the tables as they are,
finds what the cache or the table has under that id, and is given up only on locked tables. -/
structure Finds (id : Int) (x : Exchange World Call) (found : Except (Stop ResolveError) User)
    (z : Exchange World Call) : Prop where
  run : resolve id x = (found, z)
  calls : MakesOnly (resolveCalls id) x z
  tables : z.world = { x.world with cache := z.world.cache }
  user : ∀ u, found = .ok u → x.world.cached? id = some u ∨ x.world.store.user? id = some u
  locked : found = .error .abandoned → x.world.poisoned = true

/-- What comes of a request after its user was looked for: the exchange and the response that it
ends with, from the exchange that the search ended with. -/
inductive Admitted (r : Route) (q : Request) (t : Target) (z : Exchange World Call) :
    Except (Stop ResolveError) User → Exchange World Call → Option Response → Prop
  /-- The user is not there. -/
  | unknown {id : Int} {response : Option Response} (hstatus : Answers 401 response) :
      Admitted r q t z (.error (.refused (.notFound id))) z response
  /-- The search failed. -/
  | failed {e : ResolveError} {response : Option Response} (hfailure : ∀ id, e ≠ .notFound id)
      (hstatus : Answers (ServiceError.ofResolve e).response.status response) :
      Admitted r q t z (.error (.refused e)) z response
  /-- The search was given up. -/
  | locked : Admitted r q t z (.error .abandoned) z none
  /-- The route does not have the method. -/
  | idle {u : User} {response : Option Response} (hreader : r.reader? q.method = none)
      (hstatus : Answers 405 response) : Admitted r q t z (.ok u) z response
  /-- The arguments of the operation cannot be read. -/
  | unreadable {u : User} {reader : Request → Target → Except Response Operation} {a : Response}
      (hreader : r.reader? q.method = some reader) (hrefused : reader q t = .error a) :
      Admitted r q t z (.ok u) z (some (trimBody r q.method a))
  /-- The operation is run for the user that was found. -/
  | served {u : User} {reader : Request → Target → Except Response Operation} {op : Operation}
      {result : Except ServiceError Answer} (hreader : r.reader? q.method = some reader)
      (hop : reader q t = .ok op) (hresult : (op.run u z).1 = result.mapError .refused) :
      Admitted r q t z (.ok u) (op.run u z).2 (some (trimBody r q.method (op.respond result)))
  /-- The operation is run for the user that was found, and given up. -/
  | abandoned {u : User} {reader : Request → Target → Except Response Operation} {op : Operation}
      (hreader : r.reader? q.method = some reader) (hop : reader q t = .ok op)
      (hresult : (op.run u z).1 = .error .abandoned) :
      Admitted r q t z (.ok u) (op.run u z).2 none

/-- A user is looked for in locked tables, or an operation is run for it and given up. -/
inductive BreaksDown (f : Front) (r : Route) (q : Request) (t : Target) (x : Exchange World Call) :
    Prop
  | locked {id : Int} {z : Exchange World Call} (hid : Authenticates f x.world.now q id)
      (hfound : Finds id x (.error .abandoned) z)
  | abandoned {id : Int} {u : User} {z : Exchange World Call}
      {reader : Request → Target → Except Response Operation} {op : Operation}
      (hid : Authenticates f x.world.now q id) (hfound : Finds id x (.ok u) z)
      (hreader : r.reader? q.method = some reader) (hop : reader q t = .ok op)
      (hresult : (op.run u z).1 = .error .abandoned)

/-- What the gate does with a request, from the first exchange to the last. -/
structure Gated (f : Front) (r : Route) (q : Request) (t : Target) (x y : Exchange World Call)
    (response : Option Response) : Prop where
  /-- Without good credentials the answer is 401, and nothing is called or changed. -/
  refused : (∀ id, ¬Authenticates f x.world.now q id) → ¬ClockFails f x.world.now q →
    y = x ∧ Answers 401 response
  /-- There is no answer exactly if a good token meets a clock before 1970, or what is done for the
  user of a good token is given up. -/
  abandoned : response = none ↔ ClockFails f x.world.now q ∨ BreaksDown f r q t x
  /-- Nothing is called or changed if the clock is to blame. -/
  untouched : ClockFails f x.world.now q → y = x
  /-- With good credentials the user with their id is looked for first. -/
  admitted : ∀ id, Authenticates f x.world.now q id →
    ∃ found z, Finds id x found z ∧ Admitted r q t z found y response

theorem finds_of_resolve {id : Int} {found : Except (Stop ResolveError) User}
    {z : Exchange World Call} (h : resolve id x = (found, z)) : Finds id x found z := by
  obtain ⟨htables, hcalls, hfound⟩ := resolve_cases h
  refine ⟨h, hcalls, htables, ?user, ?locked⟩
  case user =>
    intro u hu
    obtain ⟨u', hr, huser⟩ | hr | ⟨failure, hr⟩ | ⟨_, hr⟩ := hfound
    · rw [hu] at hr
      cases hr
      exact huser
    · rw [hu] at hr
      cases hr
    · rw [hu] at hr
      cases hr
    · rw [hu] at hr
      cases hr
  case locked =>
    intro habandoned
    obtain ⟨u', hr, _⟩ | hr | ⟨failure, hr⟩ | ⟨hlock, _⟩ := hfound
    · rw [habandoned] at hr
      cases hr
    · rw [habandoned] at hr
      cases hr
    · rw [habandoned] at hr
      cases hr
    · exact hlock

theorem Finds.unique {id : Int} {found found' : Except (Stop ResolveError) User}
    {z z' : Exchange World Call} (h : Finds id x found z) (h' : Finds id x found' z') :
    found = found' ∧ z = z' :=
  Prod.mk.inj (h.run.symm.trans h'.run)

/-- A search that fails is answered with its failure, except that a missing user is the fault of
the credentials. -/
theorem admitted_of_error (e : Stop ResolveError) (z : Exchange World Call) :
    Admitted r q t z (.error e) z (report r q.method (.error (e.map ServiceError.ofCaller))) := by
  cases e with
  | refused e =>
    cases e with
    | notFound id => exact .unknown (answers_refused r q.method .unauthenticated)
    | cancelled => exact .failed (by simp) (answers_refused r q.method _)
    | store error => exact .failed (by simp) (answers_refused r q.method _)
  | abandoned => exact .locked

theorem admitted_of_serve (u : User) (z : Exchange World Call) :
    Admitted r q t z (.ok u) (serve r q t u z).2 (report r q.method (serve r q t u z).1) := by
  rw [serve_run]
  cases hreader : r.reader? q.method with
  | none => exact .idle hreader ⟨_, rfl, trimBody_status r q.method _⟩
  | some reader =>
    simp only
    cases hop : reader q t with
    | error a => exact .unreadable hreader hop
    | ok op =>
      simp only
      cases hresult : (op.run u z).1 with
      | ok answer =>
        have hanswer : (op.run u z).1 = Except.mapError .refused (.ok answer) := hresult
        exact .served hreader hop hanswer
      | error stop =>
        cases stop with
        | refused e =>
          have hanswer : (op.run u z).1 = Except.mapError .refused (.error e) := hresult
          exact .served hreader hop hanswer
        | abandoned => exact .abandoned hreader hop hresult

/-- Whoever is let in and gets no answer had a search or an operation that was given up. -/
theorem Admitted.eq_none_iff {id : Int} {found : Except (Stop ResolveError) User}
    {y z : Exchange World Call} {response : Option Response}
    (h : Admitted r q t z found y response) (hid : Authenticates f x.world.now q id)
    (hfound : Finds id x found z) : response = none ↔ BreaksDown f r q t x := by
  have hanswered : ∀ status, Answers status response → response ≠ none := by
    rintro status ⟨a, rfl, _⟩
    exact nofun
  constructor
  · intro hnone
    cases h with
    | unknown hstatus => exact absurd hnone (hanswered _ hstatus)
    | failed _ hstatus => exact absurd hnone (hanswered _ hstatus)
    | locked => exact .locked hid hfound
    | idle _ hstatus => exact absurd hnone (hanswered _ hstatus)
    | unreadable => cases hnone
    | served => cases hnone
    | abandoned hreader hop hresult => exact .abandoned hid hfound hreader hop hresult
  · intro hbreaks
    cases hbreaks with
    | locked hid' hfound' =>
      obtain rfl := hid.unique hid'
      obtain ⟨rfl, rfl⟩ := hfound.unique hfound'
      cases h with
      | locked => rfl
    | abandoned hid' hfound' hreader hop hresult =>
      obtain rfl := hid.unique hid'
      obtain ⟨rfl, rfl⟩ := hfound.unique hfound'
      cases h with
      | idle hnone _ =>
        rw [hreader] at hnone
        cases hnone
      | unreadable hreader' hrefused =>
        obtain rfl := Option.some.inj (hreader.symm.trans hreader')
        rw [hop] at hrefused
        cases hrefused
      | @served _ _ _ result hreader' hop' hresult' =>
        obtain rfl := Option.some.inj (hreader.symm.trans hreader')
        obtain rfl := Except.ok.inj (hop.symm.trans hop')
        rw [hresult] at hresult'
        cases result <;> cases hresult'
      | abandoned => rfl

/-- Every request to a route that wants credentials goes through the gate. -/
theorem handle_gated (f : Front) (q : Request) (t : Target) (x : Exchange World Call)
    (hroute : Route.ofSegments? t.segments = some r) (hprotected : r ≠ .health) :
    Gated f r q t x (f.handle q t x).2 (f.handle q t x).1 := by
  cases hsubject : f.subject x.world.now q with
  | error stop =>
    -- nobody is looked for
    have hnone : ∀ id, ¬Authenticates f x.world.now q id := by
      intro id hid
      rw [← subject_eq_ok, hsubject] at hid
      cases hid
    have hsound : ¬BreaksDown f r q t x := by
      intro hbreaks
      cases hbreaks with
      | locked hid => exact hnone _ hid
      | abandoned hid => exact hnone _ hid
    rw [handle_of_stop hroute hprotected hsubject]
    cases stop with
    | refused e =>
      have hclock : ¬ClockFails f x.world.now q := by
        rw [← subject_eq_abandoned, hsubject]
        intro h
        cases h
      cases eq_unauthenticated_of_subject hsubject
      exact ⟨fun _ _ => ⟨rfl, answers_refused r q.method _⟩,
        iff_of_false (by simp [report]) (not_or.mpr ⟨hclock, hsound⟩), fun h => absurd h hclock,
        fun id hid => absurd hid (hnone id)⟩
    | abandoned =>
      have hclock := subject_eq_abandoned.mp hsubject
      exact ⟨fun _ h => absurd hclock h, iff_of_true rfl (Or.inl hclock), fun _ => rfl,
        fun id hid => absurd hid (hnone id)⟩
  | ok id =>
    -- the search for the user decides
    have hid := subject_eq_ok.mp hsubject
    have hclock := hid.not_clockFails
    cases hresolve : resolve id x with
    | mk found z =>
      have hfinds := finds_of_resolve hresolve
      have hadmitted : Admitted r q t z found (f.handle q t x).2 (f.handle q t x).1 := by
        cases found with
        | error e =>
          rw [handle_of_resolve_error hroute hprotected hsubject hresolve]
          exact admitted_of_error e z
        | ok u =>
          rw [handle_of_resolve_ok hroute hprotected hsubject hresolve]
          exact admitted_of_serve u z
      refine ⟨fun h => absurd hid (h id), ?_, fun h => absurd h hclock, ?_⟩
      · rw [hadmitted.eq_none_iff hid hfinds, or_iff_right hclock]
      · intro id' hid'
        obtain rfl := hid.unique hid'
        exact ⟨found, z, hfinds, hadmitted⟩

/-! ## Two requests -/

def sampleFront : Front where
  tokens := Token.sampleService 3600

/-- Claims about user 1 that hold for an hour of the year 2024. -/
def sampleClaims : Token.Claims where
  subject := "1"
  audience := "social"
  issuer := "social"
  issuedAt := 1704067200
  notBefore := 1704067200
  expiresAt := 1704070800

/-- A request with a token that carries them. -/
def sampleRequest : Request where
  method := "GET"
  target := "/posts/1"
  headers := [("authorization", "Bearer " ++ (Token.sampleService 3600).sign sampleClaims)]

def sampleTarget : Target where
  path := "/posts/1".toList
  query := []

/-- The last second before 1970. -/
theorem isInstant_early : Time.IsInstant (-1) 0 := by decide

/-- Nothing has happened yet, and the clock shows the last second of 1969. -/
def before1970 : Exchange World Call where
  world := { store := .seeded, cache := none, now := ⟨-1, 0, isInstant_early⟩ }
  deadline := some 10000

/-- Without the token the request is refused, whatever the clock shows. -/
theorem handle_gated_without_token :
    Route.ofSegments? sampleTarget.segments = some (.post ['1']) ∧ Route.post ['1'] ≠ .health ∧
      (sampleFront.handle { sampleRequest with headers := [] } sampleTarget before1970).2 =
        before1970 ∧
      Answers 401
        (sampleFront.handle { sampleRequest with headers := [] } sampleTarget before1970).1 := by
  have hroute : Route.ofSegments? sampleTarget.segments = some (.post ['1']) := by decide
  have hprotected : Route.post ['1'] ≠ .health := by decide
  have htoken : ({ sampleRequest with headers := [] } : Request).token? = none := rfl
  refine ⟨hroute, hprotected, (handle_gated sampleFront _ sampleTarget before1970 hroute
    hprotected).refused ?_ ?_⟩
  · rintro id ⟨token, claims, hsome, _⟩
    rw [htoken] at hsome
    cases hsome
  · rintro ⟨token, claims, hsome, _⟩
    rw [htoken] at hsome
    cases hsome

/-- Credentials that are not good do not always make 401: here they make no answer at all. -/
theorem no_answer_before_1970 :
    (∀ id, ¬Authenticates sampleFront before1970.world.now sampleRequest id) ∧
      (sampleFront.handle sampleRequest sampleTarget before1970).1 = none ∧
      ¬Answers 401 (sampleFront.handle sampleRequest sampleTarget before1970).1 := by
  have htoken := Token.genuine_sign (Token.sampleService 3600) sampleClaims
  have hheader : sampleRequest.header? "authorization" =
      some ("Bearer " ++ (Token.sampleService 3600).sign sampleClaims) :=
    Request.header?_of_first rfl (by decide)
  have hclock : ClockFails sampleFront before1970.world.now sampleRequest :=
    ⟨_, _, Request.token?_of_genuine hheader htoken, Token.verify_eq_ok.mpr htoken, by decide⟩
  have hnone : (sampleFront.handle sampleRequest sampleTarget before1970).1 = none := by
    rw [handle_of_stop (r := .post ['1']) (by decide) (by decide) (subject_eq_abandoned.mpr hclock)]
    rfl
  refine ⟨fun id hid => hid.not_clockFails hclock, hnone, ?_⟩
  rw [hnone]
  rintro ⟨a, ha, _⟩
  cases ha

end Agora.Social
