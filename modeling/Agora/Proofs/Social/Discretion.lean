import Agora.Proofs.Exchange.Texts
import Agora.Proofs.Social.CacheAside
import Agora.Proofs.Social.Gate

/-!
# Nothing of a store error is told

Main result: `handle_alike`. Two exchanges in which the store fails with errors of the same classes
go through any request side by side and end with the same response. Each operation turns the errors
of its calls into errors of its own, and only their classes matter to what a client is told of those
(`presentable_run`). On the way to a user and to a decision of who may act the errors have types of
their own; what is shown of these is `ResolveError.shown` and `AccessError.shown`.
-/

namespace Agora.Social

open Agora.Action (Discreet discreet_call discreet_failing discreet_ofExcept discreet_pure
  discreet_refuse)
open Agora.Exchange (Alike)
open Agora.Http (Request Response Target)

variable {f : Front} {q : Request} {t : Target} {r : Route} {x x' : Exchange World Call}

/-- Of a store error only its class is seen, whatever the call. -/
def classOnly : String → StoreError → StoreError := fun _ error => error.silent

/-! ## What is shown of errors -/

/-- The response to a store error is one of its class. -/
theorem response_silent (error : StoreError) :
    (ServiceError.store error.silent).response = (ServiceError.store error).response := by
  cases error <;> rfl

theorem response_ofFailure (failure : Failure) :
    (ServiceError.ofFailure (failure.veil StoreError.silent)).response =
      (ServiceError.ofFailure failure).response := by
  cases failure with
  | cancelled => rfl
  | store error => exact response_silent error

/-- What is shown of an error on the way to a user. -/
def ResolveError.shown : ResolveError → ResolveError
  | .store error => .store error.silent
  | e => e

/-- What is shown of an error on the way to a decision. -/
def AccessError.shown (e : AccessError) : Response := (ServiceError.ofAccess e).response

theorem ofResolve_response {e e' : ResolveError} (h : e'.shown = e.shown) :
    (ServiceError.ofResolve e').response = (ServiceError.ofResolve e).response := by
  have hshown : ∀ e : ResolveError,
      (ServiceError.ofResolve e.shown).response = (ServiceError.ofResolve e).response := by
    intro e
    cases e with
    | store error => exact response_silent error
    | _ => rfl
  rw [← hshown e', h, hshown e]

theorem ofCaller_response {e e' : ResolveError} (h : e'.shown = e.shown) :
    (ServiceError.ofCaller e').response = (ServiceError.ofCaller e).response := by
  have hshown : ∀ e : ResolveError,
      (ServiceError.ofCaller e.shown).response = (ServiceError.ofCaller e).response := by
    intro e
    cases e with
    | store error => exact response_silent error
    | _ => rfl
  rw [← hshown e', h, hshown e]

/-! ## Finding users -/

theorem discreet_askCache (id : Int) :
    Discreet classOnly (Failure.veil StoreError.silent) (askCache id) := by
  intro x x' h
  unfold askCache
  rw [h.world]
  cases x.world.cache with
  | none => exact ⟨rfl, h⟩
  | some entries => exact discreet_call _ _ _ x x' h

theorem discreet_offer (u : User) :
    Discreet classOnly (Failure.veil StoreError.silent) (offer u) := by
  intro x x' h
  unfold offer
  rw [h.world]
  cases x.world.cache with
  | none => exact ⟨rfl, h⟩
  | some entries => exact discreet_call _ _ _ x x' h

theorem discreet_resolve (id : Int) : Discreet classOnly ResolveError.shown (resolve id) := by
  have hcached : Discreet classOnly ResolveError.shown (cachedUser id) := by
    intro x x' h
    obtain ⟨hr, hz⟩ := discreet_askCache id x x' h
    rw [cachedUser_run, cachedUser_run]
    refine ⟨?_, hz⟩
    obtain ⟨v, hx, hx'⟩ | ⟨e, e', hx, hx', _⟩ := Result.mapError_eq_mapError hr
    · rw [hx, hx']
    · rw [hx, hx']
      rfl
  have hremember : ∀ u, Discreet classOnly ResolveError.shown (remember u) := by
    intro u x x' h
    rw [remember_run, remember_run]
    exact ⟨rfl, (discreet_offer u x x' h).2⟩
  unfold resolve
  refine hcached.bind fun known => ?_
  cases known with
  | some u => exact discreet_pure u
  | none =>
    have hseen : ∀ failure, (ResolveError.ofFailure (failure.veil StoreError.silent)).shown =
        (ResolveError.ofFailure failure).shown := by
      intro failure
      cases failure with
      | cancelled => rfl
      | store error => exact congrArg ResolveError.store error.silent_silent
    refine (discreet_failing _ _ _ hseen).bind fun found => ?_
    cases found with
    | none => exact discreet_refuse _
    | some u => exact (hremember u).bind fun _ => discreet_pure u

/-! ## Posts and comments -/

/-- An action that may be shown to a client, whatever its errors say. -/
abbrev Presentable {α : Type} (a : Action ServiceError α) : Prop :=
  Discreet classOnly ServiceError.response a

theorem presentable_loadPost (id : Int) : Presentable (loadPost id) := by
  unfold loadPost
  refine (discreet_failing _ _ _ response_ofFailure).bind fun found => ?_
  cases found with
  | some p => exact discreet_pure p
  | none => exact discreet_refuse _

theorem presentable_guardPost (caller : User) (p : Post) (roleName : String) :
    Presentable (guardPost caller p roleName) := by
  have hseen : ∀ failure, (AccessError.ofFailure (failure.veil StoreError.silent)).shown =
      (AccessError.ofFailure failure).shown := by
    intro failure
    cases failure with
    | cancelled => rfl
    | store error => exact response_silent error
  have hauthorize : Discreet classOnly AccessError.shown (authorize caller p.userId roleName) := by
    unfold authorize
    split
    next => exact discreet_pure true
    next =>
      refine (discreet_failing _ _ _ hseen).bind fun role => ?_
      cases role with
      | none => exact discreet_refuse _
      | some role => exact discreet_pure _
  have hallowed :
      Presentable ((authorize caller p.userId roleName).mapError ServiceError.ofAccess) :=
    hauthorize.mapError fun _ _ h => h
  unfold guardPost
  refine hallowed.bind fun allowed => ?_
  cases allowed with
  | true => exact discreet_pure ()
  | false => exact discreet_refuse _

theorem presentable_createPost (caller : User) (draft : PostDraft) :
    Presentable (createPost caller draft) := by
  unfold createPost
  refine (discreet_ofExcept _).bind fun _ => (discreet_ofExcept _).bind fun _ => ?_
  exact discreet_failing _ _ _ response_ofFailure

theorem presentable_getPost (id : Int) : Presentable (getPost id) := by
  unfold getPost
  refine (presentable_loadPost id).bind fun p => ?_
  exact (discreet_failing _ _ _ response_ofFailure).bind fun comments => discreet_pure _

theorem presentable_updatePost (caller : User) (id : Int) (edit : PostEdit) :
    Presentable (updatePost caller id edit) := by
  unfold updatePost prepareEdit
  refine Discreet.bind ?prepare fun c => ?commit
  case prepare =>
    refine (presentable_loadPost id).bind fun p => ?_
    exact (presentable_guardPost caller p editRole).bind fun _ => discreet_ofExcept _
  case commit =>
    refine discreet_failing _ _ _ fun failure => ?_
    cases failure with
    | cancelled => rfl
    | store error => cases error <;> rfl

theorem presentable_deletePost (caller : User) (id : Int) :
    Presentable (deletePost caller id) := by
  unfold deletePost
  refine (presentable_loadPost id).bind fun p => ?_
  refine (presentable_guardPost caller p deleteRole).bind fun _ => ?_
  refine discreet_failing _ _ _ fun failure => ?_
  cases failure with
  | cancelled => rfl
  | store error => cases error <;> rfl

theorem presentable_commentPost (caller : User) (id : Int) (draft : CommentDraft) :
    Presentable (commentPost caller id draft) := by
  unfold commentPost
  refine (presentable_loadPost id).bind fun p => ?_
  refine (presentable_guardPost caller p commentRole).bind fun _ => ?_
  refine (discreet_ofExcept _).bind fun _ => ?_
  exact discreet_failing _ _ _ response_ofFailure

/-! ## People -/

theorem presentable_follow (caller : User) (id : Int) :
    Presentable (Social.follow caller id) := by
  unfold Social.follow
  split
  next => exact discreet_refuse _
  next =>
    -- which rule was broken is told, not what the rule is called
    refine discreet_failing _ _ _ fun failure => ?_
    cases failure with
    | cancelled => rfl
    | store error => cases error <;> rfl

theorem presentable_unfollow (caller : User) (id : Int) :
    Presentable (Social.unfollow caller id) := by
  unfold Social.unfollow
  refine discreet_failing _ _ _ fun failure => ?_
  cases failure with
  | cancelled => rfl
  | store error => cases error <;> rfl

theorem presentable_profile (id : Int) : Presentable (profile id) :=
  (discreet_resolve id).mapError fun _ _ h => ofResolve_response h

theorem presentable_feed (caller : User) (params : Feed.Params) :
    Presentable (Social.feed caller params) := by
  unfold Social.feed
  cases params.query with
  | error e => exact discreet_refuse _
  | ok query => exact discreet_failing _ _ _ response_ofFailure

theorem presentable_run (caller : User) (op : Operation) : Presentable (op.run caller) := by
  cases op with
  | create draft => exact (presentable_createPost caller draft).bind fun p => discreet_pure _
  | get id => exact (presentable_getPost id).bind fun thread => discreet_pure _
  | update id edit => exact (presentable_updatePost caller id edit).bind fun p => discreet_pure _
  | delete id => exact (presentable_deletePost caller id).bind fun _ => discreet_pure _
  | comment id draft =>
    exact (presentable_commentPost caller id draft).bind fun c => discreet_pure _
  | follow id => exact (presentable_follow caller id).bind fun _ => discreet_pure _
  | unfollow id => exact (presentable_unfollow caller id).bind fun _ => discreet_pure _
  | profile id => exact (presentable_profile id).bind fun u => discreet_pure _
  | feed params => exact (presentable_feed caller params).bind fun items => discreet_pure _

/-! ## Requests -/

theorem presentable_caller (f : Front) (q : Request) : Presentable (f.caller q) := by
  intro x x' h
  rw [caller_run, caller_run, h.world]
  cases f.subject x.world.now q with
  | error stop => exact ⟨rfl, h⟩
  | ok id => exact (discreet_resolve id).mapError (fun _ _ hseen => ofCaller_response hseen) x x' h

theorem responseTo_of_mapError {op : Operation} {result result' : Except (Stop ServiceError) Answer}
    (h : result'.mapError (Stop.map ServiceError.response) =
      result.mapError (Stop.map ServiceError.response)) :
    responseTo op result' = responseTo op result := by
  obtain ⟨v, rfl, rfl⟩ | ⟨stop, stop', rfl, rfl, hseen⟩ := Result.mapError_eq_mapError h
  · rfl
  · match stop, stop', hseen with
    | .refused e, .refused e', hseen => exact congrArg Except.ok (Stop.refused.inj hseen)
    | .abandoned, .abandoned, _ => rfl

theorem presentable_serve (r : Route) (q : Request) (t : Target) (caller : User) :
    Presentable (serve r q t caller) := by
  intro x x' h
  rw [serve_run, serve_run]
  cases r.reader? q.method with
  | none => exact ⟨rfl, h⟩
  | some reader =>
    simp only
    cases reader q t with
    | error response => exact ⟨rfl, h⟩
    | ok op =>
      obtain ⟨hr, hz⟩ := presentable_run caller op x x' h
      simp only
      rw [responseTo_of_mapError hr]
      exact ⟨rfl, hz⟩

theorem report_of_mapError {method : String} {result result' : Except (Stop ServiceError) Response}
    (h : result'.mapError (Stop.map ServiceError.response) =
      result.mapError (Stop.map ServiceError.response)) :
    report r method result' = report r method result := by
  obtain ⟨v, rfl, rfl⟩ | ⟨stop, stop', rfl, rfl, hseen⟩ := Result.mapError_eq_mapError h
  · rfl
  · match stop, stop', hseen with
    | .refused e, .refused e', hseen =>
      exact congrArg (fun response => some (trimBody r method response)) (Stop.refused.inj hseen)
    | .abandoned, .abandoned, _ => rfl

/-- A request is answered with the same response whatever the errors of the store say. -/
theorem handle_alike (f : Front) (q : Request) (t : Target) (h : Alike classOnly x x') :
    (f.handle q t x').1 = (f.handle q t x).1 ∧
      Alike classOnly (f.handle q t x).2 (f.handle q t x').2 := by
  cases hroute : Route.ofSegments? t.segments with
  | none =>
    rw [handle_of_no_route hroute, handle_of_no_route hroute]
    exact ⟨rfl, h⟩
  | some r =>
    by_cases hhealth : r = .health
    · subst hhealth
      rw [handle_of_health hroute, handle_of_health hroute]
      exact ⟨rfl, h⟩
    have hserved : Presentable (f.caller q >>= serve r q t) :=
      (presentable_caller f q).bind (presentable_serve r q t)
    obtain ⟨hr, hz⟩ := hserved x x' h
    rw [handle_run hroute hhealth, handle_run hroute hhealth, report_of_mapError hr]
    exact ⟨rfl, hz⟩

end Agora.Social
