import Agora.Account.Http
import Agora.Proofs.Account.Operations
import Agora.Proofs.Exchange.Texts

/-!
# What a registration tells of store errors

Of the errors of the store a client learns one thing: that an email or a username is taken. Two
exchanges in which making an account meets the same one of these two errors, and which are otherwise
the same but for the texts of errors, end with the same response (`uniform_handle`). That the two
are told apart from every other broken rule is `handle_of_violation`.
-/

namespace Agora.Account

open Agora.Action (Discreet discreet_call discreet_failing discreet_get discreet_ofExcept
  discreet_ofResult discreet_pure discreet_refuse)
open Agora.Exchange (Alike)
open Agora.Http (Request Response Target)

variable {σ : Type} [Repository σ] {s : Service} {f : Front} {q : Request} {t : Target}
  {fresh : Fresh} {x x' : Exchange (World σ) Call}

/-- The error says that the email or the username is taken. -/
def isTaken (error : StoreError) : Bool :=
  error.isUniqueViolationOf emailConstraint || error.isUniqueViolationOf usernameConstraint

/-- Of a store error only its class is seen, except that making an account tells which of the two
rules was broken. -/
def takenOrClass (name : String) (error : StoreError) : StoreError :=
  if name = "users.create_and_invite" ∧ isTaken error then error else error.silent

theorem response_ofFailure {name : String} (failure : Failure) :
    (AccountError.ofFailure (failure.veil (takenOrClass name))).response =
      (AccountError.ofFailure failure).response := by
  cases failure <;> rfl

theorem takenOrClass_of_ne {name : String} (h : name ≠ "users.create_and_invite")
    (error : StoreError) : takenOrClass name error = error.silent :=
  if_neg fun hname => h hname.1

theorem isTaken_silent (error : StoreError) : isTaken error.silent = false := by
  cases error <;> rfl

theorem creationError_of_not_taken {error : StoreError} (h : isTaken error = false) :
    creationError (.store error) = .store error := by
  unfold isTaken at h
  rw [Bool.or_eq_false_iff] at h
  show (if error.isUniqueViolationOf emailConstraint then _
    else if error.isUniqueViolationOf usernameConstraint then _ else AccountError.store error) = _
  rw [if_neg (by simp [h.1]), if_neg (by simp [h.2])]

/-- Of the failure to make an account no more is told than which of the two rules was broken. -/
theorem response_creationError (failure : Failure) :
    (creationError (failure.veil (takenOrClass "users.create_and_invite"))).response =
      (creationError failure).response := by
  cases failure with
  | cancelled => rfl
  | store error =>
    show (creationError (.store (takenOrClass "users.create_and_invite" error))).response = _
    unfold takenOrClass
    by_cases htaken : isTaken error = true
    · rw [if_pos ⟨rfl, htaken⟩]
    · rw [if_neg fun h => htaken h.2, creationError_of_not_taken (isTaken_silent error),
        creationError_of_not_taken (by simpa using htaken)]
      rfl

/-- An action that may be shown to a client, whatever its errors say. -/
abbrev Presentable {α : Type} (a : Action σ AccountError α) : Prop :=
  Discreet takenOrClass AccountError.response a

theorem presentable_invite (s : Service) (u : User) (token : String) :
    Presentable (s.invite u token : Action σ AccountError Registered) := by
  unfold Service.invite
  refine Discreet.attempt_bind (discreet_call _ _ _) (fun _ => discreet_pure _) (fun _ => rfl) ?_
  -- whatever became of removing the account, the answer is the same
  exact Discreet.attempt_bind (f := fun _ => Agora.Action.refuse AccountError.internal)
    (discreet_call _ _ _) (fun _ => discreet_refuse _) (fun _ => rfl) (discreet_refuse _)

theorem presentable_register (s : Service) (r : Registration) (fresh : Fresh) :
    Presentable (s.register r fresh : Action σ AccountError Registered) := by
  unfold Service.register
  cases r.check with
  | error invalid => exact discreet_refuse _
  | ok _ =>
    refine discreet_get (fun x x' h => by simp only [h]) fun x => ?_
    cases expiry? x.world.now s.invitationLifetime with
    | none => exact discreet_ofResult (.error .abandoned)
    | some expiresAt =>
      refine Discreet.bind ?create fun u => presentable_invite s u _
      case create => exact discreet_failing _ _ _ response_creationError

theorem presentable_issueToken (s : Service) (c : Credentials) :
    Presentable (s.issueToken c : Action σ AccountError String) := by
  unfold Service.issueToken
  refine (discreet_failing _ _ _ response_ofFailure).bind fun found => ?_
  cases found with
  | none => exact discreet_refuse _
  | some u =>
    refine (discreet_ofExcept _).bind fun _ => ?_
    exact discreet_get (fun x x' h => by simp only [h]) fun x => discreet_ofResult _

theorem presentable_activate (token : String) :
    Presentable (activate token : Action σ AccountError Unit) := by
  rw [activate_eq]
  refine discreet_failing _ _ _ fun failure => ?_
  cases failure with
  | cancelled => rfl
  | store error =>
    show (activationError (takenOrClass "users.activate" error)).response = _
    rw [takenOrClass_of_ne (by decide)]
    cases error <;> rfl

/-! ## Requests -/

/-- What is done ends with the same in alike exchanges, which go on alike. -/
def Uniform {ρ : Type} (run : StateM (Exchange (World σ) Call) ρ) : Prop :=
  ∀ x x', Alike takenOrClass x x' →
    (run x').1 = (run x).1 ∧ Alike takenOrClass (run x).2 (run x').2

omit [Repository σ] in
theorem uniform_pure {ρ : Type} (v : ρ) :
    Uniform (pure v : StateM (Exchange (World σ) Call) ρ) :=
  fun _ _ h => ⟨rfl, h⟩

omit [Repository σ] in
/-- What may be shown is reported uniformly, if no more of its errors is reported than the
response. -/
theorem uniform_run {α ρ : Type} {a : Action σ AccountError α} (ha : Presentable a)
    {next : Except (Stop AccountError) α → StateM (Exchange (World σ) Call) ρ}
    (report : Stop Response → ρ) (hok : ∀ v, Uniform (next (.ok v)))
    (herror : ∀ stop, next (.error stop) = pure (report (stop.map AccountError.response))) :
    Uniform (a.run >>= next) := by
  intro x x' h
  obtain ⟨hr, hz⟩ := ha x x' h
  show (next (a x').1 (a x').2).1 = (next (a x).1 (a x).2).1 ∧
    Alike takenOrClass (next (a x).1 (a x).2).2 (next (a x').1 (a x').2).2
  obtain ⟨v, hx, hx'⟩ | ⟨e, e', hx, hx', hseen⟩ := Result.mapError_eq_mapError hr
  · rw [hx, hx']
    exact hok v _ _ hz
  · rw [hx, hx', herror, herror, hseen]
    exact uniform_pure _ _ _ hz

/-- The response that is shown of an ending without an answer, if there is one. -/
def shown? : Stop Response → Option Response
  | .refused response => some response
  | .abandoned => none

theorem uniform_register (f : Front) (q : Request) (fresh : Fresh) :
    Uniform (f.register q fresh : StateM (Exchange (World σ) Call) (Option Response)) := by
  unfold Front.register
  cases q.readBody Registration.decode with
  | error response => exact uniform_pure _
  | ok r =>
    refine uniform_run (presentable_register f.service r fresh) shown? (fun _ => uniform_pure _)
      fun stop => ?_
    cases stop <;> rfl

theorem uniform_issueToken (f : Front) (q : Request) :
    Uniform (f.issueToken q : StateM (Exchange (World σ) Call) (Option Response)) := by
  unfold Front.issueToken
  cases q.readBody Credentials.decode with
  | error response => exact uniform_pure _
  | ok c =>
    refine uniform_run (presentable_issueToken f.service c) shown? (fun _ => uniform_pure _)
      fun stop => ?_
    cases stop <;> rfl

theorem uniform_respondActivate (segment : List Char) :
    Uniform (respondActivate segment : StateM (Exchange (World σ) Call) (Option Response)) := by
  unfold respondActivate
  cases Text.Percent.decodeSegment? segment with
  | none => exact uniform_pure _
  | some token =>
    refine uniform_run (presentable_activate _) shown? (fun _ => uniform_pure _) fun stop => ?_
    cases stop <;> rfl

theorem uniform_handle (f : Front) (q : Request) (t : Target) (fresh : Fresh) :
    Uniform (f.handle q t fresh : StateM (Exchange (World σ) Call) (Option Response)) := by
  unfold Front.handle
  cases Route.ofSegments? t.segments with
  | none => exact uniform_pure _
  | some r =>
    simp only
    split
    next =>
      cases r with
      | health => exact uniform_pure _
      | register => exact uniform_register f q fresh
      | issueToken => exact uniform_issueToken f q
      | activate segment => exact uniform_respondActivate segment
    next => exact uniform_pure _

/-! ## Values that are taken -/

/-- What a client is told when making an account breaks a rule of the given name. -/
def violationResponse (constraint : String) : Response :=
  if constraint = "users_email_key" then .error 409 "email already exists"
  else if constraint = "users_username_key" then .error 409 "username already exists"
  else .error 500 "Internal server error"

theorem response_of_violation (constraint : String) :
    (creationError (.store (.uniqueViolation constraint))).response =
      violationResponse constraint := by
  by_cases hemail : constraint = "users_email_key"
  · subst hemail
    rfl
  · by_cases husername : constraint = "users_username_key"
    · subst husername
      rfl
    · have htaken : isTaken (.uniqueViolation constraint) = false := by
        simp [isTaken, StoreError.isUniqueViolationOf, emailConstraint, usernameConstraint, hemail,
          husername]
      unfold violationResponse
      rw [if_neg hemail, if_neg husername, creationError_of_not_taken htaken]
      rfl

/-- The rules for emails and for usernames are told apart from each other and from every other. -/
theorem violationResponse_ne {constraint other : String}
    (h : constraint = "users_email_key" ∨ constraint = "users_username_key")
    (hne : other ≠ constraint) : violationResponse other ≠ violationResponse constraint := by
  unfold violationResponse
  rcases h with rfl | rfl
  · rw [if_neg hne, if_pos rfl]
    split
    next => simp [Response.error, Response.json]
    next => simp [Response.error, Response.json]
  · rw [if_neg hne, if_neg (show "users_username_key" ≠ "users_email_key" by decide), if_pos rfl]
    split
    next => simp [Response.error, Response.json]
    next => simp [Response.error, Response.json]

/-- A registration that is in order and that the store refuses for a broken rule. -/
structure Violates (f : Front) (q : Request) (t : Target) (x : Exchange (World σ) Call)
    (constraint : String) : Prop where
  route : Route.ofSegments? t.segments = some .register
  method : q.method = "POST"
  body : ∃ r, q.readBody Registration.decode = .ok r ∧ r.check = .ok ()
  expiry : (expiry? x.world.now f.service.invitationLifetime).isSome
  deadline : x.deadline = none
  fault : Exchange.errorFor x.faults "users.create_and_invite" = some (.uniqueViolation constraint)

theorem handle_of_violation {constraint : String} (h : Violates f q t x constraint) :
    (f.handle q t fresh x).1 = some (violationResponse constraint) := by
  obtain ⟨r, hbody, hcheck⟩ := h.body
  have hhandle : f.handle q t fresh x = f.register q fresh x := by
    unfold Front.handle
    simp only [h.route, Route.hasMethod, h.method, decide_true, if_true]
  rw [hhandle]
  unfold Front.register
  rw [hbody]
  simp only [bind, StateT.bind, ExceptT.run]
  cases hrun : f.service.register r fresh x with
  | mk result y =>
    have hfailed : result =
        .error (.refused (creationError (.store (.uniqueViolation constraint)))) := by
      obtain ⟨_, hways, _⟩ := register_cases h.deadline hrun
      generalize y.world.store = store at hways
      cases hways with
      | invalid hinvalid =>
        rw [hcheck] at hinvalid
        cases hinvalid
      | undated _ hundated =>
        have hexpiry := h.expiry
        rw [hundated] at hexpiry
        cases hexpiry
      | notCreated _ _ hrefused =>
        rw [h.fault] at hrefused
        obtain hrefused | ⟨hcalm, _⟩ := hrefused
        · cases hrefused
          rfl
        · cases hcalm
      | created hcreated =>
        have hcalm := hcreated.calm
        rw [h.fault] at hcalm
        cases hcalm
    rw [hfailed]
    exact congrArg some (response_of_violation constraint)

end Agora.Account
