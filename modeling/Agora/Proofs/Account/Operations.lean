import Agora.Account.Session
import Agora.Proofs.Exchange.Faults
import Agora.Proofs.Result

/-!
# What one event can do

Each operation of the account service is taken apart once, for any repository and any faults:
`register_cases` lists the ways of a registration, `issueToken_cases` and `activate_cases` those of
a log-in and of an activation. Events have no deadline, so whether a call fails is a matter of the
first fault of its name and of the store.
-/

namespace Agora.Account

open Exchange (errorFor missesFor)

variable {σ : Type} [Repository σ] {s : Service} {w w' : World σ} {faults : List Fault}

/-! ## Registration -/

/-- The token of the invitation. -/
def Fresh.invitation (fresh : Fresh) : String := Text.Uuid.ofBytes fresh.token

namespace Service

/-- What the store is asked to make of a registration. -/
def newUser (s : Service) (r : Registration) (fresh : Fresh) : NewUser where
  username := r.username
  email := normalEmail r.email
  passwordHash := s.scheme.store fresh.salt r.password

/-- The call that asks for it. -/
def creation (s : Service) (r : Registration) (fresh : Fresh) (expiresAt : Time.Instant) : Call :=
  .createAndInvite (s.newUser r fresh) (tokenDigest fresh.invitation) expiresAt

end Service

/-- The registration is in order, and the store has made the account `u`. -/
structure Created (s : Service) (w : World σ) (faults : List Fault) (r : Registration)
    (fresh : Fresh) (expiresAt : Time.Instant) (u : User) (store : σ) : Prop where
  check : r.check = .ok ()
  expiry : expiry? w.now s.invitationLifetime = some expiresAt
  calm : errorFor faults "users.create_and_invite" = none
  created : Repository.createAndInvite w.store w.now (s.newUser r fresh)
    (tokenDigest fresh.invitation) expiresAt = .ok (u, store)

/-- The ways of inviting a new account: the result, the calls that were made, and the store that is
left. -/
inductive Inviting (s : Service) (u : User) (token : String) (faults : List Fault) (store : σ) :
    Except (Stop AccountError) Registered → List Call → σ → Prop
  | sent (hmail : errorFor faults "mailer.send_invitation" = none) :
      Inviting s u token faults store (.ok ⟨u, token⟩) [.sendInvitation (s.mail u token)] store
  | undone {e : StoreError} {store' : σ} (hmail : errorFor faults "mailer.send_invitation" = some e)
      (hcalm : errorFor faults "users.delete" = none)
      (hdeleted : Repository.delete store u.id = .ok ((), store')) :
      Inviting s u token faults store (.error (.refused .internal))
        [.sendInvitation (s.mail u token), .delete u.id] store'
  | stuck {e e' : StoreError} (hmail : errorFor faults "mailer.send_invitation" = some e)
      (hfailed : errorFor faults "users.delete" = some e' ∨
        errorFor faults "users.delete" = none ∧ Repository.delete store u.id = .error e') :
      Inviting s u token faults store (.error (.refused .internal))
        [.sendInvitation (s.mail u token), .delete u.id] store

/-- Only the errors for the two calls matter of the faults. -/
theorem Inviting.of_errors {u : User} {token : String} {faults' : List Fault} {store store' : σ}
    {result : Except (Stop AccountError) Registered} {calls : List Call}
    (h : Inviting s u token faults store result calls store')
    (hmail : errorFor faults "mailer.send_invitation" = errorFor faults' "mailer.send_invitation")
    (hdelete : errorFor faults "users.delete" = errorFor faults' "users.delete") :
    Inviting s u token faults' store result calls store' := by
  cases h with
  | sent hsent => exact .sent (hmail ▸ hsent)
  | undone hfault hcalm hdeleted => exact .undone (hmail ▸ hfault) (hdelete ▸ hcalm) hdeleted
  | stuck hfault hfailed => exact .stuck (hmail ▸ hfault) (hdelete ▸ hfailed)

/-- The ways of a registration. -/
inductive Registering (s : Service) (w : World σ) (faults : List Fault) (r : Registration)
    (fresh : Fresh) : Except (Stop AccountError) Registered → List Call → σ → Prop
  | invalid {e : Invalid} (hcheck : r.check = .error e) :
      Registering s w faults r fresh (.error (.refused (.validation e.message))) [] w.store
  | undated (hcheck : r.check = .ok ()) (hexpiry : expiry? w.now s.invitationLifetime = none) :
      Registering s w faults r fresh (.error .abandoned) [] w.store
  | notCreated {expiresAt : Time.Instant} {e : StoreError} (hcheck : r.check = .ok ())
      (hexpiry : expiry? w.now s.invitationLifetime = some expiresAt)
      (hfailed : errorFor faults "users.create_and_invite" = some e ∨
        errorFor faults "users.create_and_invite" = none ∧
          Repository.createAndInvite w.store w.now (s.newUser r fresh)
            (tokenDigest fresh.invitation) expiresAt = .error e) :
      Registering s w faults r fresh (.error (.refused (creationError (.store e))))
        [s.creation r fresh expiresAt] w.store
  | created {expiresAt : Time.Instant} {u : User} {store store' : σ}
      {result : Except (Stop AccountError) Registered} {calls : List Call}
      (hcreated : Created s w faults r fresh expiresAt u store)
      (hinviting : Inviting s u fresh.invitation faults store result calls store') :
      Registering s w faults r fresh result (s.creation r fresh expiresAt :: calls) store'

section

omit [Repository σ]

/-- A change of the store, read off the one of the world. -/
theorem World.onStore_eq_ok {α : Type} {change : σ → Except StoreError (α × σ)} {a : α} :
    w.onStore change = .ok (a, w') ↔
      ∃ store, change w.store = .ok (a, store) ∧ w' = { w with store } := by
  unfold onStore
  cases change w.store with
  | error e => simp [Except.map, Ending.ofExcept]
  | ok result =>
    obtain ⟨b, store⟩ := result
    constructor
    · intro h
      cases h
      exact ⟨store, rfl, rfl⟩
    · rintro ⟨store', h, rfl⟩
      cases h
      rfl

theorem World.onStore_eq_error {α : Type} {change : σ → Except StoreError (α × σ)}
    {e : StoreError} : w.onStore change = .error e ↔ change w.store = .error e := by
  unfold onStore
  cases change w.store <;> simp [Except.map, Ending.ofExcept]

/-- A change of the store is made or refused as a whole. -/
theorem World.onStore_ne_broken {α : Type} {change : σ → Except StoreError (α × σ)} :
    w.onStore change ≠ .broken w' := by
  unfold onStore
  cases change w.store <;> simp [Except.map, Ending.ofExcept]

end

omit [Repository σ] in
/-- How a change of the store ends, whatever is made of its errors. -/
theorem change_ends {ε α : Type} {x y : Exchange (World σ) Call} {c : Call}
    {change : World σ → σ → Except StoreError (α × σ)} {f : Failure → ε}
    {r : Except (Stop ε) α} (hdeadline : x.deadline = none)
    (h : (Agora.Action.write c fun w => w.onStore (change w)).mapError f x = (r, y)) :
    Exchange.Passed x c y ∧
      ((∃ e, (errorFor x.faults (HasName.name c) = some e ∨
            errorFor x.faults (HasName.name c) = none ∧
              change x.world x.world.store = .error e) ∧
          r = .error (.refused (f (.store e))) ∧ y.world = x.world) ∨
        (errorFor x.faults (HasName.name c) = none ∧
          ∃ a store, change x.world x.world.store = .ok (a, store) ∧ r = .ok a ∧
            y.world = { x.world with store })) := by
  have hwhole : ∀ w, x.world.onStore (change x.world) ≠ .broken w :=
    fun _ => World.onStore_ne_broken
  obtain ⟨_, hwrite, rfl⟩ | ⟨_, hwrite, rfl⟩ := Action.mapError_eq h
  · obtain ⟨hpassed, ⟨e, hfailed, hr, hleft⟩ | ⟨_, _, _, hr⟩⟩ :=
      Action.write_ends_whole hdeadline hwhole hwrite
    · cases hr
      exact ⟨hpassed, Or.inl ⟨e, hfailed.imp_right fun ⟨hcalm, heffect⟩ =>
        ⟨hcalm, World.onStore_eq_error.mp heffect⟩, rfl, hleft⟩⟩
    · cases hr
  · obtain ⟨hpassed, ⟨_, _, hr, _⟩ | ⟨hcalm, _, heffect, hr⟩⟩ :=
      Action.write_ends_whole hdeadline hwhole hwrite
    · cases hr
    cases hr
    obtain ⟨store, hstore, hleft⟩ := World.onStore_eq_ok.mp heffect
    exact ⟨hpassed, Or.inr ⟨hcalm, _, store, hstore, rfl, hleft⟩⟩

omit [Repository σ] in
/-- How an attempt at a change ends that does not break down. -/
theorem attempt_ends {ε α : Type} {x y : Exchange (World σ) Call} {c : Call}
    {effect : World σ → Ending (World σ) StoreError α} {r : Except (Stop ε) (Except Failure α)}
    (hdeadline : x.deadline = none) (hwhole : ∀ w, effect x.world ≠ .broken w)
    (h : (Agora.Action.write c effect).attempt x = (r, y)) :
    Exchange.Passed x c y ∧
      ((∃ e, (errorFor x.faults (HasName.name c) = some e ∨
            errorFor x.faults (HasName.name c) = none ∧ effect x.world = .error e) ∧
          r = .ok (.error (.store e)) ∧ y.world = x.world) ∨
        (errorFor x.faults (HasName.name c) = none ∧
          ∃ a, effect x.world = .ok (a, y.world) ∧ r = .ok (.ok a))) := by
  obtain ⟨_, hwrite, rfl⟩ := Action.attempt_eq h
  obtain ⟨hpassed, ⟨e, hfailed, rfl, hleft⟩ | ⟨hcalm, a, heffect, rfl⟩⟩ :=
    Action.write_ends_whole hdeadline hwhole hwrite
  · exact ⟨hpassed, Or.inl ⟨e, hfailed, rfl, hleft⟩⟩
  · exact ⟨hpassed, Or.inr ⟨hcalm, a, heffect, rfl⟩⟩

section

variable {x y : Exchange (World σ) Call} {result : Except (Stop AccountError) Registered}

theorem invite_cases {u : User} {token : String} (hdeadline : x.deadline = none)
    (h : s.invite u token x = (result, y)) :
    ∃ calls, Inviting s u token x.faults x.world.store result calls y.world.store ∧
      y.calls = x.calls ++ calls ∧ y.world.now = x.world.now := by
  unfold Service.invite at h
  -- nothing is kept of a mail, so sending one changes nothing and does not break down
  have hwhole : ∀ w : World σ, (Ending.ok ((), x.world) : Ending (World σ) StoreError Unit) ≠
      .broken w := fun _ => nofun
  obtain ⟨_, hsent, _⟩ | ⟨sent, z, hsent, h⟩ := Action.bind_eq h
  · obtain ⟨_, ⟨_, _, hr, _⟩ | ⟨_, _, _, hr⟩⟩ := attempt_ends hdeadline hwhole hsent <;> cases hr
  obtain ⟨hpassed, ⟨e, hfailed, hr, hworld⟩ | ⟨hcalm, _, heffect, hr⟩⟩ :=
    attempt_ends hdeadline hwhole hsent
  · -- the mail was not sent, and the account is removed again
    cases hr
    have herror : errorFor x.faults "mailer.send_invitation" = some e :=
      hfailed.resolve_right fun ⟨_, heffect⟩ => nomatch heffect
    have hdeadline' : z.deadline = none := hpassed.deadline.trans hdeadline
    have hwhole' : ∀ w, z.world.onStore (fun store => Repository.delete store u.id) ≠ .broken w :=
      fun _ => World.onStore_ne_broken
    obtain ⟨_, hattempt, _⟩ | ⟨_, z', hattempt, hthrow⟩ := Action.bind_eq h
    · obtain ⟨_, ⟨_, _, hr, _⟩ | ⟨_, _, _, hr⟩⟩ := attempt_ends hdeadline' hwhole' hattempt <;>
        cases hr
    obtain ⟨rfl, rfl⟩ := Action.refuse_eq hthrow
    obtain ⟨hpassed', hends⟩ := attempt_ends hdeadline' hwhole' hattempt
    have hother : errorFor z.faults "users.delete" = errorFor x.faults "users.delete" := by
      rw [hpassed.faults]
      exact Exchange.errorFor_of_ne
        (show "mailer.send_invitation" ≠ "users.delete" by decide) x.faults
    change (∃ e, (errorFor z.faults "users.delete" = some e ∨
      errorFor z.faults "users.delete" = none ∧ _) ∧ _) ∨
      (errorFor z.faults "users.delete" = none ∧ _) at hends
    rw [hother, hworld] at hends
    have hcalls := hpassed'.calls
    rw [hpassed.calls, List.append_assoc] at hcalls
    obtain ⟨e', hstuck, _, hleft⟩ | ⟨hcalm', _, heffect, _⟩ := hends
    · rw [hleft]
      exact ⟨_, .stuck herror (hstuck.imp_right fun ⟨hcalm', heffect⟩ =>
        ⟨hcalm', World.onStore_eq_error.mp heffect⟩), hcalls, rfl⟩
    · obtain ⟨store, hstore, hleft⟩ := World.onStore_eq_ok.mp heffect
      rw [hleft]
      exact ⟨_, .undone herror hcalm' hstore, hcalls, rfl⟩
  · cases hr
    obtain ⟨_, hworld⟩ := Prod.mk.inj (Ending.ok.inj heffect)
    obtain ⟨rfl, rfl⟩ := Prod.mk.inj h
    rw [← hworld]
    exact ⟨_, .sent hcalm, hpassed.calls, rfl⟩

theorem register_cases {r : Registration} {fresh : Fresh} (hdeadline : x.deadline = none)
    (h : s.register r fresh x = (result, y)) :
    ∃ calls, Registering s x.world x.faults r fresh result calls y.world.store ∧
      y.calls = x.calls ++ calls ∧ y.world.now = x.world.now := by
  unfold Service.register at h
  cases hcheck : r.check with
  | error e =>
    rw [hcheck] at h
    obtain ⟨rfl, rfl⟩ := Prod.mk.inj h
    exact ⟨[], .invalid hcheck, (List.append_nil _).symm, rfl⟩
  | ok _ =>
    rw [hcheck] at h
    obtain ⟨_, hget, _⟩ | ⟨_, z, hget, h⟩ := Action.bind_eq h
    · cases hget
    obtain ⟨hget, rfl⟩ := Prod.mk.inj hget
    cases hget
    cases hexpiry : expiry? x.world.now s.invitationLifetime with
    | none =>
      simp only [hexpiry] at h
      obtain ⟨rfl, rfl⟩ := Prod.mk.inj h
      exact ⟨[], .undated hcheck hexpiry, (List.append_nil _).symm, rfl⟩
    | some expiresAt =>
      simp only [hexpiry] at h
      obtain ⟨_, hcreation, rfl⟩ | ⟨u, z, hcreation, hinvite⟩ := Action.bind_eq h
      · -- the store has not made the account
        obtain ⟨hpassed, ⟨e, hfailed, hr, hleft⟩ | ⟨_, _, _, _, hr, _⟩⟩ :=
          change_ends hdeadline hcreation
        · cases hr
          rw [hleft]
          exact ⟨_, .notCreated hcheck hexpiry hfailed, hpassed.calls, rfl⟩
        · cases hr
      · obtain ⟨hpassed, ⟨_, _, hr, _⟩ | ⟨hcalm, _, store, hstore, hr, hleft⟩⟩ :=
          change_ends hdeadline hcreation
        · cases hr
        cases hr
        -- the calls for the invitation have names of their own, so their faults are still there
        obtain ⟨calls, hinviting, hcalls, hnow⟩ :=
          invite_cases (hpassed.deadline.trans hdeadline) hinvite
        have hmail : errorFor z.faults "mailer.send_invitation" =
            errorFor x.faults "mailer.send_invitation" := by
          rw [hpassed.faults]
          exact Exchange.errorFor_of_ne
            (show "users.create_and_invite" ≠ "mailer.send_invitation" by decide) x.faults
        have hdelete : errorFor z.faults "users.delete" = errorFor x.faults "users.delete" := by
          rw [hpassed.faults]
          exact Exchange.errorFor_of_ne
            (show "users.create_and_invite" ≠ "users.delete" by decide) x.faults
        rw [hleft] at hinviting hnow
        refine ⟨_, .created ⟨hcheck, hexpiry, hcalm, hstore⟩
          (hinviting.of_errors hmail hdelete), ?_, hnow⟩
        rw [hcalls, hpassed.calls, List.append_assoc]
        rfl

end

/-! ## Log-in -/

/-- The answer to credentials when the store tells what is there. -/
def Service.logIn (s : Service) (w : World σ) (c : Credentials) :
    Except (Stop AccountError) String :=
  match Repository.userByEmail? w.store (normalEmail c.email) with
  | none => .error (.refused .unauthorized)
  | some u => do
    (s.checkPassword u c.password).mapError .refused
    s.session w.now u

/-- A session needs an account of the email, the account's password, and its activity. -/
theorem logIn_eq_ok {c : Credentials} {token : String} (h : s.logIn w c = .ok token) :
    ∃ u, Repository.userByEmail? w.store (normalEmail c.email) = some u ∧
      s.scheme.check? u.passwordHash c.password = some true ∧ u.isActive = true ∧
      s.session w.now u = .ok token := by
  unfold Service.logIn at h
  cases hfound : Repository.userByEmail? w.store (normalEmail c.email) with
  | none =>
    rw [hfound] at h
    cases h
  | some u =>
    rw [hfound] at h
    obtain ⟨_, hcheck, hsession⟩ := Result.bind_eq_ok.mp h
    unfold Service.checkPassword at hcheck
    cases hfits : s.scheme.check? u.passwordHash c.password with
    | none =>
      rw [hfits] at hcheck
      cases hcheck
    | some fits =>
      rw [hfits] at hcheck
      cases fits with
      | false => cases hcheck
      | true =>
        by_cases hactive : u.isActive = true
        · exact ⟨u, rfl, hfits, hactive, hsession⟩
        · simp only [if_neg hactive] at hcheck
          cases hcheck

/-- With the account's password all depends on its activity. -/
theorem logIn_of_found {c : Credentials} {u : User}
    (hfound : Repository.userByEmail? w.store (normalEmail c.email) = some u)
    (hfits : s.scheme.check? u.passwordHash c.password = some true) :
    s.logIn w c =
      if u.isActive then s.session w.now u else .error (.refused .unauthorized) := by
  unfold Service.logIn Service.checkPassword
  simp only [hfound, hfits]
  split <;> rfl

/-- The ways of a log-in, by its result. -/
inductive LoggingIn (s : Service) (w : World σ) (faults : List Fault) (c : Credentials) :
    Except (Stop AccountError) String → Prop
  | failed {e : StoreError} (hfault : errorFor faults "users.get_by_email" = some e) :
      LoggingIn s w faults c (.error (.refused (.store e)))
  | missed (hfault : missesFor faults "users.get_by_email" = true) :
      LoggingIn s w faults c (.error (.refused .unauthorized))
  | told (hthere : missesFor faults "users.get_by_email" = false)
      (hcalm : errorFor faults "users.get_by_email" = none) :
      LoggingIn s w faults c (s.logIn w c)

theorem issueToken_cases {x y : Exchange (World σ) Call} {c : Credentials}
    {result : Except (Stop AccountError) String} (hdeadline : x.deadline = none)
    (h : s.issueToken c x = (result, y)) :
    LoggingIn s x.world x.faults c result ∧
      y.calls = x.calls ++ [.userByEmail (normalEmail c.email)] ∧ y.world = x.world := by
  unfold Service.issueToken at h
  obtain ⟨_, hfind, rfl⟩ | ⟨found, z, hfind, h⟩ := Action.bind_eq h
  · obtain ⟨_, hlookup, hr⟩ | ⟨_, _, hr⟩ := Action.mapError_eq hfind
    · cases hr
      obtain ⟨hpassed, hworld, ⟨e, herror, hr⟩ | ⟨_, hr⟩ | ⟨_, _, hr⟩⟩ :=
        Action.lookup_ends hdeadline hlookup
      · cases hr
        exact ⟨.failed herror, hpassed.calls, hworld⟩
      · cases hr
      · cases hr
    · cases hr
  · obtain ⟨_, _, hr⟩ | ⟨_, hlookup, hr⟩ := Action.mapError_eq hfind
    · cases hr
    cases hr
    obtain ⟨hpassed, hworld, ⟨_, _, hr⟩ | ⟨hmissing, hr⟩ | ⟨hthere, hcalm, hr⟩⟩ :=
      Action.lookup_ends hdeadline hlookup
    · cases hr
    · cases hr
      obtain ⟨rfl, rfl⟩ := Prod.mk.inj h
      exact ⟨.missed hmissing, hpassed.calls, hworld⟩
    · cases hr
      -- nothing is called after the search, so the rest is a function of what it found
      have hanswer : result = s.logIn x.world c ∧ y = z := by
        unfold Service.logIn
        cases hfound : Repository.userByEmail? x.world.store (normalEmail c.email) with
        | none =>
          rw [hfound] at h
          obtain ⟨rfl, rfl⟩ := Prod.mk.inj h
          exact ⟨rfl, rfl⟩
        | some u =>
          rw [hfound] at h
          obtain ⟨e, hcheck, rfl, rfl⟩ | ⟨_, hcheck, h⟩ := Action.ofExcept_bind_eq h
          · simp only [hcheck]
            exact ⟨rfl, trivial⟩
          · obtain ⟨_, hget, _⟩ | ⟨_, _, hget, h⟩ := Action.bind_eq h
            · cases hget
            obtain ⟨hget, rfl⟩ := Prod.mk.inj hget
            cases hget
            obtain ⟨rfl, rfl⟩ := Action.ofResult_eq h
            simp only [hcheck]
            rw [hworld]
            exact ⟨rfl, trivial⟩
      obtain ⟨rfl, rfl⟩ := hanswer
      exact ⟨.told hthere hcalm, hpassed.calls, hworld⟩

/-! ## Activation -/

/-- Why an invitation could not be taken up. -/
def activationError : StoreError → AccountError
  | .notFound => .notFound "invitation not found or expired"
  | e => .store e

/-- The errors of an activation, by what was wrong with its call. -/
def activationFailure : Failure → AccountError
  | .cancelled => .internal
  | .store e => activationError e

theorem activate_eq (token : String) : (activate token : Action σ AccountError Unit) =
    (Agora.Action.write (Call.activate (tokenDigest token)) fun w => w.onStore fun store =>
      Repository.activate store w.now (tokenDigest token)).mapError activationFailure := by
  unfold activate
  congr 1
  funext failure
  cases failure with
  | cancelled => rfl
  | store e => cases e <;> rfl

/-- The ways of an activation: its result, and the store that is left. -/
inductive Activating (w : World σ) (faults : List Fault) (token : String) :
    Except AccountError Unit → σ → Prop
  | failed {e : StoreError} (hfailed : errorFor faults "users.activate" = some e ∨
      errorFor faults "users.activate" = none ∧
        Repository.activate w.store w.now (tokenDigest token) = .error e) :
      Activating w faults token (.error (activationError e)) w.store
  | done {store : σ} (hcalm : errorFor faults "users.activate" = none)
      (hactivated : Repository.activate w.store w.now (tokenDigest token) = .ok ((), store)) :
      Activating w faults token (.ok ()) store

/-- An activation reads no clock that could not be read, so it is answered or refused. -/
theorem activate_cases {x y : Exchange (World σ) Call} {token : String}
    {r : Except (Stop AccountError) Unit} (hdeadline : x.deadline = none)
    (h : activate token x = (r, y)) :
    ∃ result, r = result.mapError .refused ∧
      Activating x.world x.faults token result y.world.store ∧
      y.calls = x.calls ++ [.activate (tokenDigest token)] ∧ y.world.now = x.world.now := by
  rw [activate_eq] at h
  obtain ⟨hpassed, ⟨e, hfailed, rfl, hleft⟩ | ⟨hcalm, _, store, hstore, rfl, hleft⟩⟩ :=
    change_ends hdeadline h
  · rw [hleft]
    exact ⟨_, rfl, .failed hfailed, hpassed.calls, rfl⟩
  · rw [hleft]
    exact ⟨_, rfl, .done hcalm hstore, hpassed.calls, rfl⟩

/-! ## Events -/

/-- What is answered or refused is shown as it is. -/
theorem Outcome.ofResult_mapError {α : Type} (report : Except AccountError α → Outcome)
    (result : Except AccountError α) :
    Outcome.ofResult report (result.mapError .refused) = report result := by
  cases result <;> rfl

/-- What tells answers and errors apart tells them from neither. -/
theorem Outcome.ofResult_injective {α : Type} {report : Except AccountError α → Outcome}
    (hinj : Function.Injective report) (htold : ∀ result, report result ≠ .abandoned) :
    Function.Injective (Outcome.ofResult report) := by
  intro result result' h
  match result, result' with
  | .ok a, .ok a' => rw [Except.ok.inj (hinj h)]
  | .ok a, .error (.refused e) => cases hinj h
  | .ok a, .error .abandoned => exact absurd h (htold _)
  | .error (.refused e), .ok a => cases hinj h
  | .error (.refused e), .error (.refused e') => rw [Except.error.inj (hinj h)]
  | .error (.refused e), .error .abandoned => exact absurd h (htold _)
  | .error .abandoned, .ok a => exact absurd h.symm (htold _)
  | .error .abandoned, .error (.refused e) => exact absurd h.symm (htold _)
  | .error .abandoned, .error .abandoned => rfl

theorem Outcome.registered_injective : Function.Injective (Outcome.ofResult .registered) :=
  ofResult_injective (fun _ _ => Outcome.registered.inj) fun _ => nofun

theorem Outcome.issued_injective : Function.Injective (Outcome.ofResult .issued) :=
  ofResult_injective (fun _ _ => Outcome.issued.inj) fun _ => nofun

/-- The ways of an event: what it shows, the calls that were made, and the world that is left. -/
inductive Happens (s : Service) (w : World σ) (faults : List Fault) :
    Event → Outcome → List Call → World σ → Prop
  | clock (now : Time.Instant) : Happens s w faults (.setClock now) .done [] { w with now }
  | registered {r : Registration} {fresh : Fresh}
      {result : Except (Stop AccountError) Registered} {calls : List Call} {store : σ}
      (h : Registering s w faults r fresh result calls store) :
      Happens s w faults (.register r fresh) (.ofResult .registered result) calls { w with store }
  | issued {c : Credentials} {result : Except (Stop AccountError) String}
      (h : LoggingIn s w faults c result) :
      Happens s w faults (.issueToken c) (.ofResult .issued result)
        [.userByEmail (normalEmail c.email)] w
  | activated {token : String} {result : Except AccountError Unit} {store : σ}
      (h : Activating w faults token result store) :
      Happens s w faults (.activate token) (.activated result) [.activate (tokenDigest token)]
        { w with store }

namespace Happens

variable {outcome : Outcome} {calls : List Call}

theorem register_cases {r : Registration} {fresh : Fresh}
    (h : Happens s w faults (.register r fresh) outcome calls w') : ∃ result store,
      outcome = .ofResult .registered result ∧ w' = { w with store } ∧
        Registering s w faults r fresh result calls store := by
  cases h with
  | registered hways => exact ⟨_, _, rfl, rfl, hways⟩

theorem issueToken_cases {c : Credentials}
    (h : Happens s w faults (.issueToken c) outcome calls w') : ∃ result,
      outcome = .ofResult .issued result ∧ w' = w ∧ LoggingIn s w faults c result := by
  cases h with
  | issued hways => exact ⟨_, rfl, rfl, hways⟩

theorem activate_cases {token : String}
    (h : Happens s w faults (.activate token) outcome calls w') : ∃ result store,
      outcome = .activated result ∧ w' = { w with store } ∧
        Activating w faults token result store := by
  cases h with
  | activated hways => exact ⟨_, _, rfl, rfl, hways⟩

end Happens

omit [Repository σ] in
/-- An exchange of an event begins without calls and has no deadline. -/
theorem exchangeAs_eq {α : Type} {report : α → Outcome}
    {a : StateM (Exchange (World σ) Call) α} {outcome : Outcome} {calls : List Call}
    (h : exchangeAs w faults report a = (outcome, calls, w')) :
    ∃ answer x, a { world := w, deadline := none, faults } = (answer, x) ∧
      outcome = report answer ∧ calls = x.calls ∧ w' = x.world := by
  cases h
  exact ⟨_, _, rfl, rfl, rfl, rfl⟩

omit [Repository σ] in
/-- The clock does not move in an exchange. -/
theorem World.eq_of_now (h : w'.now = w.now) : w' = { w with store := w'.store } := by
  rw [← h]

/-- Every event goes one of these ways. -/
theorem run_happens {e : Event} {outcome : Outcome} {calls : List Call}
    (h : e.run s w faults = (outcome, calls, w')) : Happens s w faults e outcome calls w' := by
  cases e with
  | setClock now =>
    cases h
    exact .clock now
  | register r fresh =>
    unfold Event.run at h
    obtain ⟨result, x, hrun, rfl, rfl, rfl⟩ := exchangeAs_eq h
    obtain ⟨calls, hways, hcalls, hnow⟩ := register_cases rfl hrun
    rw [hcalls, World.eq_of_now hnow]
    exact .registered hways
  | issueToken c =>
    unfold Event.run at h
    obtain ⟨result, x, hrun, rfl, rfl, rfl⟩ := exchangeAs_eq h
    obtain ⟨hways, hcalls, hworld⟩ := issueToken_cases rfl hrun
    rw [hcalls, hworld]
    exact .issued hways
  | activate token =>
    unfold Event.run at h
    obtain ⟨_, x, hrun, rfl, rfl, rfl⟩ := exchangeAs_eq h
    obtain ⟨result, rfl, hways, hcalls, hnow⟩ := activate_cases rfl hrun
    rw [hcalls, World.eq_of_now hnow, Outcome.ofResult_mapError]
    exact .activated hways

end Agora.Account
