import Agora.Proofs.Account.Contract
import Agora.Proofs.Account.Operations
import Agora.Proofs.Token.Lifetime

/-!
# Registration is all or nothing

Main result: `register_allOrNothing`. For every registration, every state of a repository that keeps
its contract, and every combination of failing calls: a registration that succeeds has made one
account with one invitation, and has mailed its token; one that fails has left accounts and
invitations as they were, unless the call that removes the new account has failed as well.
-/

namespace Agora.Account

open Exchange (errorFor)

variable {σ : Type} [Repository σ] {K : Contract σ} {s : Service} {w : World σ}
  {faults : List Fault} {r : Registration} {fresh : Fresh}

/-- The exchange in which an event is served. -/
def World.exchange (w : World σ) (faults : List Fault) : Exchange (World σ) Call where
  world := w
  deadline := none
  faults := faults

/-- Nobody has the email or the username of a registration. -/
def Contract.Free (K : Contract σ) (store : σ) (r : Registration) : Prop :=
  ∀ u ∈ K.users store, u.email ≠ normalEmail r.email ∧ u.username ≠ r.username

namespace Created

variable {expiresAt : Time.Instant} {u : User} {store : σ}

/-- The account was made from what was asked for, and was added with its invitation. -/
theorem grows (h : Created s w faults r fresh expiresAt u store) (hsound : K.Sound w.store) :
    MadeFrom (s.newUser r fresh) u ∧
      K.Grows w.store u ⟨tokenDigest fresh.invitation, u.id, expiresAt⟩ store :=
  K.grows_of_created hsound h.created

/-- The keys of a new account were free. -/
theorem free (h : Created s w faults r fresh expiresAt u store) (hsound : K.Sound w.store) :
    K.Free w.store r := by
  obtain ⟨hmade, hgrows⟩ := h.grows hsound
  have hold : ∀ {v}, v ∈ K.users w.store → v ∈ K.users store := by
    intro v hv
    rw [hgrows.users]
    exact Set.mem_insert_of_mem _ hv
  intro v hv
  refine ⟨fun hemail => hgrows.id_new v hv ?_, fun husername => hgrows.id_new v hv ?_⟩
  · rw [K.email_inj hgrows.sound (hold hv) hgrows.mem_users (hemail.trans hmade.email.symm)]
  · rw [K.username_inj hgrows.sound (hold hv) hgrows.mem_users
      (husername.trans hmade.username.symm)]

end Created

/-- A registration in the exchange of an event, by its result, the calls that were made and the
store that is left. -/
structure AllOrNothing (K : Contract σ) (s : Service) (w : World σ) (faults : List Fault)
    (r : Registration) (fresh : Fresh) (result : Except (Stop AccountError) Registered)
    (calls : List Call) (store : σ) : Prop where
  /-- A success is one account more, an inactive one, with one invitation, and one mail. What is
  kept of the token is its SHA-256 digest. -/
  success : ∀ made, result = .ok made → ∃ expiresAt,
    MadeFrom (s.newUser r fresh) made.user ∧ (∀ v ∈ K.users w.store, v.id ≠ made.user.id) ∧
      K.users store = insert made.user (K.users w.store) ∧
      (∀ i ∈ K.invitations w.store, i.userId ≠ made.user.id) ∧
      K.invitations store =
        insert ⟨Text.Hex.encode (Digest.Sha256.hash (Text.Utf8.encode made.token)), made.user.id,
          expiresAt⟩ (K.invitations w.store) ∧
      calls = [.createAndInvite (s.newUser r fresh)
          (Text.Hex.encode (Digest.Sha256.hash (Text.Utf8.encode made.token))) expiresAt,
        .sendInvitation
          { username := made.user.username, email := made.user.email,
            url := s.frontendUrl ++ "/confirm/" ++ made.token, sandbox := s.sandbox }]
  /-- A failure leaves everything as it was, unless the account could not be removed again. -/
  failure : ∀ stop, result = .error stop →
    ((∃ id, .delete id ∈ calls) → errorFor faults "users.delete" = none) → K.Same w.store store
  /-- So whoever tries again with the same email and username is in conflict only with an account
  that was there before. -/
  retry : ∀ stop, result = .error stop →
    ((∃ id, .delete id ∈ calls) → errorFor faults "users.delete" = none) →
    ∀ (now : Time.Instant) (faults' : List Fault) (r' : Registration) (fresh' : Fresh),
      normalEmail r'.email = normalEmail r.email → r'.username = r.username →
      errorFor faults' "users.create_and_invite" = none →
      ∀ text, (s.register r' fresh' (({ store, now } : World σ).exchange faults')).1 =
        .error (.refused (.conflict text)) → ¬K.Free w.store r
  /-- Mails are only sent for accounts that the store has made, with keys that were free. -/
  mail : ∀ m, .sendInvitation m ∈ calls → K.Free w.store r ∧
    ∃ expiresAt u store', Created s w faults r fresh expiresAt u store' ∧
      m = s.mail u fresh.invitation
  /-- If the mail fails the account is removed again, by its id and once; otherwise none is. -/
  undo : ∀ id, .delete id ∈ calls → ∃ expiresAt u store' e,
    Created s w faults r fresh expiresAt u store' ∧ u.id = id ∧
      errorFor faults "mailer.send_invitation" = some e ∧
      calls = [s.creation r fresh expiresAt, .sendInvitation (s.mail u fresh.invitation),
        .delete id]
  /-- Whatever becomes of that, the answer to a failed mail is the same. -/
  failedMail : ∀ m e, .sendInvitation m ∈ calls →
    errorFor faults "mailer.send_invitation" = some e → result = .error (.refused .internal)

/-! ## What is read off the ways of a registration -/

/-- Only a taken email and a taken username are conflicts. -/
theorem creationError_eq_conflict {e : StoreError} {text : String}
    (h : creationError (.store e) = .conflict text) :
    e = .uniqueViolation emailConstraint ∨ e = .uniqueViolation usernameConstraint := by
  cases e with
  | uniqueViolation name =>
    by_cases hemail : name = emailConstraint
    · exact Or.inl (by rw [hemail])
    by_cases husername : name = usernameConstraint
    · exact Or.inr (by rw [husername])
    simp [creationError, StoreError.isUniqueViolationOf, hemail, husername] at h
  | connection => cases h
  | query => cases h
  | migration => cases h
  | configuration => cases h
  | notFound => cases h
  | foreignKeyViolation => cases h

namespace Registering

variable {result : Except (Stop AccountError) Registered} {calls : List Call} {store : σ}

/-- A registration is in conflict only with keys that are taken. -/
theorem not_free_of_conflict (h : Registering s w faults r fresh result calls store)
    (hsound : K.Sound w.store) (hcalm : errorFor faults "users.create_and_invite" = none)
    {text : String} (hresult : result = .error (.refused (.conflict text))) :
    ¬K.Free w.store r := by
  intro hfree
  cases h with
  | invalid => cases hresult
  | undated => cases hresult
  | created _ hinviting =>
    cases hinviting with
    | sent => cases hresult
    | undone => cases hresult
    | stuck => cases hresult
  | notCreated _ _ hfailed =>
    obtain hfault | ⟨_, hrefused⟩ := hfailed
    · rw [hcalm] at hfault
      cases hfault
    obtain rfl | rfl := creationError_eq_conflict (Stop.refused.inj (Except.error.inj hresult))
    · obtain ⟨u, hu, htaken⟩ := K.email_taken hsound hrefused
      exact (hfree u hu).1 htaken
    · obtain ⟨u, hu, htaken⟩ := K.username_taken hsound hrefused
      exact (hfree u hu).2 htaken

/-- A failure leaves no trace, unless the account could not be removed again. -/
theorem same_of_error (h : Registering s w faults r fresh result calls store)
    (hsound : K.Sound w.store) {stop : Stop AccountError} (hresult : result = .error stop)
    (hcalm : (∃ id, .delete id ∈ calls) → errorFor faults "users.delete" = none) :
    K.Sound store ∧ K.Same w.store store := by
  cases h with
  | invalid => exact ⟨hsound, .refl K _⟩
  | undated => exact ⟨hsound, .refl K _⟩
  | notCreated => exact ⟨hsound, .refl K _⟩
  | created hcreated hinviting =>
    cases hinviting with
    | sent => cases hresult
    | undone _ _ hdeleted => exact (hcreated.grows hsound).2.same_of_deleted hdeleted
    | stuck _ hfailed =>
      -- an account that is there can be removed
      obtain hfault | ⟨_, hrefused⟩ := hfailed
      · rw [hcalm ⟨_, List.mem_of_getLast? rfl⟩] at hfault
        cases hfault
      · obtain ⟨_, hgrows⟩ := hcreated.grows hsound
        obtain ⟨_, hdeleted, _⟩ := K.deleted hgrows.sound hgrows.mem_users
        rw [hdeleted] at hrefused
        cases hrefused

/-- A registration that succeeds has made the account, and has sent the mail. -/
theorem created_of_ok (h : Registering s w faults r fresh result calls store) {made : Registered}
    (hresult : result = .ok made) : ∃ expiresAt,
      Created s w faults r fresh expiresAt made.user store ∧ made.token = fresh.invitation ∧
        calls = [s.creation r fresh expiresAt,
          .sendInvitation (s.mail made.user fresh.invitation)] := by
  cases h with
  | invalid => cases hresult
  | undated => cases hresult
  | notCreated => cases hresult
  | created hcreated hinviting =>
    cases hinviting with
    | sent =>
      cases hresult
      exact ⟨_, hcreated, rfl, rfl⟩
    | undone => cases hresult
    | stuck => cases hresult

/-- A mail is only sent when the account was made, and its error is what the answer is about. -/
theorem created_of_mail (h : Registering s w faults r fresh result calls store) {m : Mail}
    (hmem : .sendInvitation m ∈ calls) :
    (∃ expiresAt u store', Created s w faults r fresh expiresAt u store' ∧
        m = s.mail u fresh.invitation) ∧
      ∀ e, errorFor faults "mailer.send_invitation" = some e →
        result = .error (.refused .internal) := by
  cases h with
  | invalid => cases hmem
  | undated => cases hmem
  | notCreated => simp [Service.creation] at hmem
  | created hcreated hinviting =>
    cases hinviting with
    | sent hmail =>
      refine ⟨⟨_, _, _, hcreated, by simpa [Service.creation] using hmem⟩, fun e he => ?_⟩
      rw [hmail] at he
      cases he
    | undone => exact ⟨⟨_, _, _, hcreated, by simpa [Service.creation] using hmem⟩, fun _ _ => rfl⟩
    | stuck => exact ⟨⟨_, _, _, hcreated, by simpa [Service.creation] using hmem⟩, fun _ _ => rfl⟩

/-- An account is only removed after a mail that failed, and it is the new one. -/
theorem created_of_delete (h : Registering s w faults r fresh result calls store) {id : Int}
    (hmem : .delete id ∈ calls) : ∃ expiresAt u store' e,
      Created s w faults r fresh expiresAt u store' ∧ u.id = id ∧
        errorFor faults "mailer.send_invitation" = some e ∧
        calls = [s.creation r fresh expiresAt, .sendInvitation (s.mail u fresh.invitation),
          .delete id] := by
  cases h with
  | invalid => cases hmem
  | undated => cases hmem
  | notCreated => simp [Service.creation] at hmem
  | created hcreated hinviting =>
    cases hinviting with
    | sent => simp [Service.creation] at hmem
    | undone hmail =>
      obtain rfl : id = _ := by simpa [Service.creation] using hmem
      exact ⟨_, _, _, _, hcreated, rfl, hmail, rfl⟩
    | stuck hmail =>
      obtain rfl : id = _ := by simpa [Service.creation] using hmem
      exact ⟨_, _, _, _, hcreated, rfl, hmail, rfl⟩

end Registering

/-- What is served in the exchange of an event goes one of the ways of a registration. -/
theorem registering_of_exchange (s : Service) (w : World σ) (faults : List Fault)
    (r : Registration) (fresh : Fresh) :
    Registering s w faults r fresh (s.register r fresh (w.exchange faults)).1
      (s.register r fresh (w.exchange faults)).2.calls
      (s.register r fresh (w.exchange faults)).2.world.store := by
  cases hrun : s.register r fresh (w.exchange faults) with
  | mk result x =>
    obtain ⟨calls, hways, hcalls, _⟩ := register_cases (x := w.exchange faults) rfl hrun
    rw [hcalls]
    exact hways

/-- Every registration is all or nothing, whichever of its calls fail. -/
theorem register_allOrNothing (K : Contract σ) (s : Service) (w : World σ)
    (hsound : K.Sound w.store) (faults : List Fault) (r : Registration) (fresh : Fresh) :
    AllOrNothing K s w faults r fresh (s.register r fresh (w.exchange faults)).1
      (s.register r fresh (w.exchange faults)).2.calls
      (s.register r fresh (w.exchange faults)).2.world.store := by
  have h := registering_of_exchange s w faults r fresh
  refine ⟨?success, ?failure, ?retry, ?mail, ?undo, ?failedMail⟩
  case success =>
    intro made hmade
    obtain ⟨expiresAt, hcreated, htoken, hcalls⟩ := h.created_of_ok hmade
    obtain ⟨hfrom, hgrows⟩ := hcreated.grows hsound
    rw [htoken]
    exact ⟨expiresAt, hfrom, hgrows.id_new, hgrows.users, hgrows.uninvited, hgrows.invitations,
      hcalls⟩
  case failure =>
    intro stop hstop hcalm
    exact (h.same_of_error hsound hstop hcalm).2
  case retry =>
    intro stop hstop hcalm now faults' r' fresh' hemail husername hcalm' text hconflict hfree
    obtain ⟨hsound', hsame⟩ := h.same_of_error hsound hstop hcalm
    have hagain := registering_of_exchange s
      { store := (s.register r fresh (w.exchange faults)).2.world.store, now } faults' r' fresh'
    refine hagain.not_free_of_conflict (K := K) hsound' hcalm' hconflict fun u hu => ?_
    rw [hsame.users] at hu
    rw [hemail, husername]
    exact hfree u hu
  case mail =>
    intro m hm
    obtain ⟨⟨expiresAt, u, store', hcreated, hmail⟩, _⟩ := h.created_of_mail hm
    exact ⟨hcreated.free hsound, expiresAt, u, store', hcreated, hmail⟩
  case undo => exact fun id hid => h.created_of_delete hid
  case failedMail => exact fun m e hm he => (h.created_of_mail hm).2 e he

/-- A service to show accounts with. -/
def sampleService (lifetime : UInt64) : Service where
  scheme := .argon2
  decoy := ""
  tokens := Token.sampleService lifetime
  invitationLifetime := 3600
  frontendUrl := "http://front.test"
  sandbox := true

/-- The start of the year 2024. -/
def newYear : Time.Instant := ⟨1704067200, 0, by decide⟩

/-- A world without accounts. -/
def sampleWorld (now : Time.Instant) : World where
  store := {}
  now := now

def sampleRegistration : Registration where
  username := "ada"
  email := " Ada@math.org"
  password := "password1"

def sampleFresh : Fresh where
  salt := List.replicate 16 7
  token := List.replicate 16 9

def mailFails : List Fault := [{ target := "mailer.send_invitation", error := some .notFound }]

/-- The mail fails, and nothing is left of the registration. -/
theorem register_allOrNothing_unsent :
    Store.contract.Sound (sampleWorld newYear).store ∧
      ((sampleService 3600).register sampleRegistration sampleFresh
        ((sampleWorld newYear).exchange mailFails)).1 = .error (.refused .internal) ∧
      Store.contract.Same (sampleWorld newYear).store
        ((sampleService 3600).register sampleRegistration sampleFresh
          ((sampleWorld newYear).exchange mailFails)).2.world.store := by
  refine ⟨Store.sound_empty, rfl, ?_⟩
  exact (register_allOrNothing Store.contract (sampleService 3600) (sampleWorld newYear)
    Store.sound_empty _ sampleRegistration sampleFresh).failure _ rfl fun _ => rfl

end Agora.Account
