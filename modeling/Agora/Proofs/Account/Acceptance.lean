import Agora.Proofs.Account.LogIn

/-!
# Which registrations reach the store

Main result: `register_screened`. The store is asked for an account exactly when the registration
keeps all the rules, the clock does not stand before 1970 and the invitation has a time to expire
at; whatever breaks a rule is refused for the first one it breaks, with no call made and nothing
changed. What the store is asked for has the email in normal form, so two accounts can only be told
apart by emails that differ in it.

A registration that keeps the rules is given up without an answer if the lifetime of invitations
leads to no time there is (`register_given_up`), or if the clock cannot be read.
-/

namespace Agora.Account

open Text (IsCapital)

variable {σ : Type} [Repository σ] {s : Service} {w : World σ} {faults : List Fault}
  {r : Registration} {fresh : Fresh}

/-- An invitation has an end if the clock can be read and the lifetime leads to a time there is. -/
theorem expiry?_eq_some {now expiresAt : Time.Instant} {lifetime : UInt64} :
    expiry? now lifetime = some expiresAt ↔
      0 ≤ now.second ∧ now.addSeconds? (signedLifetime lifetime) = some expiresAt := by
  unfold expiry?
  split
  next hearly => exact iff_of_false nofun fun h => absurd hearly (Int.not_lt.mpr h.1)
  next hbegun => exact ⟨fun h => ⟨Int.not_lt.mp hbegun, h⟩, fun h => h.2⟩

theorem expiry?_eq_none {now : Time.Instant} {lifetime : UInt64} :
    expiry? now lifetime = none ↔
      now.second < 0 ∨ now.addSeconds? (signedLifetime lifetime) = none := by
  unfold expiry?
  split
  next hearly => exact iff_of_true rfl (Or.inl hearly)
  next hbegun => exact ⟨Or.inr, fun h => h.resolve_left hbegun⟩

/-- A run of a registration, as far as it is about what reaches the store. -/
structure Screened (s : Service) (w : World σ) (r : Registration) (fresh : Fresh)
    (run : Outcome × List Call × World σ) : Prop where
  /-- The rules are all that is asked for, but for a clock that can be read and an end of the
  invitation. -/
  asks_iff : (∃ new digest expiresAt, .createAndInvite new digest expiresAt ∈ run.2.1) ↔
    r.Fit ∧ 0 ≤ w.now.second ∧
      ∃ expiresAt, w.now.addSeconds? (signedLifetime s.invitationLifetime) = some expiresAt
  /-- The account is the one that was asked for, -/
  account : ∀ new digest expiresAt, .createAndInvite new digest expiresAt ∈ run.2.1 →
    new.username = r.username ∧ new.email = normalEmail r.email ∧
      new.passwordHash = s.scheme.store fresh.salt r.password
  /-- with an email in lower case and in plain ASCII, which is its own normal form. -/
  email : ∀ new digest expiresAt, .createAndInvite new digest expiresAt ∈ run.2.1 →
    (∀ c ∈ new.email.toList, c.toNat < 0x80 ∧ ¬IsCapital c) ∧ normalEmail new.email = new.email
  /-- Two registrations are for the same email if theirs are the same in normal form. -/
  same_email : ∀ new digest expiresAt, .createAndInvite new digest expiresAt ∈ run.2.1 →
    ∀ (s' : Service) (w' : World σ) (faults' : List Fault) (r' : Registration) (fresh' : Fresh)
      (new' : NewUser) (digest' : String) (expiresAt' : Time.Instant),
      .createAndInvite new' digest' expiresAt' ∈
          (Event.run s' w' faults' (.register r' fresh')).2.1 →
        (new'.email = new.email ↔ normalEmail r'.email = normalEmail r.email)
  refused : ¬r.Fit → ∃ e, r.Breaks e ∧ run = (.registered (.error (.validation e.message)), [], w)
  given_up : r.Fit →
    w.now.second < 0 ∨ w.now.addSeconds? (signedLifetime s.invitationLifetime) = none →
      run = (.abandoned, [], w)

namespace Registering

variable {result : Except (Stop AccountError) Registered} {calls : List Call} {store : σ}

/-- The store is asked for nothing else, and only when there is nothing against it. -/
theorem asked (h : Registering s w faults r fresh result calls store) {new : NewUser}
    {digest : String} {expiresAt : Time.Instant}
    (hmem : .createAndInvite new digest expiresAt ∈ calls) :
    r.check = .ok () ∧ expiry? w.now s.invitationLifetime = some expiresAt ∧
      new = s.newUser r fresh ∧ digest = tokenDigest fresh.invitation := by
  cases h with
  | invalid => cases hmem
  | undated => cases hmem
  | notCreated hcheck hexpiry =>
    obtain ⟨rfl, rfl, rfl⟩ := Call.createAndInvite.inj (List.mem_singleton.mp hmem)
    exact ⟨hcheck, hexpiry, rfl, rfl⟩
  | created hcreated hinviting =>
    rcases List.mem_cons.mp hmem with heq | hlater
    · obtain ⟨rfl, rfl, rfl⟩ := Call.createAndInvite.inj heq
      exact ⟨hcreated.check, hcreated.expiry, rfl, rfl⟩
    · -- the calls that follow are about the mail
      cases hinviting <;> simp at hlater

theorem asks (h : Registering s w faults r fresh result calls store) (hcheck : r.check = .ok ())
    {expiresAt : Time.Instant} (hexpiry : expiry? w.now s.invitationLifetime = some expiresAt) :
    ∃ rest, calls = s.creation r fresh expiresAt :: rest := by
  cases h with
  | invalid hinvalid => cases hcheck.symm.trans hinvalid
  | undated _ hnone => cases hexpiry.symm.trans hnone
  | notCreated _ hsome =>
    cases hexpiry.symm.trans hsome
    exact ⟨_, rfl⟩
  | created hcreated =>
    cases hexpiry.symm.trans hcreated.expiry
    exact ⟨_, rfl⟩

/-- What breaks a rule is told so, and that is all. -/
theorem refused (h : Registering s w faults r fresh result calls store) (hunfit : ¬r.Fit) :
    ∃ e, r.Breaks e ∧ result = .error (.refused (.validation e.message)) ∧ calls = [] ∧
      store = w.store := by
  have hcheck : r.check ≠ .ok () := fun hok => hunfit (Registration.check_eq_ok.mp hok)
  cases h with
  | @invalid e herror =>
    cases herror ▸ r.check_verdict with
    | unfit _ hfault => exact ⟨e, hfault, rfl, rfl, rfl⟩
  | undated hok => exact absurd hok hcheck
  | notCreated hok => exact absurd hok hcheck
  | created hcreated => exact absurd hcreated.check hcheck

theorem given_up (h : Registering s w faults r fresh result calls store) (hfit : r.Fit)
    (hexpiry : expiry? w.now s.invitationLifetime = none) :
    result = .error .abandoned ∧ calls = [] ∧ store = w.store := by
  cases h with
  | invalid hinvalid => cases (Registration.check_eq_ok.mpr hfit).symm.trans hinvalid
  | undated => exact ⟨rfl, rfl, rfl⟩
  | notCreated _ hsome => cases hexpiry.symm.trans hsome
  | created hcreated => cases hexpiry.symm.trans hcreated.expiry

end Registering

/-- The event of a registration goes one of the ways of a registration. -/
theorem register_registering (s : Service) (w : World σ) (faults : List Fault) (r : Registration)
    (fresh : Fresh) : ∃ result calls store, Registering s w faults r fresh result calls store ∧
      Event.run s w faults (.register r fresh) =
        (.ofResult .registered result, calls, { w with store }) := by
  cases hrun : Event.run s w faults (.register r fresh) with
  | mk outcome rest =>
    obtain ⟨calls, w'⟩ := rest
    obtain ⟨result, store, rfl, rfl, hways⟩ := (run_happens hrun).register_cases
    exact ⟨result, calls, store, hways, rfl⟩

/-- Every registration is screened, whatever its texts are and whatever else fails. -/
theorem register_screened (s : Service) (w : World σ) (faults : List Fault) (r : Registration)
    (fresh : Fresh) : Screened s w r fresh (Event.run s w faults (.register r fresh)) := by
  obtain ⟨result, calls, store, h, hrun⟩ := register_registering s w faults r fresh
  rw [hrun]
  refine ⟨?asks_iff, ?account, ?email, ?same_email, ?refused, ?given_up⟩
  case asks_iff =>
    constructor
    · rintro ⟨new, digest, expiresAt, hmem⟩
      obtain ⟨hcheck, hexpiry, _⟩ := h.asked hmem
      obtain ⟨hbegun, hends⟩ := expiry?_eq_some.mp hexpiry
      exact ⟨Registration.check_eq_ok.mp hcheck, hbegun, expiresAt, hends⟩
    · rintro ⟨hfit, hbegun, expiresAt, hends⟩
      obtain ⟨rest, hcalls⟩ :=
        h.asks (Registration.check_eq_ok.mpr hfit) (expiry?_eq_some.mpr ⟨hbegun, hends⟩)
      exact ⟨_, _, _, hcalls ▸ List.mem_cons_self⟩
  case account =>
    intro new digest expiresAt hmem
    obtain ⟨_, _, rfl, _⟩ := h.asked hmem
    exact ⟨rfl, rfl, rfl⟩
  case email =>
    intro new digest expiresAt hmem
    obtain ⟨hcheck, _, rfl, _⟩ := h.asked hmem
    refine ⟨fun c hc => ?_, normalEmail_idem (checkEmail_of_check hcheck)⟩
    have hplain := plain_of_address (address_of_check (checkEmail_of_check hcheck)) c hc
    exact ⟨hplain.1, hplain.2.1⟩
  case same_email =>
    intro new digest expiresAt hmem s' w' faults' r' fresh' new' digest' expiresAt' hmem'
    obtain ⟨result', calls', store', h', hrun'⟩ := register_registering s' w' faults' r' fresh'
    rw [hrun'] at hmem'
    obtain ⟨_, _, rfl, _⟩ := h.asked hmem
    obtain ⟨_, _, rfl, _⟩ := h'.asked hmem'
    exact Iff.rfl
  case refused =>
    intro hunfit
    obtain ⟨e, hbreaks, rfl, rfl, rfl⟩ := h.refused hunfit
    exact ⟨e, hbreaks, rfl⟩
  case given_up =>
    intro hfit hundated
    obtain ⟨rfl, rfl, rfl⟩ := h.given_up hfit (expiry?_eq_none.mpr hundated)
    rfl

/-- A registration that keeps all the rules can be given up before the store is asked. -/
theorem register_given_up : sampleRegistration.Fit ∧
    Event.run { sampleService 3600 with invitationLifetime := 9223372036854775807 }
      (sampleWorld newYear) [] (.register sampleRegistration sampleFresh) =
        (.abandoned, [], sampleWorld newYear) :=
  ⟨Registration.check_eq_ok.mp rfl, rfl⟩

end Agora.Account
