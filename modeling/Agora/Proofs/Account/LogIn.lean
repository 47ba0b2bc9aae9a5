import Agora.Proofs.Account.Activation
import Agora.Proofs.Account.Email
import Agora.Proofs.Password.Argon2

/-!
# Register, activate, log in

Main result: `registered_served`. Whoever has registered can take up the invitation until it
expires, and log in from then on, and not before, with the password and with any spelling of the
email that is the same in normal form. Whatever happens to the service in between, and whatever
fails of it, makes no difference.

`Stands` is the invariant: of the two things that can be said of a registered account, that it waits
with its one invitation or that it is active, one is true after every moment, and which one is a
matter of whether the invitation was taken up in the past.
-/

namespace Agora.Account

open Exchange (errorFor missesFor)

variable {σ : Type} [Repository σ] {K : Contract σ} {s : Service} {w : World σ}

/-- An activation that took up the invitation of a digest. -/
def Moment.Activates (m : Moment σ) (digest : String) : Prop :=
  ∃ token, m.event = .activate token ∧
    Text.Hex.encode (Digest.Sha256.hash (Text.Utf8.encode token)) = digest ∧
    m.outcome = .activated (.ok ())

/-- The account `u` that was made with the invitation `i`, in view of what has happened since. -/
structure Stands (K : Contract σ) (u : User) (i : Invitation) (past : List (Moment σ))
    (w : World σ) : Prop where
  sound : K.Sound w.store
  waiting : (∀ m ∈ past, ¬m.Activates i.digest) → Waiting K u i w.store
  active : (∃ m ∈ past, m.Activates i.digest) → u.activated ∈ K.users w.store

/-- Every moment keeps what can be said of an account. -/
theorem Stands.step {u : User} {i : Invitation} {past : List (Moment σ)}
    {m : Moment σ} (h : Stands K u i past m.before) (hm : m.Happened s) :
    Stands K u i (past ++ [m]) m.after := by
  have heffect := Happens.effect (K := K) hm h.sound
  refine ⟨heffect.sound, fun hnone => ?_, ?_⟩
  · refine heffect.waiting_kept (h.waiting fun m' hm' => hnone m' (List.mem_append_left _ hm'))
      fun token hevent hdigest houtcome => ?_
    exact hnone m (by simp) ⟨token, hevent, hdigest, houtcome⟩
  · -- the account was active before, or it waited until this moment
    rintro ⟨m', hm', hactivates⟩
    by_cases hpast : ∃ m₀ ∈ past, m₀.Activates i.digest
    · exact heffect.active_kept (h.active hpast)
    · have hwaiting := h.waiting fun m₀ hm₀ hactivated => hpast ⟨m₀, hm₀, hactivated⟩
      rcases List.mem_append.mp hm' with hm' | hm'
      · exact absurd ⟨m', hm', hactivates⟩ hpast
      · obtain rfl := List.mem_singleton.mp hm'
        obtain ⟨token, hevent, hdigest, houtcome⟩ := hactivates
        exact heffect.active_of_taken h.sound hwaiting hevent hdigest houtcome

/-- What a registered account `u` with the invitation `i` is served in a moment `m`, if its calls do
not fail. -/
structure Served (K : Contract σ) (s : Service) (r : Registration) (u : User) (i : Invitation)
    (past : List (Moment σ)) (m : Moment σ) : Prop where
  /-- The invitation can be taken up until it expires. -/
  activation : (∀ m' ∈ past, ¬m'.Activates i.digest) →
    ∀ token, m.event = .activate token →
      Text.Hex.encode (Digest.Sha256.hash (Text.Utf8.encode token)) = i.digest →
        errorFor m.faults "users.activate" = none → m.before.now < i.expiresAt →
          m.outcome = .activated (.ok ())
  /-- Before that the account cannot be used, -/
  waiting : (∀ m' ∈ past, ¬m'.Activates i.digest) →
    ∀ c, m.event = .issueToken c → normalEmail c.email = normalEmail r.email →
      c.password = r.password → errorFor m.faults "users.get_by_email" = none →
        missesFor m.faults "users.get_by_email" = false → m.outcome = .issued (.error .unauthorized)
  /-- and after that it can, at any clock from 1970 on. -/
  active : (∃ m' ∈ past, m'.Activates i.digest) →
    ∀ c, m.event = .issueToken c → normalEmail c.email = normalEmail r.email →
      c.password = r.password → errorFor m.faults "users.get_by_email" = none →
        missesFor m.faults "users.get_by_email" = false →
          (m.before.now.second < 0 → m.outcome = .issued (.error .internal)) ∧
          (0 ≤ m.before.now.second →
            m.before.now.second + s.tokens.lifetime.toNat < UInt64.size →
              ∃ token claims, m.outcome = .issued (.ok token) ∧
                s.tokens.validate m.before.now token = .ok claims ∧
                claims.subjectId? = some u.id)

/-- A lifetime leads past the last second there is from no second before 1970. -/
theorem second_of_overflow {second : Int} {lifetime : UInt64}
    (h : (UInt64.size : Int) ≤ second + lifetime.toNat) : 0 ≤ second := by
  have hsize : UInt64.size = 18446744073709551616 := rfl
  have hlifetime := lifetime.toNat_lt
  omega

/-- What stands of an account decides what it is served. -/
theorem Stands.served {r : Registration} {fresh : Fresh} {u : User} {i : Invitation}
    {past : List (Moment σ)} {m : Moment σ} (h : Stands K u i past m.before)
    (hm : m.Happened s) (hfrom : MadeFrom (s.newUser r fresh) u)
    (hscheme : s.scheme.check? (s.scheme.store fresh.salt r.password) r.password = some true) :
    Served K s r u i past m := by
  -- what the store has of the account answers to email and password, active or not
  have hanswer : ∀ {v c}, v ∈ K.users m.before.store → v.email = u.email →
      v.passwordHash = u.passwordHash → m.event = .issueToken c →
      normalEmail c.email = normalEmail r.email → c.password = r.password →
      errorFor m.faults "users.get_by_email" = none →
      missesFor m.faults "users.get_by_email" = false →
      m.outcome = .ofResult .issued
        (if v.isActive then s.session m.before.now v else .error (.refused .unauthorized)) := by
    intro v c hv hemail hhash hevent hspelling hpassword hcalm hthere
    unfold Moment.Happened at hm
    rw [hevent] at hm
    obtain ⟨result, houtcome, _, hways⟩ := hm.issueToken_cases
    rw [houtcome, hways.eq_of_found h.sound hcalm hthere hv]
    · rw [hemail, hfrom.email]
      exact hspelling.symm
    · rw [hhash, hfrom.passwordHash, hpassword]
      exact hscheme
  refine ⟨?activation, ?waiting, ?active⟩
  case activation =>
    intro hnone token hevent hdigest hcalm hlive
    unfold Moment.Happened at hm
    rw [hevent] at hm
    obtain ⟨result, store, houtcome, _, hways⟩ := hm.activate_cases
    rw [houtcome, hways.ok_of_live h.sound hcalm (h.waiting hnone).invitation hdigest.symm hlive]
  case waiting =>
    intro hnone c hevent hspelling hpassword hcalm hthere
    rw [hanswer (h.waiting hnone).user rfl rfl hevent hspelling hpassword hcalm hthere,
      hfrom.inactive]
    rfl
  case active =>
    intro hactive c hevent hspelling hpassword hcalm hthere
    have hu := h.active hactive
    have houtcome := hanswer hu rfl rfl hevent hspelling hpassword hcalm hthere
    change m.outcome = .ofResult .issued (s.session m.before.now u.activated) at houtcome
    rw [houtcome]
    obtain ⟨hearly, hsession⟩ | ⟨hover, hsession⟩ |
      ⟨hbegun, hfits, token, _, hsession, haccepted⟩ :=
      session_cases s m.before.now u.activated
    · rw [hsession]
      exact ⟨fun _ => rfl, fun hbegun => absurd hearly (Int.not_lt.mpr hbegun)⟩
    · have hbegun := second_of_overflow hover
      exact ⟨fun hearly => absurd hearly (Int.not_lt.mpr hbegun),
        fun _ hfits => absurd hfits (Int.not_lt.mpr hover)⟩
    · rw [hsession]
      obtain ⟨claims, hvalid, hsubject⟩ := haccepted (K.id_fits h.sound hu)
      exact ⟨fun hearly => absurd hearly (Int.not_lt.mpr hbegun),
        fun _ _ => ⟨token, claims, rfl, hvalid, hsubject⟩⟩

theorem checkEmail_of_check {r : Registration} (h : r.check = .ok ()) :
    checkEmail (normalEmail r.email) = .ok () := by
  obtain ⟨_, _, hrest⟩ := Result.bind_eq_ok.mp h
  obtain ⟨_, hemail, _⟩ := Result.bind_eq_ok.mp hrest
  exact hemail

/-- Whoever has registered is served from then on, whatever else happens: the token of the answer
takes up the invitation, and password and email log in, the email in any spelling that is the same
in normal form, such as the one in the answer. -/
theorem registered_served (K : Contract σ) (s : Service) (w : World σ) (hsound : K.Sound w.store)
    (faults : List Fault) (r : Registration) (fresh : Fresh)
    (hscheme : s.scheme.check? (s.scheme.store fresh.salt r.password) r.password = some true)
    {made : Registered}
    (hmade : (Moment.of s w faults (.register r fresh)).outcome = .registered (.ok made))
    (events : List (List Fault × Event)) :
    normalEmail made.user.email = normalEmail r.email ∧ ∃ i,
      i ∈ K.invitations (Moment.of s w faults (.register r fresh)).after.store ∧
        i.digest = Text.Hex.encode (Digest.Sha256.hash (Text.Utf8.encode made.token)) ∧
        i.userId = made.user.id ∧
        ∀ past m later,
          history s (Moment.of s w faults (.register r fresh)).after events = past ++ m :: later →
            Served K s r made.user i past m := by
  obtain ⟨i, hadmitted⟩ :=
    (Moment.happened_of s w faults (.register r fresh)).admitted (K := K) hsound hmade
  have hstands : Stands K made.user i [] (Moment.of s w faults (.register r fresh)).after :=
    ⟨hadmitted.sound, fun _ => hadmitted.waiting, fun ⟨_, hm, _⟩ => by cases hm⟩
  refine ⟨?_, i, hadmitted.waiting.invitation, hadmitted.digest, hadmitted.waiting.userId,
    fun past m later hsplit => ?_⟩
  · rw [hadmitted.madeFrom.email]
    exact normalEmail_idem (checkEmail_of_check hadmitted.check)
  · obtain ⟨hm, hstands⟩ := history_induct hsplit hstands fun _ _ _ hm' h => h.step hm'
    exact hstands.served hm hadmitted.madeFrom hscheme

/-- After activation the email is good in another spelling than that of the registration. -/
theorem registered_served_newYear : ∃ m₁ m₂ token claims,
    history (sampleService 3600) (Moment.of (sampleService 3600) (sampleWorld newYear) []
        (.register sampleRegistration sampleFresh)).after
        [([], .activate sampleFresh.invitation), ([], .issueToken sampleCredentials)] = [m₁, m₂] ∧
      m₁.outcome = .activated (.ok ()) ∧ m₂.outcome = .issued (.ok token) ∧
      (sampleService 3600).tokens.validate newYear token = .ok claims ∧
      claims.subjectId? = some 1 := by
  obtain ⟨m₁, m₂, hsplit, hevent₂, houtcome₂, hnow, _⟩ :=
    sampleEvents_activated [([], .issueToken sampleCredentials)]
  obtain ⟨_, hrest⟩ := List.cons.inj hsplit
  have hmade : (Moment.of (sampleService 3600) (sampleWorld newYear) []
      (.register sampleRegistration sampleFresh)).outcome =
        .registered (.ok (sampleMade newYear)) := rfl
  obtain ⟨_, i, _, hdigest, _, hserved⟩ := registered_served Store.contract (sampleService 3600)
    (sampleWorld newYear) Store.sound_empty [] sampleRegistration sampleFresh
    (Password.check?_store (by decide) (by decide) _) hmade
    [([], .activate sampleFresh.invitation), ([], .issueToken sampleCredentials)]
  have hactivated : m₂.Activates i.digest :=
    ⟨sampleFresh.invitation, hevent₂, hdigest.symm, houtcome₂⟩
  obtain ⟨_, hlater⟩ := (hserved [m₂] _ [] hrest).active ⟨m₂, by simp, hactivated⟩
    sampleCredentials rfl (by decide +kernel) rfl rfl rfl
  have hbefore : (Moment.of (sampleService 3600) m₂.after []
      (.issueToken sampleCredentials)).before.now = newYear := hnow
  rw [hbefore] at hlater
  obtain ⟨token, claims, houtcome₃, hvalid, hsubject⟩ := hlater (by decide) (by decide)
  exact ⟨m₂, _, token, claims, hrest, houtcome₂, houtcome₃, hvalid, hsubject⟩

/-- A moment before 1970. -/
def beforeEpoch : Time.Instant := ⟨-1000000000, 0, by decide⟩

/-- An account is made and activated in 2024; when the clock is then set back to before 1970, it is
not logged in. -/
theorem not_served_before_1970 : ∃ m₁ m₂ m₃ m₄,
    history (sampleService 3600) (sampleWorld newYear)
        (sampleEvents [([], .setClock beforeEpoch), ([], .issueToken sampleCredentials)]) =
      [m₁, m₂, m₃, m₄] ∧
      m₁.outcome = .registered (.ok (sampleMade newYear)) ∧ m₂.outcome = .activated (.ok ()) ∧
      m₄.event = .issueToken sampleCredentials ∧ m₄.before.now = beforeEpoch ∧
      m₄.outcome = .issued (.error .internal) := by
  obtain ⟨m₁, m₂, hsplit, _, houtcome₂, _, hsound, hactive⟩ :=
    sampleEvents_activated [([], .setClock beforeEpoch), ([], .issueToken sampleCredentials)]
  have houtcome₄ := sampleMade_logged_in (w := { m₂.after with now := beforeEpoch }) hsound hactive
  have hsession : (sampleService 3600).session beforeEpoch (sampleMade newYear).user.activated =
      .error (.refused .internal) := rfl
  rw [hsession] at houtcome₄
  obtain ⟨hfirst, _⟩ := List.cons.inj hsplit
  have houtcome₁ : m₁.outcome = .registered (.ok (sampleMade newYear)) := by
    rw [← hfirst]
    rfl
  exact ⟨m₁, m₂, _, _, hsplit, houtcome₁, houtcome₂, rfl, rfl, houtcome₄⟩

end Agora.Account
