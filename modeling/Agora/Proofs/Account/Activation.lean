import Agora.Proofs.Account.History
import Agora.Proofs.Password.Argon2
import Agora.Proofs.Token.Dates

/-!
# No session without activation

Main result: `history_earned`. In every history that begins without accounts, a session token is
only issued to an account that was registered and then activated, in time and by the token of its
own invitation; no invitation is taken up twice, and an activation that fails changes nothing.

Two invariants carry it. `Earned` is about accounts: each one has its registration in the past, and
is active only because its invitation was taken up after that. `Spent` is about digests: all of them
come from registrations, and those of invitations that were taken up are gone for good, since no two
registrations have the same.
-/

namespace Agora.Account

open Exchange (errorFor missesFor)

variable {σ : Type} [Repository σ] {K : Contract σ} {s : Service} {w : World σ}

/-! ## Registrations and activations in the past -/

namespace Moment

/-- The moment in which an account came into being, with its invitation. -/
structure Registers (K : Contract σ) (s : Service) (m : Moment σ) (u : User) (i : Invitation) :
    Prop where
  registered : ∃ r fresh, m.event = .register r fresh ∧ MadeFrom (s.newUser r fresh) u ∧
    i.digest = Text.Hex.encode (Digest.Sha256.hash (Text.Utf8.encode fresh.invitation))
  new : u ∉ K.users m.before.store
  user : u ∈ K.users m.after.store
  invitation : i ∈ K.invitations m.after.store
  userId : i.userId = u.id

omit [Repository σ] in
/-- The moment in which an invitation was taken up, before its end. -/
structure TakesUp (m : Moment σ) (i : Invitation) : Prop where
  activated : ∃ token, m.event = .activate token ∧
    Text.Hex.encode (Digest.Sha256.hash (Text.Utf8.encode token)) = i.digest
  succeeded : m.outcome = .activated (.ok ())
  live : m.before.now < i.expiresAt

end Moment

/-- The account as it was made has its registration in the past, and waits for its invitation to be
taken up. -/
structure Waits (K : Contract σ) (s : Service) (past : List (Moment σ)) (w : World σ) (u : User) :
    Prop where
  inactive : u.isActive = false
  registered : ∃ i, (∃ m ∈ past, m.Registers K s u i) ∧
    ∀ j ∈ K.invitations w.store, j.userId = u.id → j = i

/-- The account was registered as `u`, and its invitation was taken up after that. -/
def WasActivated (K : Contract σ) (s : Service) (past : List (Moment σ)) (u : User) : Prop :=
  ∃ i m₁ m₂, [m₁, m₂].Sublist past ∧ m₁.Registers K s u i ∧ m₂.TakesUp i

/-- Every account has earned what it is. -/
structure Earned (K : Contract σ) (s : Service) (past : List (Moment σ)) (w : World σ) : Prop where
  sound : K.Sound w.store
  earned : ∀ u ∈ K.users w.store, Waits K s past w u ∨
    (∃ u₀, u = u₀.activated ∧ WasActivated K s past u₀) ∧
      ∀ j ∈ K.invitations w.store, j.userId ≠ u.id

theorem WasActivated.snoc {past : List (Moment σ)} {u : User} (h : WasActivated K s past u)
    (m : Moment σ) : WasActivated K s (past ++ [m]) u := by
  obtain ⟨i, m₁, m₂, hpast, hregisters, htakes⟩ := h
  exact ⟨i, m₁, m₂, hpast.trans (List.sublist_append_left _ _), hregisters, htakes⟩

/-- An account that waits goes on waiting while nobody adds an invitation for it. -/
theorem Waits.snoc {past : List (Moment σ)} {w' : World σ} {u : User} (h : Waits K s past w u)
    (m : Moment σ) (hfewer : ∀ j ∈ K.invitations w'.store, j.userId = u.id →
      j ∈ K.invitations w.store) : Waits K s (past ++ [m]) w' u := by
  obtain ⟨i, ⟨m₁, hm₁, hregisters⟩, honly⟩ := h.registered
  exact ⟨h.inactive, i, ⟨m₁, List.mem_append_left _ hm₁, hregisters⟩,
    fun j hj hid => honly j (hfewer j hj hid) hid⟩

namespace Earned

variable {past : List (Moment σ)} {m : Moment σ}

/-- An account that was there keeps what it has earned while nobody adds an invitation for it. -/
theorem kept (h : Earned K s past m.before) {u : User} (hu : u ∈ K.users m.before.store)
    (hfewer : ∀ j ∈ K.invitations m.after.store, j.userId = u.id →
      j ∈ K.invitations m.before.store) :
    Waits K s (past ++ [m]) m.after u ∨
      (∃ u₀, u = u₀.activated ∧ WasActivated K s (past ++ [m]) u₀) ∧
        ∀ j ∈ K.invitations m.after.store, j.userId ≠ u.id := by
  obtain hwaits | ⟨⟨u₀, hu₀, hactivated⟩, hnone⟩ := h.earned u hu
  · exact Or.inl (hwaits.snoc m hfewer)
  · exact Or.inr ⟨⟨u₀, hu₀, hactivated.snoc m⟩, fun j hj hid => hnone j (hfewer j hj hid) hid⟩

/-- A new account waits. -/
theorem grown {r : Registration} {fresh : Fresh} {u : User} {i : Invitation}
    (hevent : m.event = .register r fresh) (hfrom : MadeFrom (s.newUser r fresh) u)
    (hdigest : i.digest = tokenDigest fresh.invitation)
    (hgrows : K.Grows m.before.store u i m.after.store) : Waits K s (past ++ [m]) m.after u := by
  have hregisters : m.Registers K s u i :=
    ⟨⟨r, fresh, hevent, hfrom, hdigest⟩, fun hu => hgrows.id_new u hu rfl, hgrows.mem_users,
      hgrows.mem_invitations, hgrows.userId⟩
  exact ⟨hgrows.inactive, i, ⟨m, by simp, hregisters⟩, fun j hj hid => hgrows.only hj hid⟩

/-- The user of the invitation that is taken up has waited for it. -/
theorem taken (h : Earned K s past m.before) {token : String} {i : Invitation}
    (hevent : m.event = .activate token) (houtcome : m.outcome = .activated (.ok ()))
    (hdigest : i.digest = tokenDigest token) (hlive : m.before.now < i.expiresAt)
    (htakes : K.Takes m.before.store i m.after.store) {u : User}
    (hu : u ∈ K.users m.before.store) (hid : u.id = i.userId) :
    WasActivated K s (past ++ [m]) u := by
  obtain hwaits | ⟨_, hnone⟩ := h.earned u hu
  · -- the invitation that is taken up is the one that the account was registered with
    obtain ⟨i₀, ⟨m₁, hm₁, hregisters⟩, honly⟩ := hwaits.registered
    obtain rfl := honly i htakes.mem hid.symm
    refine ⟨i, m₁, m, ?_, hregisters, ⟨⟨token, hevent, hdigest.symm⟩, houtcome, hlive⟩⟩
    exact (List.singleton_sublist.mpr hm₁).append (List.Sublist.refl [m])
  · exact absurd hid.symm (hnone i htakes.mem)

/-- Every moment keeps accounts earned. -/
theorem step (h : Earned K s past m.before) (hm : m.Happened s) :
    Earned K s (past ++ [m]) m.after := by
  have heffect := Happens.effect (K := K) hm h.sound
  refine ⟨heffect.sound, fun u hu => ?_⟩
  obtain ⟨before, faults, event, outcome, calls, ⟨store, now⟩⟩ := m
  simp only at h heffect hu
  cases heffect with
  | same _ hsame _ =>
    rw [hsame.users] at hu
    refine h.kept hu fun j hj _ => ?_
    rwa [← hsame.invitations]
  | grown hfrom _ hgrows _ =>
    rw [hgrows.users] at hu
    obtain rfl | hu := hu
    · exact Or.inl (grown rfl hfrom rfl hgrows)
    · refine h.kept hu fun j hj hid => hgrows.mem_of_other hj ?_
      rw [hid]
      exact hgrows.id_new u hu
  | taken hdigest hlive htakes =>
    obtain ⟨hu, _⟩ | ⟨v, hv, hid, rfl⟩ := htakes.user_cases hu
    · refine h.kept hu fun j hj _ => ?_
      rw [htakes.invitations] at hj
      exact hj.1
    · refine Or.inr ⟨⟨v, rfl, h.taken rfl rfl hdigest hlive htakes hv hid⟩, fun j hj hj' => ?_⟩
      rw [htakes.invitations] at hj
      exact hj.2 (hj'.trans hid)

end Earned

/-! ## Digests -/

/-- The digest of the invitation that a registration asks for. -/
def Event.digest? : Event → Option String
  | .register _ fresh =>
    some (Text.Hex.encode (Digest.Sha256.hash (Text.Utf8.encode fresh.invitation)))
  | _ => none

/-- The digests that registrations have asked for. -/
def digests (past : List (Moment σ)) : List String := past.filterMap (·.event.digest?)

/-- Digests come from registrations, and those of invitations that were taken up are gone. -/
structure Spent (K : Contract σ) (past : List (Moment σ)) (w : World σ) : Prop where
  sound : K.Sound w.store
  known : ∀ i ∈ K.invitations w.store, i.digest ∈ digests past
  gone : ∀ m ∈ past, ∀ token, m.event = .activate token → m.outcome = .activated (.ok ()) →
    tokenDigest token ∈ digests past ∧ ∀ i ∈ K.invitations w.store, i.digest ≠ tokenDigest token

omit [Repository σ] in
theorem digests_snoc (past : List (Moment σ)) (m : Moment σ) :
    digests (past ++ [m]) = digests past ++ m.event.digest?.toList := by
  unfold digests
  rw [List.filterMap_append, List.filterMap_cons, List.filterMap_nil]
  cases m.event.digest? <;> rfl

namespace Spent

variable {past : List (Moment σ)} {m : Moment σ}

/-- It is enough that no digest comes up that was asked for before, and that what is taken up is
gone. -/
theorem snoc (h : Spent K past m.before) (hsound : K.Sound m.after.store)
    (honce : (digests (past ++ [m])).Nodup)
    (hfrom : ∀ i ∈ K.invitations m.after.store,
      i ∈ K.invitations m.before.store ∨ m.event.digest? = some i.digest)
    (htaken : ∀ token, m.event = .activate token → m.outcome = .activated (.ok ()) →
      tokenDigest token ∈ digests past ∧
        ∀ i ∈ K.invitations m.after.store, i.digest ≠ tokenDigest token) :
    Spent K (past ++ [m]) m.after := by
  rw [digests_snoc] at honce
  refine ⟨hsound, ?known, ?gone⟩
  case known =>
    intro i hi
    rw [digests_snoc]
    obtain hi | hdigest := hfrom i hi
    · exact List.mem_append_left _ (h.known i hi)
    · rw [hdigest]
      exact List.mem_append_right _ (List.mem_singleton_self _)
  case gone =>
    intro m' hm' token hevent houtcome
    rw [digests_snoc]
    rcases List.mem_append.mp hm' with hm' | hm'
    · obtain ⟨hasked, hgone⟩ := h.gone m' hm' token hevent houtcome
      refine ⟨List.mem_append_left _ hasked, fun i hi heq => ?_⟩
      obtain hi | hdigest := hfrom i hi
      · exact hgone i hi heq
      · -- a registration has asked for a digest that was there before
        rw [hdigest, heq] at honce
        exact (List.nodup_append.mp honce).2.2 _ hasked _ (List.mem_singleton_self _) rfl
    · obtain rfl := List.mem_singleton.mp hm'
      obtain ⟨hasked, hgone⟩ := htaken token hevent houtcome
      exact ⟨List.mem_append_left _ hasked, hgone⟩

/-- Every moment keeps spent digests spent, as long as no registration repeats one. -/
theorem step (h : Spent K past m.before) (hm : m.Happened s)
    (honce : (digests (past ++ [m])).Nodup) : Spent K (past ++ [m]) m.after := by
  have heffect := Happens.effect (K := K) hm h.sound
  refine h.snoc heffect.sound honce ?_ ?_
  all_goals obtain ⟨before, faults, event, outcome, calls, ⟨store, now⟩⟩ := m
  · intro i hi
    cases heffect with
    | same _ hsame _ => exact Or.inl (hsame.invitations ▸ hi)
    | grown _ _ hgrows _ =>
      rw [hgrows.invitations] at hi
      obtain rfl | hi := hi
      · exact Or.inr rfl
      · exact Or.inl hi
    | taken _ _ htakes =>
      rw [htakes.invitations] at hi
      exact Or.inl hi.1
  · rintro token rfl rfl
    cases heffect with
    | same _ _ hfailed => exact absurd rfl hfailed
    | taken hdigest _ htakes =>
      rw [← hdigest]
      refine ⟨h.known _ htakes.mem, fun i hi heq => ?_⟩
      -- no other invitation has the digest of the one that is gone
      rw [htakes.invitations] at hi
      rw [K.digest_inj h.sound hi.1 htakes.mem heq] at hi
      exact hi.2 rfl

end Spent

/-! ## Session tokens -/

/-- The ways of a session: there is none before 1970 nor one that would end after the last second
there is, and any other is accepted at once as the account's. -/
theorem session_cases (s : Service) (now : Time.Instant) (u : User) :
    (now.second < 0 ∧ s.session now u = .error (.refused .internal)) ∨
      ((UInt64.size : Int) ≤ now.second + s.tokens.lifetime.toNat ∧
        s.session now u = .error .abandoned) ∨
      (0 ≤ now.second ∧ now.second + s.tokens.lifetime.toNat < UInt64.size ∧
        ∃ token, s.tokens.issueFor now u.id = .ok token ∧ s.session now u = .ok token ∧
          (Decimal.FitsInt64 u.id →
            ∃ c, s.tokens.validate now token = .ok c ∧ c.subjectId? = some u.id)) := by
  have hsize : UInt64.size = 18446744073709551616 := rfl
  unfold Service.session
  obtain ⟨hearly, hanswer⟩ | ⟨second, hsecond, ⟨c, hclaims, hanswer⟩ | ⟨hover, hanswer⟩⟩ :=
    Token.issueFor_cases s.tokens now u.id
  · rw [hanswer]
    exact Or.inl ⟨hearly, rfl⟩
  · have hdates := Token.datedFrom_of_claims? hclaims
    have hends := c.expiresAt.toNat_lt
    have hexact := hdates.expiresAt
    rw [hanswer]
    refine Or.inr (Or.inr ⟨by omega, by omega, _, rfl, rfl, fun hid => ?_⟩)
    have hmade := Token.madeFor_of_claims? hid hclaims
    have hbegins : c.notBefore ≤ c.expiresAt := hdates.notBefore ▸ hdates.inOrder
    have hlives := (Token.genuine_sign s.tokens c).lives hbegins hmade.issuer hmade.audience
    refine ⟨c, ?_, hmade.subjectId⟩
    rw [Token.validate_eq_validateAt hsecond]
    exact hlives.valid second (UInt64.le_of_eq hmade.notBefore) (hmade.notBefore ▸ hbegins)
  · rw [hanswer]
    exact Or.inr (Or.inl ⟨by omega, rfl⟩)

/-! ## What a history promises -/

/-- What a history promises of a moment `m`, with the moments before it and after it. -/
structure Guarded (K : Contract σ) (s : Service) (past : List (Moment σ)) (m : Moment σ)
    (later : List (Moment σ)) : Prop where
  /-- A token is issued to one account, that of the email, with the right password, and after its
  invitation was taken up; and it is accepted as the account's. -/
  token : ∀ c token, m.event = .issueToken c → m.outcome = .issued (.ok token) →
    ∃ u ∈ K.users m.before.store, u.email = normalEmail c.email ∧
      (∀ v ∈ K.users m.before.store, v.email = normalEmail c.email → v = u) ∧
      s.scheme.check? u.passwordHash c.password = some true ∧
      (∃ u₀, u = u₀.activated ∧ WasActivated K s past u₀) ∧
      ∃ claims, s.tokens.validate m.before.now token = .ok claims ∧
        claims.subjectId? = some u.id
  /-- The token of an invitation is good for one activation. -/
  once : ∀ token, m.event = .activate token → m.outcome = .activated (.ok ()) →
    ∀ m' ∈ later, m'.event = .activate token →
      m'.outcome ≠ .activated (.ok ()) ∧
        (errorFor m'.faults "users.activate" = none →
          m'.outcome = .activated (.error (.notFound "invitation not found or expired")))
  /-- An activation that fails changes nothing. -/
  unchanged : ∀ token, m.event = .activate token → m.outcome ≠ .activated (.ok ()) →
    m.after.store = m.before.store

/-- A digest of which there is no invitation activates nobody. -/
theorem Activating.error_of_absent {faults : List Fault} {token : String}
    {result : Except AccountError Unit} {store : σ} (h : Activating w faults token result store)
    (hsound : K.Sound w.store)
    (habsent : ∀ i ∈ K.invitations w.store, i.digest ≠ tokenDigest token) :
    result ≠ .ok () ∧ (errorFor faults "users.activate" = none →
      result = .error (.notFound "invitation not found or expired")) := by
  have hrefused : Repository.activate w.store w.now (tokenDigest token) = .error .notFound :=
    K.not_activated hsound fun i hi hdigest => absurd hdigest (habsent i hi)
  cases h with
  | failed hfailed =>
    refine ⟨by simp, fun hcalm => ?_⟩
    obtain hfault | ⟨_, herror⟩ := hfailed
    · rw [hcalm] at hfault
      cases hfault
    · rw [hrefused] at herror
      cases herror
      rfl
  | done _ hactivated =>
    rw [hrefused] at hactivated
    cases hactivated

theorem Earned.token_of_issued {past : List (Moment σ)} (h : Earned K s past w)
    {faults : List Fault} {c : Credentials} {token : String}
    (hissued : LoggingIn s w faults c (.ok token)) :
    ∃ u ∈ K.users w.store, u.email = normalEmail c.email ∧
      (∀ v ∈ K.users w.store, v.email = normalEmail c.email → v = u) ∧
      s.scheme.check? u.passwordHash c.password = some true ∧
      (∃ u₀, u = u₀.activated ∧ WasActivated K s past u₀) ∧ s.session w.now u = .ok token := by
  generalize hresult : Except.ok token = result at hissued
  cases hissued with
  | failed => cases hresult
  | missed => cases hresult
  | told =>
    obtain ⟨u, hfound, hfits, hactive, hsession⟩ := logIn_eq_ok hresult.symm
    obtain ⟨hu, hemail⟩ := (K.found_iff h.sound).mp hfound
    refine ⟨u, hu, hemail, fun v hv hv' => K.email_inj h.sound hv hu (hv'.trans hemail.symm), hfits,
      ?_, hsession.trans hresult⟩
    obtain hwaits | ⟨hactivated, _⟩ := h.earned u hu
    · rw [hwaits.inactive] at hactive
      cases hactive
    · exact hactivated

/-- The digests of a history are those of its events. -/
theorem digests_history (s : Service) (w : World σ) (events : List (List Fault × Event)) :
    digests (history s w events) = events.filterMap (·.2.digest?) := by
  have hevents := congrArg (List.filterMap fun e => e.2.digest?) (history_events s w events)
  rw [List.filterMap_map] at hevents
  exact hevents

section

variable {events : List (List Fault × Event)} {past later : List (Moment σ)} {m : Moment σ}

theorem earned_of_history (hsound : K.Sound w.store) (husers : K.users w.store = ∅)
    (hsplit : history s w events = past ++ m :: later) :
    m.Happened s ∧ Earned K s past m.before := by
  refine history_induct hsplit ⟨hsound, fun u hu => ?_⟩ fun _ _ _ hm h => h.step hm
  rw [husers] at hu
  cases hu

theorem spent_of_history (hsound : K.Sound w.store) (hinvitations : K.invitations w.store = ∅)
    (honce : (events.filterMap (·.2.digest?)).Nodup)
    (hsplit : history s w events = past ++ m :: later) :
    m.Happened s ∧ Spent K past m.before := by
  refine history_induct hsplit ⟨hsound, fun i hi => ?_, fun _ hm => by cases hm⟩
    fun before m' hbefore hm h => h.step hm ?_
  · rw [hinvitations] at hi
    cases hi
  · -- a beginning of the history repeats no digest that the history does not repeat
    have hwhole : before ++ [m'] <+: history s w events := by
      rw [hsplit]
      exact hbefore.trans (List.prefix_append _ _)
    rw [← digests_history s w] at honce
    exact honce.sublist (hwhole.sublist.filterMap _)

end

/-- In every history that begins without accounts every moment is guarded, as long as no two
registrations have tokens of one digest. -/
theorem history_earned (K : Contract σ) (s : Service) (w : World σ) (hsound : K.Sound w.store)
    (husers : K.users w.store = ∅) (hinvitations : K.invitations w.store = ∅)
    (events : List (List Fault × Event)) (honce : (events.filterMap (·.2.digest?)).Nodup)
    {past later : List (Moment σ)} {m : Moment σ}
    (hsplit : history s w events = past ++ m :: later) : Guarded K s past m later := by
  obtain ⟨hm, hearned⟩ := earned_of_history hsound husers hsplit
  refine ⟨?token, ?once, ?unchanged⟩
  case token =>
    intro c token hevent houtcome
    unfold Moment.Happened at hm
    rw [hevent, houtcome] at hm
    obtain ⟨result, hresult, _, hissued⟩ := hm.issueToken_cases
    obtain rfl : .ok token = result := Outcome.issued_injective hresult
    obtain ⟨u, hu, hemail, honly, hfits, hactivated, hsession⟩ := hearned.token_of_issued hissued
    obtain ⟨_, hnone⟩ | ⟨_, hnone⟩ | ⟨_, _, token', _, hsession', haccepted⟩ :=
      session_cases s m.before.now u
    · cases hnone.symm.trans hsession
    · cases hnone.symm.trans hsession
    · cases hsession'.symm.trans hsession
      exact ⟨u, hu, hemail, honly, hfits, hactivated, haccepted (K.id_fits hearned.sound hu)⟩
  case once =>
    intro token hevent houtcome m' hm' hevent'
    -- the first activation is in the past of the second one
    obtain ⟨mid, rest, rfl⟩ := List.append_of_mem hm'
    have hsplit' : history s w events = (past ++ m :: mid) ++ m' :: rest := by
      rw [hsplit, List.append_assoc]
      rfl
    obtain ⟨hhappened, hspent⟩ := spent_of_history hsound hinvitations honce hsplit'
    obtain ⟨_, hgone⟩ := hspent.gone m (by simp) token hevent houtcome
    unfold Moment.Happened at hhappened
    rw [hevent'] at hhappened
    obtain ⟨result, _, hresult, _, hways⟩ := hhappened.activate_cases
    obtain ⟨hfailed, hanswer⟩ := hways.error_of_absent hspent.sound hgone
    rw [hresult]
    refine ⟨fun hok => hfailed (Outcome.activated.inj hok), fun hcalm => ?_⟩
    rw [hanswer hcalm]
  case unchanged =>
    intro token hevent hfailed
    unfold Moment.Happened at hm
    rw [hevent] at hm
    obtain ⟨result, store, hresult, hafter, hways⟩ := hm.activate_cases
    rw [hresult] at hfailed
    rw [hafter]
    cases hways with
    | failed => rfl
    | done => exact absurd rfl hfailed

def sampleCredentials : Credentials where
  email := "ADA@math.org "
  password := "password1"

/-- What a registration in an empty world is answered with. -/
def sampleMade (now : Time.Instant) : Registered where
  user :=
    { id := 1, username := "ada", email := "ada@math.org",
      passwordHash := Password.Scheme.argon2.store sampleFresh.salt "password1", isActive := false,
      roleId := 1, createdAt := now }
  token := sampleFresh.invitation

/-- An account is registered and activated, and then something else happens. -/
def sampleEvents (rest : List (List Fault × Event)) : List (List Fault × Event) :=
  ([], .register sampleRegistration sampleFresh) :: ([], .activate sampleFresh.invitation) :: rest

theorem sampleEvents_activated (rest : List (List Fault × Event)) :
    ∃ m₁ m₂ : Moment Store,
      history (sampleService 3600) (sampleWorld newYear) (sampleEvents rest) =
        m₁ :: m₂ :: history (sampleService 3600) m₂.after rest ∧
      m₂.event = .activate sampleFresh.invitation ∧ m₂.outcome = .activated (.ok ()) ∧
      m₂.after.now = newYear ∧ Store.contract.Sound m₂.after.store ∧
      (sampleMade newYear).user.activated ∈ Store.contract.users m₂.after.store := by
  have hmade : (Moment.of (sampleService 3600) (sampleWorld newYear) []
      (.register sampleRegistration sampleFresh)).outcome =
        .registered (.ok (sampleMade newYear)) := rfl
  have hsound : Store.contract.Sound (sampleWorld newYear).store := Store.sound_empty
  exact history_activated hsound hmade rfl (by decide) rest

/-- It is logged in, at whatever time. -/
theorem sampleMade_logged_in {w : World} (hsound : Store.contract.Sound w.store)
    (hu : (sampleMade newYear).user.activated ∈ Store.contract.users w.store) :
    (Moment.of (sampleService 3600) w [] (.issueToken sampleCredentials)).outcome =
      .ofResult .issued
        ((sampleService 3600).session w.now (sampleMade newYear).user.activated) := by
  have hfits : Password.Scheme.argon2.check?
      (Password.Scheme.argon2.store sampleFresh.salt sampleRegistration.password)
      sampleRegistration.password = some true :=
    Password.check?_store (by decide) (by decide) _
  have hspelling : (sampleMade newYear).user.activated.email =
      normalEmail sampleCredentials.email := by
    show "ada@math.org" = normalEmail sampleCredentials.email
    decide +kernel
  exact Moment.logged_in hsound hu rfl hspelling hfits

theorem sampleWorld_empty (now : Time.Instant) :
    Store.contract.users (sampleWorld now).store = ∅ ∧
      Store.contract.invitations (sampleWorld now).store = ∅ := by
  constructor <;> ext <;> simp [sampleWorld, Store.contract]

/-- The account that logs in was activated before. -/
theorem history_earned_newYear : ∃ past m token,
    history (sampleService 3600) (sampleWorld newYear)
        (sampleEvents [([], .issueToken sampleCredentials)]) = past ++ [m] ∧
      m.event = .issueToken sampleCredentials ∧ m.outcome = .issued (.ok token) ∧
      Guarded Store.contract (sampleService 3600) past m [] := by
  obtain ⟨m₁, m₂, hsplit, _, _, hnow, hsound, hactive⟩ :=
    sampleEvents_activated [([], .issueToken sampleCredentials)]
  have houtcome := sampleMade_logged_in hsound hactive
  rw [hnow] at houtcome
  obtain ⟨hearly, _⟩ | ⟨hover, _⟩ | ⟨_, _, token, _, hsession, _⟩ :=
    session_cases (sampleService 3600) newYear (sampleMade newYear).user.activated
  · exact absurd hearly (by decide)
  · exact absurd hover (by decide)
  · rw [hsession] at houtcome
    refine ⟨[m₁, m₂], _, token, hsplit, rfl, houtcome, ?_⟩
    exact history_earned Store.contract (sampleService 3600) (sampleWorld newYear)
      Store.sound_empty (sampleWorld_empty newYear).1 (sampleWorld_empty newYear).2
      (sampleEvents [([], .issueToken sampleCredentials)]) (List.nodup_singleton _) hsplit

end Agora.Account
