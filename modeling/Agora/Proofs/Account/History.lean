import Agora.Proofs.Account.Registration

/-!
# Histories of the account service

A history is what becomes of a sequence of events, moment by moment, from one world on. Whatever
happens in a moment does one of three things to the accounts (`Effect`): they stay as they are,
there is one more with its invitation, or the user of a live invitation becomes active.
`Happens.effect` shows this from the contract of the repository, whatever fails.

`history_induct` is the one induction on histories: what every moment keeps, in view of the past,
holds before every moment.
-/

namespace Agora.Account

open Exchange (errorFor missesFor)

variable {σ : Type} [Repository σ] {K : Contract σ} {s : Service} {w w' : World σ}
  {faults : List Fault}

/-! ## What a moment does to accounts -/

namespace Contract

/-- The invitation `i` was taken up. -/
structure Takes (K : Contract σ) (store : σ) (i : Invitation) (store' : σ) : Prop where
  sound : K.Sound store'
  mem : i ∈ K.invitations store
  users : K.users store' = (fun u => if u.id = i.userId then u.activated else u) '' K.users store
  invitations : K.invitations store' = {j ∈ K.invitations store | j.userId ≠ i.userId}

variable {store store' : σ} {i : Invitation}

/-- Every account is another one's as it was, or the user of the invitation, now active. -/
theorem Takes.user_cases (h : K.Takes store i store') {u : User} (hu : u ∈ K.users store') :
    (u ∈ K.users store ∧ u.id ≠ i.userId) ∨
      ∃ v ∈ K.users store, v.id = i.userId ∧ u = v.activated := by
  rw [h.users] at hu
  obtain ⟨v, hv, rfl⟩ := hu
  by_cases hid : v.id = i.userId
  · exact Or.inr ⟨v, hv, hid, if_pos hid⟩
  · simp only [if_neg hid]
    exact Or.inl ⟨hv, hid⟩

theorem Takes.mem_activated (h : K.Takes store i store') {u : User} (hu : u ∈ K.users store)
    (hid : u.id = i.userId) : u.activated ∈ K.users store' := by
  rw [h.users]
  exact ⟨u, hu, if_pos hid⟩

theorem Takes.mem_other (h : K.Takes store i store') {u : User} (hu : u ∈ K.users store)
    (hid : u.id ≠ i.userId) : u ∈ K.users store' := by
  rw [h.users]
  exact ⟨u, hu, if_neg hid⟩

end Contract

/-- What a moment can do to accounts and invitations. -/
inductive Effect (K : Contract σ) (s : Service) (w : World σ) : Event → Outcome → σ → Prop
  | same {e : Event} {outcome : Outcome} {store : σ} (hsound : K.Sound store)
      (hsame : K.Same w.store store) (hfailed : outcome ≠ .activated (.ok ())) :
      Effect K s w e outcome store
  | grown {r : Registration} {fresh : Fresh} {result : Except (Stop AccountError) Registered}
      {store : σ} {u : User} {expiresAt : Time.Instant} (hfrom : MadeFrom (s.newUser r fresh) u)
      (hexpiry : expiry? w.now s.invitationLifetime = some expiresAt)
      (hgrows : K.Grows w.store u ⟨tokenDigest fresh.invitation, u.id, expiresAt⟩ store)
      (hmade : ∀ made, result = .ok made → made = ⟨u, fresh.invitation⟩) :
      Effect K s w (.register r fresh) (.ofResult .registered result) store
  | taken {token : String} {store : σ} {i : Invitation} (hdigest : i.digest = tokenDigest token)
      (hlive : w.now < i.expiresAt) (htakes : K.Takes w.store i store) :
      Effect K s w (.activate token) (.activated (.ok ())) store

theorem Registering.effect {r : Registration} {fresh : Fresh}
    {result : Except (Stop AccountError) Registered} {calls : List Call} {store : σ}
    (h : Registering s w faults r fresh result calls store) (hsound : K.Sound w.store) :
    Effect K s w (.register r fresh) (.ofResult .registered result) store := by
  have hfailed : Outcome.ofResult .registered result ≠ .activated (.ok ()) := by
    unfold Outcome.ofResult
    split <;> simp
  cases h with
  | invalid => exact .same hsound (.refl K _) hfailed
  | undated => exact .same hsound (.refl K _) hfailed
  | notCreated => exact .same hsound (.refl K _) hfailed
  | created hcreated hinviting =>
    obtain ⟨hfrom, hgrows⟩ := hcreated.grows hsound
    cases hinviting with
    | sent =>
      refine .grown hfrom hcreated.expiry hgrows fun made hmade => ?_
      cases hmade
      rfl
    | undone _ _ hdeleted =>
      obtain ⟨hsound', hsame⟩ := hgrows.same_of_deleted hdeleted
      exact .same hsound' hsame hfailed
    | stuck =>
      refine .grown hfrom hcreated.expiry hgrows fun made hmade => ?_
      cases hmade

/-- Whether an invitation is taken up is a matter of a live one being there. -/
theorem Contract.activate_cases (K : Contract σ) (hsound : K.Sound w.store) (digest : String) :
    (∃ i store, i.digest = digest ∧ w.now < i.expiresAt ∧ K.Takes w.store i store ∧
        Repository.activate w.store w.now digest = .ok ((), store)) ∨
      ((∀ i ∈ K.invitations w.store, i.digest = digest → ¬w.now < i.expiresAt) ∧
        Repository.activate w.store w.now digest = .error .notFound) := by
  by_cases hlive : ∃ i ∈ K.invitations w.store, i.digest = digest ∧ w.now < i.expiresAt
  · obtain ⟨i, hi, rfl, hnow⟩ := hlive
    obtain ⟨store, hactivate, hsound', husers, hinvitations⟩ := K.activated hsound hi hnow
    exact Or.inl ⟨i, store, rfl, hnow, ⟨hsound', hi, husers, hinvitations⟩, hactivate⟩
  · have hdead : ∀ i ∈ K.invitations w.store, i.digest = digest → ¬w.now < i.expiresAt :=
      fun i hi hdigest hnow => hlive ⟨i, hi, hdigest, hnow⟩
    exact Or.inr ⟨hdead, K.not_activated hsound hdead⟩

theorem Activating.effect {token : String} {result : Except AccountError Unit} {store : σ}
    (h : Activating w faults token result store) (hsound : K.Sound w.store) :
    Effect K s w (.activate token) (.activated result) store := by
  cases h with
  | failed => exact .same hsound (.refl K _) (by simp)
  | done _ hactivated =>
    obtain ⟨i, store', hdigest, hlive, htakes, hactivate⟩ | ⟨_, hrefused⟩ :=
      K.activate_cases hsound (tokenDigest token)
    · rw [hactivate] at hactivated
      cases hactivated
      exact .taken hdigest hlive htakes
    · rw [hrefused] at hactivated
      cases hactivated

theorem Happens.effect {e : Event} {outcome : Outcome} {calls : List Call}
    (h : Happens s w faults e outcome calls w') (hsound : K.Sound w.store) :
    Effect K s w e outcome w'.store := by
  cases h with
  | clock => exact .same hsound (.refl K _) (by simp)
  | registered h => exact h.effect hsound
  | issued =>
    refine .same hsound (.refl K _) ?_
    unfold Outcome.ofResult
    split <;> simp
  | activated h => exact h.effect hsound

theorem Effect.sound {e : Event} {outcome : Outcome} {store : σ}
    (h : Effect K s w e outcome store) :
    K.Sound store := by
  cases h with
  | same hsound => exact hsound
  | grown _ _ hgrows => exact hgrows.sound
  | taken _ _ htakes => exact htakes.sound

/-! ## One account -/

/-- The account `u` waits for its one invitation `i` to be taken up. -/
structure Waiting (K : Contract σ) (u : User) (i : Invitation) (store : σ) : Prop where
  user : u ∈ K.users store
  invitation : i ∈ K.invitations store
  userId : i.userId = u.id
  only : ∀ j ∈ K.invitations store, j.userId = u.id → j = i

section

variable {u : User} {i : Invitation} {e : Event} {outcome : Outcome} {store : σ}

/-- No moment makes an active account inactive. -/
theorem Effect.active_kept (h : Effect K s w e outcome store) (hu : u.activated ∈ K.users w.store) :
    u.activated ∈ K.users store := by
  cases h with
  | same _ hsame _ => rwa [hsame.users]
  | grown _ _ hgrows _ =>
    rw [hgrows.users]
    exact Set.mem_insert_of_mem _ hu
  | @taken _ _ j _ _ htakes =>
    by_cases hid : u.id = j.userId
    · -- activation makes no difference to an active account
      have hagain : u.activated.activated ∈ K.users store := htakes.mem_activated hu hid
      exact hagain
    · exact htakes.mem_other hu hid

/-- A moment that does not take up the invitation leaves the account waiting. -/
theorem Effect.waiting_kept (h : Effect K s w e outcome store) (hu : Waiting K u i w.store)
    (hother : ∀ token, e = .activate token → tokenDigest token = i.digest →
      outcome ≠ .activated (.ok ())) : Waiting K u i store := by
  cases h with
  | same _ hsame _ =>
    refine ⟨hsame.users ▸ hu.user, hsame.invitations ▸ hu.invitation, hu.userId, fun j hj => ?_⟩
    rw [hsame.invitations] at hj
    exact hu.only j hj
  | grown _ _ hgrows _ =>
    refine ⟨?_, ?_, hu.userId, fun j hj hid => ?_⟩
    · rw [hgrows.users]
      exact Set.mem_insert_of_mem _ hu.user
    · rw [hgrows.invitations]
      exact Set.mem_insert_of_mem _ hu.invitation
    · have hother := hgrows.id_new u hu.user
      rw [← hid] at hother
      exact hu.only j (hgrows.mem_of_other hj hother) hid
  | @taken token _ j hdigest _ htakes =>
    -- what was taken up is not the invitation of the account, so it is for another one
    have hid : u.id ≠ j.userId := by
      intro hid
      rw [hu.only j htakes.mem hid.symm] at hdigest
      exact hother token rfl hdigest.symm rfl
    refine ⟨htakes.mem_other hu.user hid, ?_, hu.userId, fun j' hj' => ?_⟩
    · rw [htakes.invitations]
      exact ⟨hu.invitation, fun heq => hid (hu.userId.symm.trans heq)⟩
    · rw [htakes.invitations] at hj'
      exact hu.only j' hj'.1

/-- What takes up the invitation makes the account active. -/
theorem Effect.active_of_taken (h : Effect K s w e outcome store) (hsound : K.Sound w.store)
    (hu : Waiting K u i w.store) {token : String} (hevent : e = .activate token)
    (hdigest : tokenDigest token = i.digest)
    (houtcome : outcome = .activated (.ok ())) : u.activated ∈ K.users store := by
  cases h with
  | same _ _ hfailed => exact absurd houtcome hfailed
  | grown => cases hevent
  | @taken _ _ j hdigest' _ htakes =>
    cases hevent
    rw [K.digest_inj hsound htakes.mem hu.invitation (hdigest'.trans hdigest)] at htakes
    exact htakes.mem_activated hu.user hu.userId.symm

end

/-! ## What is bound to happen -/

/-- A live invitation can be taken up, unless the call for it fails. -/
theorem Activating.ok_of_live {token : String} {result : Except AccountError Unit} {store : σ}
    (h : Activating w faults token result store) (hsound : K.Sound w.store)
    (hcalm : errorFor faults "users.activate" = none) {i : Invitation}
    (hi : i ∈ K.invitations w.store) (hdigest : i.digest = tokenDigest token)
    (hlive : w.now < i.expiresAt) : result = .ok () := by
  cases h with
  | done => rfl
  | failed hfailed =>
    obtain hfault | ⟨_, hrefused⟩ := hfailed
    · rw [hcalm] at hfault
      cases hfault
    · obtain ⟨_, hactivate, _⟩ := K.activated hsound hi hlive
      rw [hdigest, hrefused] at hactivate
      cases hactivate

/-- With the right password all depends on the account, unless the call for it fails. -/
theorem LoggingIn.eq_of_found {c : Credentials} {result : Except (Stop AccountError) String}
    (h : LoggingIn s w faults c result) (hsound : K.Sound w.store)
    (hcalm : errorFor faults "users.get_by_email" = none)
    (hthere : missesFor faults "users.get_by_email" = false) {u : User}
    (hu : u ∈ K.users w.store) (hemail : u.email = normalEmail c.email)
    (hfits : s.scheme.check? u.passwordHash c.password = some true) :
    result = if u.isActive then s.session w.now u else .error (.refused .unauthorized) := by
  cases h with
  | failed hfault =>
    rw [hcalm] at hfault
    cases hfault
  | missed hfault =>
    rw [hthere] at hfault
    cases hfault
  | told => exact logIn_of_found ((K.found_iff hsound).mpr ⟨hu, hemail⟩) hfits

/-! ## Moments -/

/-- An event with what it met and what it left. -/
structure Moment (σ : Type) where
  before : World σ
  faults : List Fault
  event : Event
  outcome : Outcome
  calls : List Call
  after : World σ

namespace Moment

/-- The moment of an event in a world. -/
def of (s : Service) (w : World σ) (faults : List Fault) (e : Event) : Moment σ :=
  let (outcome, calls, after) := e.run s w faults
  { before := w, faults, event := e, outcome, calls, after }

/-- The moment is one that the service can have. -/
def Happened (m : Moment σ) (s : Service) : Prop :=
  Happens s m.before m.faults m.event m.outcome m.calls m.after

@[simp] theorem of_before (s : Service) (w : World σ) (faults : List Fault) (e : Event) :
    (of s w faults e).before = w := by
  unfold of
  cases e.run s w faults
  rfl

@[simp] theorem of_outcome (s : Service) (w : World σ) (faults : List Fault) (e : Event) :
    (of s w faults e).outcome = (e.run s w faults).1 := by
  unfold of
  cases e.run s w faults
  rfl

theorem happened_of (s : Service) (w : World σ) (faults : List Fault) (e : Event) :
    (of s w faults e).Happened s := by
  unfold of
  cases hrun : e.run s w faults with
  | mk outcome rest => exact run_happens hrun

end Moment

/-- What becomes of events, moment by moment. -/
def history (s : Service) (w : World σ) : List (List Fault × Event) → List (Moment σ)
  | [] => []
  | (faults, e) :: rest => .of s w faults e :: history s (Moment.of s w faults e).after rest

/-- The events of a history are those that it was made from. -/
theorem history_events (s : Service) (w : World σ) (events : List (List Fault × Event)) :
    (history s w events).map (fun m => (m.faults, m.event)) = events := by
  induction events generalizing w with
  | nil => rfl
  | cons first rest ih => rw [history, List.map_cons, ih]; rfl

/-- What holds of the world at the start and is kept by every moment, in view of the past, holds
before every moment. -/
theorem history_induct {P : List (Moment σ) → World σ → Prop} {events : List (List Fault × Event)}
    {past later : List (Moment σ)} {m : Moment σ} (hsplit : history s w events = past ++ m :: later)
    (hinit : P [] w)
    (hstep : ∀ before m', before ++ [m'] <+: past → m'.Happened s → P before m'.before →
      P (before ++ [m']) m'.after) :
    m.Happened s ∧ P past m.before := by
  induction past generalizing w events P with
  | nil =>
    cases events with
    | nil => cases hsplit
    | cons first rest =>
      obtain ⟨rfl, _⟩ := List.cons.inj hsplit
      exact ⟨Moment.happened_of _ _ _ _, hinit⟩
  | cons m₀ past ih =>
    cases events with
    | nil => cases hsplit
    | cons first rest =>
      obtain ⟨rfl, hrest⟩ := List.cons.inj hsplit
      -- the past of the rest of the history begins with the first moment
      refine ih (P := fun before w' => P (_ :: before) w') hrest ?_ ?_
      · exact hstep [] _ ⟨past, rfl⟩ (Moment.happened_of _ _ _ _) hinit
      · intro before m' hbefore hm hinv
        refine hstep (_ :: before) m' ?_ hm hinv
        exact List.prefix_cons_inj _ |>.mpr hbefore

/-! ## One after the other -/

/-- The invitation of an account that is registered. -/
def Service.invitationOf (s : Service) (w : World σ) (made : Registered) : Option Invitation :=
  (expiry? w.now s.invitationLifetime).map fun expiresAt =>
    ⟨tokenDigest made.token, made.user.id, expiresAt⟩

/-- What a registration that succeeds leaves of the world `w`. -/
structure Admitted (K : Contract σ) (s : Service) (w : World σ) (r : Registration) (fresh : Fresh)
    (made : Registered) (i : Invitation) (w' : World σ) : Prop where
  check : r.check = .ok ()
  madeFrom : MadeFrom (s.newUser r fresh) made.user
  invitationOf : s.invitationOf w made = some i
  digest : i.digest = tokenDigest made.token
  sound : K.Sound w'.store
  now : w'.now = w.now
  waiting : Waiting K made.user i w'.store

theorem Happens.admitted (hsound : K.Sound w.store) {r : Registration} {fresh : Fresh}
    {outcome : Outcome} {calls : List Call} {made : Registered}
    (h : Happens s w faults (.register r fresh) outcome calls w')
    (hmade : outcome = .registered (.ok made)) : ∃ i, Admitted K s w r fresh made i w' := by
  obtain ⟨result, store, houtcome, rfl, hways⟩ := h.register_cases
  obtain ⟨expiresAt, hcreated, htoken, _⟩ :=
    hways.created_of_ok (Outcome.registered_injective (houtcome.symm.trans hmade))
  obtain ⟨hfrom, hgrows⟩ := hcreated.grows hsound
  rw [← htoken] at hgrows
  refine ⟨⟨tokenDigest made.token, made.user.id, expiresAt⟩, hcreated.check, hfrom, ?_, rfl,
    hgrows.sound, rfl, hgrows.mem_users, hgrows.mem_invitations, rfl,
    fun j hj hid => hgrows.only hj hid⟩
  unfold Service.invitationOf
  rw [hcreated.expiry]
  rfl

/-- Registered and then activated in time, an account is there and active. -/
theorem history_activated (hsound : K.Sound w.store) {r : Registration} {fresh : Fresh}
    {made : Registered} {i : Invitation}
    (hmade : (Moment.of s w [] (.register r fresh)).outcome = .registered (.ok made))
    (hinvitation : s.invitationOf w made = some i) (hlive : w.now < i.expiresAt)
    (rest : List (List Fault × Event)) :
    ∃ m₁ m₂ : Moment σ,
      history s w (([], .register r fresh) :: ([], .activate made.token) :: rest) =
        m₁ :: m₂ :: history s m₂.after rest ∧
      m₂.event = .activate made.token ∧ m₂.outcome = .activated (.ok ()) ∧
      m₂.after.now = w.now ∧ K.Sound m₂.after.store ∧
      made.user.activated ∈ K.users m₂.after.store := by
  obtain ⟨i', h₁⟩ := (Moment.happened_of s w [] (.register r fresh)).admitted (K := K) hsound hmade
  obtain rfl := Option.some.inj (hinvitation.symm.trans h₁.invitationOf)
  refine ⟨_, _, rfl, rfl, ?_⟩
  -- of the first moment only what it left is used in the second one
  change Admitted K s w r fresh made i (Moment.of s w [] (.register r fresh)).after at h₁
  generalize (Moment.of s w [] (.register r fresh)).after = w₁ at h₁ ⊢
  have hsecond : Happens s w₁ [] (.activate made.token)
      (Moment.of s w₁ [] (.activate made.token)).outcome
      (Moment.of s w₁ [] (.activate made.token)).calls
      (Moment.of s w₁ [] (.activate made.token)).after := Moment.happened_of s w₁ [] _
  have heffect := hsecond.effect h₁.sound
  obtain ⟨result, store, houtcome, hafter, hways⟩ := hsecond.activate_cases
  have hok := hways.ok_of_live h₁.sound rfl h₁.waiting.invitation h₁.digest (h₁.now ▸ hlive)
  rw [hok] at houtcome
  refine ⟨houtcome, ?_, heffect.sound,
    heffect.active_of_taken h₁.sound h₁.waiting rfl h₁.digest.symm houtcome⟩
  rw [hafter, ← h₁.now]

/-- An active account is logged in with its password. -/
theorem Moment.logged_in (hsound : K.Sound w.store) {u : User} (hu : u ∈ K.users w.store)
    (hactive : u.isActive = true) {c : Credentials} (hemail : u.email = normalEmail c.email)
    (hfits : s.scheme.check? u.passwordHash c.password = some true) :
    (Moment.of s w [] (.issueToken c)).outcome = .ofResult .issued (s.session w.now u) := by
  have hhappens : Happens s w [] (.issueToken c) (Moment.of s w [] (.issueToken c)).outcome
      (Moment.of s w [] (.issueToken c)).calls (Moment.of s w [] (.issueToken c)).after :=
    Moment.happened_of s w [] _
  obtain ⟨result, houtcome, _, hways⟩ := hhappens.issueToken_cases
  rw [houtcome, hways.eq_of_found hsound rfl rfl hu hemail hfits, if_pos hactive]

end Agora.Account
