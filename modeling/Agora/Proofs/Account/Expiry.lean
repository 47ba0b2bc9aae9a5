import Agora.Proofs.Account.Acceptance
import Agora.Proofs.Settings
import Agora.Proofs.Time.Shift

/-!
# When invitations expire

The lifetime of invitations is a word of 64 bits, but it is added to the clock as a signed one. So
there are three kinds of lifetimes. Those that lead to a time there is are added. Those that are
close to the last word are negative, and lead back: the invitation has expired before it is made,
and the account it is for can never become active. All others lead out of the calendar, and the
registration is given up before the store is asked, as it is for every lifetime when the clock
cannot be read. `expiry?_ends` tells these apart, and `register_timed` follows them into the store.
-/

namespace Agora.Account

open Time (earliestSecond latestSecond)
open Time.Instant (Later Earlier)

/-! ## Where a lifetime leads -/

/-- The second that a lifetime leads to is in the calendar. -/
def LeadsOn (now : Time.Instant) (lifetime : UInt64) : Prop :=
  now.second + lifetime.toNat ≤ latestSecond

/-- The second that it leads to, when it is taken for a negative number, is in the calendar. -/
def LeadsBack (now : Time.Instant) (lifetime : UInt64) : Prop :=
  earliestSecond + UInt64.size ≤ now.secondAfterLeap + lifetime.toNat

/-- The ways of adding a lifetime to a time. -/
inductive Ends (now : Time.Instant) (lifetime : UInt64) : Option Time.Instant → Prop
  | early (h : now.second < 0) : Ends now lifetime none
  | on {expiresAt : Time.Instant} (hbegun : 0 ≤ now.second) (h : LeadsOn now lifetime)
      (hback : ¬LeadsBack now lifetime) (hlater : Later lifetime.toNat now expiresAt) :
      Ends now lifetime (some expiresAt)
  | back {expiresAt : Time.Instant} (hbegun : 0 ≤ now.second) (h : LeadsBack now lifetime)
      (hon : ¬LeadsOn now lifetime)
      (hearlier : Earlier (UInt64.size - lifetime.toNat) now expiresAt)
      (hpast : expiresAt < now) : Ends now lifetime (some expiresAt)
  | out (hbegun : 0 ≤ now.second) (hon : ¬LeadsOn now lifetime) (hback : ¬LeadsBack now lifetime) :
      Ends now lifetime none

/-- The lower half of the lifetimes is added as it is, -/
theorem expiry?_eq_later {now expiresAt : Time.Instant} {lifetime : UInt64}
    (hbegun : 0 ≤ now.second) (h : lifetime.toNat < 9223372036854775808) :
    expiry? now lifetime = some expiresAt ↔ Later lifetime.toNat now expiresAt := by
  unfold expiry? signedLifetime
  rw [if_neg (Int.not_lt.mpr hbegun), if_pos h]
  exact Time.Instant.addSeconds?_later

/-- and the upper half is what is missing from it to the full word, taken away. -/
theorem expiry?_eq_earlier {now expiresAt : Time.Instant} {lifetime : UInt64}
    (hbegun : 0 ≤ now.second) (h : 9223372036854775808 ≤ lifetime.toNat) :
    expiry? now lifetime = some expiresAt ↔
      Earlier (UInt64.size - lifetime.toNat) now expiresAt := by
  have hlifetime := lifetime.toNat_lt
  have hsize : UInt64.size = 18446744073709551616 := rfl
  have hsigned : signedLifetime lifetime = -((UInt64.size - lifetime.toNat : Nat) : Int) := by
    unfold signedLifetime
    rw [if_neg (by omega)]
    omega
  unfold expiry?
  rw [if_neg (Int.not_lt.mpr hbegun), hsigned]
  exact Time.Instant.addSeconds?_earlier (by omega)

/-- The calendar is far shorter than half a word, so that no lifetime leads on and back. -/
theorem expiry?_ends (now : Time.Instant) (lifetime : UInt64) :
    Ends now lifetime (expiry? now lifetime) := by
  have hlifetime := lifetime.toNat_lt
  have hsize : UInt64.size = 18446744073709551616 := rfl
  have hearliest : earliestSecond = -8334601228800 := rfl
  have hlatest : latestSecond = 8210266876799 := rfl
  obtain ⟨hfirst, hlast, _⟩ := now.valid
  have hleap : now.secondAfterLeap ≤ now.second + 1 := by
    unfold Time.Instant.secondAfterLeap
    split <;> omega
  by_cases hearly : now.second < 0
  · rw [expiry?_eq_none.mpr (Or.inl hearly)]
    exact .early hearly
  have hbegun : 0 ≤ now.second := Int.not_lt.mp hearly
  cases hexpiry : expiry? now lifetime with
  | some expiresAt =>
    -- a lifetime in the upper half of the words is read as a negative one
    by_cases hlower : lifetime.toNat < 9223372036854775808
    · have hlater := (expiry?_eq_later hbegun hlower).mp hexpiry
      refine .on hbegun (Time.Instant.exists_later_iff.mp ⟨_, hlater⟩) ?_ hlater
      unfold LeadsBack
      omega
    · have hearlier := (expiry?_eq_earlier hbegun (Nat.not_lt.mp hlower)).mp hexpiry
      have hexists := (Time.Instant.exists_earlier_iff (by omega)).mp ⟨_, hearlier⟩
      refine .back hbegun ?_ ?_ hearlier (hearlier.lt (by omega))
      · unfold LeadsBack
        omega
      · unfold LeadsOn
        omega
  | none =>
    refine .out hbegun (fun hon => ?_) (fun hback => ?_)
    · obtain ⟨expiresAt, hlater⟩ := Time.Instant.exists_later_iff.mpr hon
      unfold LeadsOn at hon
      cases hexpiry.symm.trans ((expiry?_eq_later hbegun (by omega)).mpr hlater)
    · unfold LeadsBack at hback
      obtain ⟨expiresAt, hearlier⟩ :=
        (Time.Instant.exists_earlier_iff (t := now) (n := UInt64.size - lifetime.toNat)
          (by omega)).mpr (by omega)
      cases hexpiry.symm.trans ((expiry?_eq_earlier hbegun (by omega)).mpr hearlier)

/-! ## Invitations from the past -/

variable {σ : Type} [Repository σ] {K : Contract σ} {s : Service} {w w' : World σ}
  {faults : List Fault} {r : Registration} {fresh : Fresh}

/-- Nobody takes up an invitation that has expired. -/
theorem Effect.live_of_taken {e : Event} {outcome : Outcome} {store : σ} {i : Invitation}
    {token : String} (h : Effect K s w e outcome store) (hsound : K.Sound w.store)
    (hi : i ∈ K.invitations w.store) (hevent : e = .activate token)
    (hdigest : tokenDigest token = i.digest) (houtcome : outcome = .activated (.ok ())) :
    w.now < i.expiresAt := by
  cases h with
  | same _ _ hfailed => exact absurd houtcome hfailed
  | grown => cases hevent
  | taken hdigest' hlive htakes =>
    cases hevent
    rwa [K.digest_inj hsound htakes.mem hi (hdigest'.trans hdigest)] at hlive

/-- The invitation `i` that is sent with the account `u` is not taken up while the clock shows no
time before it has expired. -/
theorem Stands.never_activates {u : User} {i : Invitation} (h : Stands K u i [] w)
    {events : List (List Fault × Event)} {past later : List (Moment σ)} {m : Moment σ}
    (hsplit : history s w events = past ++ m :: later)
    (hclock : ∀ m' ∈ past ++ [m], ¬m'.before.now < i.expiresAt) : ¬m.Activates i.digest := by
  -- a moment that activates meets a live invitation, as long as none has activated before
  have hstep : ∀ {before : List (Moment σ)} {m' : Moment σ}, m'.Happened s →
      Stands K u i before m'.before ∧ (∀ m₀ ∈ before, ¬m₀.Activates i.digest) →
        ¬m'.before.now < i.expiresAt → ¬m'.Activates i.digest := by
    rintro before m' hm' ⟨hstands, hnone⟩ hexpired ⟨token, hevent, hdigest, houtcome⟩
    exact hexpired ((Happens.effect hm' hstands.sound).live_of_taken hstands.sound
      (hstands.waiting hnone).invitation hevent hdigest houtcome)
  obtain ⟨hm, hinv⟩ := history_induct
    (P := fun before w' => Stands K u i before w' ∧ ∀ m₀ ∈ before, ¬m₀.Activates i.digest)
    hsplit ⟨h, fun _ hm₀ => by cases hm₀⟩ fun before m' hstart hm' hinv => by
      refine ⟨hinv.1.step hm', fun m₀ hm₀ => ?_⟩
      rcases List.mem_append.mp hm₀ with hm₀ | hm₀
      · exact hinv.2 m₀ hm₀
      · obtain rfl := List.mem_singleton.mp hm₀
        exact hstep hm' hinv (hclock m₀ (List.mem_append_left _ (hstart.subset (by simp))))
  exact hstep hm hinv (hclock m (by simp))

/-! ## Registrations -/

/-- A run of a registration that is in order, as far as it is about the end of the invitation. -/
structure Timed (s : Service) (w : World σ) (r : Registration) (fresh : Fresh)
    (run : Outcome × List Call × World σ) : Prop where
  /-- From 1970 on the invitation expires its lifetime later if there is such a time, -/
  on_iff : (∃ expiresAt rest, Later s.invitationLifetime.toNat w.now expiresAt ∧
      run.2.1 = s.creation r fresh expiresAt :: rest) ↔
    0 ≤ w.now.second ∧ LeadsOn w.now s.invitationLifetime
  /-- it has expired already if its lifetime leads back, -/
  back_iff : (∃ expiresAt rest, expiresAt < w.now ∧
      run.2.1 = s.creation r fresh expiresAt :: rest) ↔
    0 ≤ w.now.second ∧ LeadsBack w.now s.invitationLifetime
  /-- by what is missing from the lifetime to the full word, -/
  back : ∀ expiresAt rest, run.2.1 = s.creation r fresh expiresAt :: rest → expiresAt < w.now →
    Earlier (UInt64.size - s.invitationLifetime.toNat) w.now expiresAt
  /-- and otherwise, as before 1970, nobody gets an answer. -/
  out_iff : run = (.abandoned, [], w) ↔ w.now.second < 0 ∨
    ¬LeadsOn w.now s.invitationLifetime ∧ ¬LeadsBack w.now s.invitationLifetime
  /-- Whoever registers while the lifetime leads back is told of an invitation that is no use: as
  long as the clock does not go back, it is not taken up. -/
  dead : LeadsBack w.now s.invitationLifetime → ∀ made, run.1 = .registered (.ok made) →
    ∀ K : Contract σ, K.Sound w.store → ∀ events past m later,
      history s run.2.2 events = past ++ m :: later →
        (∀ m' ∈ past ++ [m], w.now ≤ m'.before.now) →
          ¬m.Activates (Text.Hex.encode (Digest.Sha256.hash (Text.Utf8.encode made.token)))

/-- A registration leaves behind what it answers with. -/
theorem Registering.dead {result : Except (Stop AccountError) Registered} {calls : List Call}
    {store : σ}
    {expiresAt : Time.Instant} (h : Registering s w faults r fresh result calls store)
    (hexpiry : expiry? w.now s.invitationLifetime = some expiresAt) (hpast : expiresAt < w.now)
    {made : Registered} (hmade : Outcome.ofResult .registered result = .registered (.ok made))
    (hsound : K.Sound w.store) {events : List (List Fault × Event)} {past later : List (Moment σ)}
    {m : Moment σ} (hsplit : history s { w with store } events = past ++ m :: later)
    (hclock : ∀ m' ∈ past ++ [m], w.now ≤ m'.before.now) :
    ¬m.Activates (tokenDigest made.token) := by
  obtain ⟨i, hadmitted⟩ := (Happens.registered h).admitted (K := K) hsound hmade
  have hi : i.expiresAt = expiresAt := by
    have hinvitation := hadmitted.invitationOf
    unfold Service.invitationOf at hinvitation
    rw [hexpiry] at hinvitation
    cases hinvitation
    rfl
  have hstands : Stands K made.user i [] { w with store } :=
    ⟨hadmitted.sound, fun _ => hadmitted.waiting, fun ⟨_, hm, _⟩ => by cases hm⟩
  rw [← hadmitted.digest]
  refine hstands.never_activates hsplit fun m' hm' hlive => ?_
  rw [hi] at hlive
  exact Int.lt_irrefl _ (Int.lt_of_lt_of_le (Int.lt_trans hlive hpast) (hclock m' hm'))

/-- Every lifetime that can be set is of one of the three kinds, at every time. -/
theorem register_timed (s : Service) (w : World σ) (faults : List Fault) (r : Registration)
    (fresh : Fresh) (hfit : r.Fit) :
    (∃ env, Settings.invitationLifetime env = s.invitationLifetime) ∧
      Timed s w r fresh (Event.run s w faults (.register r fresh)) := by
  refine ⟨⟨_, Settings.invitationLifetime_variables s.invitationLifetime⟩, ?_⟩
  obtain ⟨result, calls, store, h, hrun⟩ := register_registering s w faults r fresh
  rw [hrun]
  -- what the store is asked for has the end that was reckoned
  have hexpiry : ∀ {expiresAt rest}, calls = s.creation r fresh expiresAt :: rest →
      expiry? w.now s.invitationLifetime = some expiresAt := by
    intro expiresAt rest hcalls
    exact (h.asked (hcalls ▸ List.mem_cons_self)).2.1
  have hends := expiry?_ends w.now s.invitationLifetime
  cases hreckoned : expiry? w.now s.invitationLifetime with
  | none =>
    rw [hreckoned] at hends
    obtain ⟨rfl, rfl, rfl⟩ := h.given_up hfit hreckoned
    have hout : w.now.second < 0 ∨
        ¬LeadsOn w.now s.invitationLifetime ∧ ¬LeadsBack w.now s.invitationLifetime := by
      cases hends with
      | early hearly => exact Or.inl hearly
      | out _ hon hback => exact Or.inr ⟨hon, hback⟩
    refine ⟨iff_of_false ?_ ?_, iff_of_false ?_ ?_, ?_, iff_of_true rfl hout, ?_⟩
    · rintro ⟨_, _, _, hcalls⟩
      cases hcalls
    · rintro ⟨hbegun, hon⟩
      exact hout.elim (Int.not_lt.mpr hbegun) fun h => h.1 hon
    · rintro ⟨_, _, _, hcalls⟩
      cases hcalls
    · rintro ⟨hbegun, hback⟩
      exact hout.elim (Int.not_lt.mpr hbegun) fun h => h.2 hback
    · intro _ _ hcalls
      cases hcalls
    · intro _ _ hmade
      cases hmade
  | some expiresAt =>
    rw [hreckoned] at hends
    obtain ⟨rest, rfl⟩ := h.asks (Registration.check_eq_ok.mpr hfit) hreckoned
    -- so it is the only end that the store is asked for
    have honly : ∀ {expiresAt' rest'}, s.creation r fresh expiresAt :: rest =
        s.creation r fresh expiresAt' :: rest' → expiresAt' = expiresAt := fun hcalls =>
      Option.some.inj ((hexpiry hcalls).symm.trans hreckoned)
    have hanswered : (Outcome.ofResult .registered result, s.creation r fresh expiresAt :: rest,
        ({ w with store } : World σ)) ≠ (.abandoned, [], w) := fun h =>
      List.cons_ne_nil _ _ (congrArg (·.2.1) h)
    cases hends with
    | on hbegun hon hback hlater =>
      refine ⟨iff_of_true ⟨_, _, hlater, rfl⟩ ⟨hbegun, hon⟩, iff_of_false ?_ fun h => hback h.2, ?_,
        iff_of_false hanswered fun h => h.elim (Int.not_lt.mpr hbegun) fun h => h.1 hon,
        fun h => absurd h hback⟩
      · rintro ⟨expiresAt', _, hpast, hcalls⟩
        rw [honly hcalls] at hpast
        exact Int.not_lt.mpr hlater.le hpast
      · intro expiresAt' _ hcalls hpast
        rw [honly hcalls] at hpast
        exact absurd hpast (Int.not_lt.mpr hlater.le)
    | back hbegun hback hon hearlier hpast =>
      refine ⟨iff_of_false ?_ fun h => hon h.2, iff_of_true ⟨_, _, hpast, rfl⟩ ⟨hbegun, hback⟩, ?_,
        iff_of_false hanswered fun h => h.elim (Int.not_lt.mpr hbegun) fun h => h.2 hback, ?_⟩
      · rintro ⟨expiresAt', _, hlater, hcalls⟩
        rw [honly hcalls] at hlater
        exact Int.not_lt.mpr hlater.le hpast
      · intro expiresAt' _ hcalls _
        rw [honly hcalls]
        exact hearlier
      · intro _ made hmade K hsound events past m later hsplit hclock
        exact h.dead hreckoned hpast hmade hsound hsplit hclock

/-- An invitation for an hour. -/
theorem register_timed_hour : sampleRegistration.Fit ∧ ∃ expiresAt rest,
    Later 3600 newYear expiresAt ∧
      (Event.run (sampleService 3600) (sampleWorld newYear) []
        (.register sampleRegistration sampleFresh)).2.1 =
          (sampleService 3600).creation sampleRegistration sampleFresh expiresAt :: rest := by
  have hfit : sampleRegistration.Fit := Registration.check_eq_ok.mp rfl
  have htimed := (register_timed (sampleService 3600) (sampleWorld newYear) [] sampleRegistration
    sampleFresh hfit).2
  exact ⟨hfit, htimed.on_iff.mpr ⟨by decide, by unfold LeadsOn; decide⟩⟩

/-- With the longest lifetime an invitation has expired a second before it is made. -/
theorem register_wraps : sampleRegistration.Fit ∧ ∃ expiresAt rest,
    expiresAt.second = 1704067199 ∧ expiresAt < newYear ∧
      (Event.run { sampleService 3600 with invitationLifetime := 18446744073709551615 }
        (sampleWorld newYear) [] (.register sampleRegistration sampleFresh)).2.1 =
          (sampleService 3600).creation sampleRegistration sampleFresh expiresAt :: rest :=
  ⟨Registration.check_eq_ok.mp rfl, ⟨1704067199, 0, by decide⟩, _, rfl, by decide, rfl⟩

end Agora.Account
