import Agora.Account.Store
import Agora.Proofs.Decimal
import Mathlib.Data.List.Nodup
import Mathlib.Data.Set.Image

/-!
# What the account service relies on

`Contract` is what a repository has to promise: which accounts and invitations it shows, and what
its four calls do to them. Rows are sets, since no two of them have the same key. Nothing is said of
the order of rows, of how ids are chosen, or of when making an account fails; a call that fails
changes nothing, for it returns no new state.

A new account has an id of its own, so removing all that has this id takes away what was added, and
nothing else (`Contract.Grows.same_of_deleted`).

Main result: `Store.contract`. The store of plain lists keeps the contract.
-/

namespace Agora.Account

/-- The user as its invitation leaves it. -/
def User.activated (u : User) : User := { u with isActive := true }

/-- The account that is made from what is asked for. -/
structure MadeFrom (new : NewUser) (u : User) : Prop where
  username : u.username = new.username
  email : u.email = new.email
  passwordHash : u.passwordHash = new.passwordHash
  inactive : u.isActive = false

/-- What a repository promises, as long as its state is sound. -/
structure Contract (σ : Type) [Repository σ] where
  users : σ → Set User
  invitations : σ → Set Invitation
  Sound : σ → Prop
  id_inj : ∀ {s u v}, Sound s → u ∈ users s → v ∈ users s → u.id = v.id → u = v
  email_inj : ∀ {s u v}, Sound s → u ∈ users s → v ∈ users s → u.email = v.email → u = v
  username_inj : ∀ {s u v}, Sound s → u ∈ users s → v ∈ users s → u.username = v.username → u = v
  digest_inj : ∀ {s i j}, Sound s → i ∈ invitations s → j ∈ invitations s →
    i.digest = j.digest → i = j
  /-- Invitations are for accounts. -/
  invited : ∀ {s i}, Sound s → i ∈ invitations s → ∃ u ∈ users s, u.id = i.userId
  id_fits : ∀ {s u}, Sound s → u ∈ users s → Decimal.FitsInt64 u.id
  /-- A new account has an id of its own, and one invitation. -/
  created : ∀ {s now new digest expiresAt u s'}, Sound s →
    Repository.createAndInvite s now new digest expiresAt = .ok (u, s') →
      Sound s' ∧ MadeFrom new u ∧ (∀ v ∈ users s, v.id ≠ u.id) ∧
        users s' = insert u (users s) ∧
        invitations s' = insert ⟨digest, u.id, expiresAt⟩ (invitations s)
  /-- What is said to be taken is taken. -/
  email_taken : ∀ {s now new digest expiresAt}, Sound s →
    Repository.createAndInvite s now new digest expiresAt =
      .error (.uniqueViolation emailConstraint) → ∃ u ∈ users s, u.email = new.email
  username_taken : ∀ {s now new digest expiresAt}, Sound s →
    Repository.createAndInvite s now new digest expiresAt =
      .error (.uniqueViolation usernameConstraint) → ∃ u ∈ users s, u.username = new.username
  found_iff : ∀ {s email u}, Sound s →
    (Repository.userByEmail? s email = some u ↔ u ∈ users s ∧ u.email = email)
  /-- An invitation that has not expired can be taken up. Its user becomes active and has no
  invitations any more. -/
  activated : ∀ {s now i}, Sound s → i ∈ invitations s → now < i.expiresAt →
    ∃ s', Repository.activate s now i.digest = .ok ((), s') ∧ Sound s' ∧
      users s' = (fun u => if u.id = i.userId then u.activated else u) '' users s ∧
      invitations s' = {j ∈ invitations s | j.userId ≠ i.userId}
  not_activated : ∀ {s now digest}, Sound s →
    (∀ i ∈ invitations s, i.digest = digest → ¬now < i.expiresAt) →
      Repository.activate s now digest = .error .notFound
  /-- An account is removed with its invitations. -/
  deleted : ∀ {s u}, Sound s → u ∈ users s →
    ∃ s', Repository.delete s u.id = .ok ((), s') ∧ Sound s' ∧
      users s' = {v ∈ users s | v.id ≠ u.id} ∧
      invitations s' = {i ∈ invitations s | i.userId ≠ u.id}

namespace Contract

variable {σ : Type} [Repository σ] (K : Contract σ) {s s' : σ}

/-- The accounts and invitations are the same. -/
structure Same (s s' : σ) : Prop where
  users : K.users s' = K.users s
  invitations : K.invitations s' = K.invitations s

theorem Same.refl (s : σ) : K.Same s s := ⟨rfl, rfl⟩

/-- A new account `u` with its invitation `i` is all that was added. -/
structure Grows (s : σ) (u : User) (i : Invitation) (s' : σ) : Prop where
  sound : K.Sound s'
  id_new : ∀ v ∈ K.users s, v.id ≠ u.id
  uninvited : ∀ j ∈ K.invitations s, j.userId ≠ u.id
  users : K.users s' = insert u (K.users s)
  invitations : K.invitations s' = insert i (K.invitations s)
  inactive : u.isActive = false
  userId : i.userId = u.id

namespace Grows

variable {K} {u : User} {i : Invitation}

theorem mem_users (h : K.Grows s u i s') : u ∈ K.users s' := by
  rw [h.users]
  exact Set.mem_insert _ _

theorem mem_invitations (h : K.Grows s u i s') : i ∈ K.invitations s' := by
  rw [h.invitations]
  exact Set.mem_insert _ _

/-- A new account has one invitation. -/
theorem only (h : K.Grows s u i s') {j : Invitation} (hj : j ∈ K.invitations s')
    (hid : j.userId = u.id) : j = i := by
  rw [h.invitations] at hj
  obtain rfl | hj := hj
  · rfl
  · exact absurd hid (h.uninvited j hj)

/-- Invitations for others were there before. -/
theorem mem_of_other (h : K.Grows s u i s') {j : Invitation} (hj : j ∈ K.invitations s')
    (hid : j.userId ≠ u.id) : j ∈ K.invitations s := by
  rw [h.invitations] at hj
  obtain rfl | hj := hj
  · exact absurd h.userId hid
  · exact hj

/-- What has the new id is what was added, so without it all is as before. -/
theorem same_of_deleted (h : K.Grows s u i s') {s'' : σ}
    (hdeleted : Repository.delete s' u.id = .ok ((), s'')) : K.Sound s'' ∧ K.Same s s'' := by
  obtain ⟨left, hleft, hsound, husers, hinvitations⟩ := K.deleted h.sound h.mem_users
  rw [hleft] at hdeleted
  cases hdeleted
  refine ⟨hsound, ?_, ?_⟩
  · rw [husers, h.users]
    ext v
    constructor
    · rintro ⟨rfl | hv, hid⟩
      · exact absurd rfl hid
      · exact hv
    · exact fun hv => ⟨Or.inr hv, h.id_new v hv⟩
  · rw [hinvitations, h.invitations]
    ext j
    constructor
    · rintro ⟨rfl | hj, hid⟩
      · exact absurd h.userId hid
      · exact hj
    · exact fun hj => ⟨Or.inr hj, h.uninvited j hj⟩

end Grows

/-- Making an account adds it with its invitation, and nothing else. -/
theorem grows_of_created (hsound : K.Sound s) {now : Time.Instant} {new : NewUser} {digest : String}
    {expiresAt : Time.Instant} {u : User}
    (hcreated : Repository.createAndInvite s now new digest expiresAt = .ok (u, s')) :
    MadeFrom new u ∧ K.Grows s u ⟨digest, u.id, expiresAt⟩ s' := by
  obtain ⟨hsound', hfrom, hfresh, husers, hinvitations⟩ := K.created hsound hcreated
  refine ⟨hfrom, hsound', hfresh, fun i hi hid => ?_, husers, hinvitations, hfrom.inactive, rfl⟩
  -- an invitation that was there is for an account that was there
  obtain ⟨v, hv, hv'⟩ := K.invited hsound hi
  exact hfresh v hv (hv'.trans hid)

end Contract

/-! ## The store of lists -/

namespace Store

variable {s : Store}

/-- The states of a store to which accounts come only by being made: keys are used once, and ids
were given out by the store. -/
structure Sound (s : Store) : Prop where
  ids : (s.users.map (·.id)).Nodup
  emails : (s.users.map (·.email)).Nodup
  usernames : (s.users.map (·.username)).Nodup
  digests : (s.invitations.map (·.digest)).Nodup
  invited : ∀ i ∈ s.invitations, ∃ u ∈ s.users, u.id = i.userId
  given : ∀ u ∈ s.users, 0 < u.id ∧ u.id ≤ s.lastId
  begun : 0 ≤ s.lastId
  last : s.lastId ≤ 9223372036854775807

theorem sound_empty : Sound {} := by
  constructor <;> simp

/-- A row with a key of its own can be added. -/
theorem nodup_snoc {α β : Type} {key : α → β} {rows : List α} {a : α}
    (h : (rows.map key).Nodup) (hfresh : ∀ b ∈ rows, key b ≠ key a) :
    ((rows ++ [a]).map key).Nodup := by
  rw [List.map_append, List.map_singleton, List.nodup_append]
  refine ⟨h, List.nodup_singleton _, ?_⟩
  intro b hb c hc
  obtain ⟨row, hrow, rfl⟩ := List.mem_map.mp hb
  rw [List.mem_singleton.mp hc]
  exact hfresh row hrow

theorem nodup_filter {α β : Type} {key : α → β} {rows : List α} {p : α → Bool}
    (h : (rows.map key).Nodup) : ((rows.filter p).map key).Nodup :=
  h.sublist (List.Sublist.map key List.filter_sublist)

/-- All that making an account can do. -/
theorem createAndInvite_cases (now : Time.Instant) (new : NewUser) (digest : String)
    (expiresAt : Time.Instant) :
    ((∃ u ∈ s.users, u.email = new.email) ∧
        s.createAndInvite now new digest expiresAt = .error (.uniqueViolation emailConstraint)) ∨
      ((∃ u ∈ s.users, u.username = new.username) ∧
        s.createAndInvite now new digest expiresAt = .error (.uniqueViolation usernameConstraint)) ∨
      (∃ e, s.createAndInvite now new digest expiresAt = .error e ∧
        e ≠ .uniqueViolation emailConstraint ∧ e ≠ .uniqueViolation usernameConstraint) ∨
      ((∀ u ∈ s.users, u.email ≠ new.email) ∧ (∀ u ∈ s.users, u.username ≠ new.username) ∧
        (∀ i ∈ s.invitations, i.digest ≠ digest) ∧ s.lastId < 9223372036854775807 ∧
        s.createAndInvite now new digest expiresAt = .ok (s.newAccount now new,
          { users := s.users ++ [s.newAccount now new]
            invitations := s.invitations ++ [⟨digest, s.lastId + 1, expiresAt⟩]
            lastId := s.lastId + 1 })) := by
  unfold createAndInvite
  split
  next h =>
    refine Or.inl ⟨?_, rfl⟩
    simpa using h
  next hemail =>
    split
    next h =>
      refine Or.inr (Or.inl ⟨?_, rfl⟩)
      simpa using h
    next husername =>
      split
      next => exact Or.inr (Or.inr (Or.inl ⟨_, rfl, by decide, by decide⟩))
      next hdigest =>
        split
        next => exact Or.inr (Or.inr (Or.inl ⟨_, rfl, by decide, by decide⟩))
        next hlast =>
          refine Or.inr (Or.inr (Or.inr ⟨?_, ?_, ?_, Int.not_le.mp hlast, rfl⟩))
          · simpa using hemail
          · simpa using husername
          · simpa using hdigest

namespace Sound

variable (h : s.Sound)

include h

theorem created {now : Time.Instant} {new : NewUser} {digest : String} {expiresAt : Time.Instant}
    (hemail : ∀ u ∈ s.users, u.email ≠ new.email)
    (husername : ∀ u ∈ s.users, u.username ≠ new.username)
    (hdigest : ∀ i ∈ s.invitations, i.digest ≠ digest) (hlast : s.lastId < 9223372036854775807) :
    Sound { users := s.users ++ [s.newAccount now new]
            invitations := s.invitations ++ [⟨digest, s.lastId + 1, expiresAt⟩]
            lastId := s.lastId + 1 } where
  ids := nodup_snoc h.ids fun u hu => by
    have hgiven := h.given u hu
    show u.id ≠ s.lastId + 1
    omega
  emails := nodup_snoc h.emails hemail
  usernames := nodup_snoc h.usernames husername
  digests := nodup_snoc h.digests hdigest
  invited := by
    intro i hi
    rcases List.mem_append.mp hi with hi | hi
    · obtain ⟨u, hu, hid⟩ := h.invited i hi
      exact ⟨u, List.mem_append_left _ hu, hid⟩
    · rw [List.mem_singleton.mp hi]
      exact ⟨_, List.mem_append_right _ (List.mem_singleton_self _), rfl⟩
  given := by
    have hbegun := h.begun
    intro u hu
    simp only
    rcases List.mem_append.mp hu with hu | hu
    · have hgiven := h.given u hu
      omega
    · rw [List.mem_singleton.mp hu]
      simp only [newAccount]
      omega
  begun := by
    have hbegun := h.begun
    simp only
    omega
  last := by
    simp only
    omega

/-- Changing accounts without touching their keys, and leaving invitations out. -/
theorem kept {f : User → User} (hid : ∀ u, (f u).id = u.id) (hemail : ∀ u, (f u).email = u.email)
    (husername : ∀ u, (f u).username = u.username) (p : Invitation → Bool) :
    Sound { s with users := s.users.map f, invitations := s.invitations.filter p } where
  ids := by simpa [List.map_map, Function.comp_def, hid] using h.ids
  emails := by simpa [List.map_map, Function.comp_def, hemail] using h.emails
  usernames := by simpa [List.map_map, Function.comp_def, husername] using h.usernames
  digests := nodup_filter h.digests
  invited := by
    intro i hi
    obtain ⟨u, hu, huser⟩ := h.invited i (List.mem_filter.mp hi).1
    exact ⟨f u, List.mem_map_of_mem hu, (hid u).trans huser⟩
  given := by
    intro u hu
    obtain ⟨v, hv, rfl⟩ := List.mem_map.mp hu
    rw [hid v]
    exact h.given v hv
  begun := h.begun
  last := h.last

/-- Leaving out an account with its invitations. -/
theorem deleted (id : Int) :
    Sound { s with users := s.users.filter (·.id ≠ id)
                   invitations := s.invitations.filter (·.userId ≠ id) } where
  ids := nodup_filter h.ids
  emails := nodup_filter h.emails
  usernames := nodup_filter h.usernames
  digests := nodup_filter h.digests
  invited := by
    intro i hi
    obtain ⟨hi, hne⟩ := List.mem_filter.mp hi
    obtain ⟨u, hu, huser⟩ := h.invited i hi
    refine ⟨u, List.mem_filter.mpr ⟨hu, ?_⟩, huser⟩
    rwa [huser]
  given u hu := h.given u (List.mem_filter.mp hu).1
  begun := h.begun
  last := h.last

end Sound

theorem userByEmail?_iff (h : s.Sound) {email : String} {u : User} :
    s.userByEmail? email = some u ↔ u ∈ s.users ∧ u.email = email := by
  unfold userByEmail?
  constructor
  · intro hfound
    exact ⟨List.mem_of_find?_eq_some hfound, by simpa using List.find?_some hfound⟩
  · rintro ⟨hu, rfl⟩
    cases hfound : s.users.find? (·.email = u.email) with
    | none =>
      have hnone := List.find?_eq_none.mp hfound u hu
      simp at hnone
    | some v =>
      have hemail : v.email = u.email := by simpa using List.find?_some hfound
      rw [List.inj_on_of_nodup_map h.emails (List.mem_of_find?_eq_some hfound) hu hemail]

/-- The live invitation of a digest is the one that is taken up. -/
theorem activate_eq (h : s.Sound) {now : Time.Instant} {i : Invitation} (hi : i ∈ s.invitations)
    (hlive : now < i.expiresAt) :
    s.activate now i.digest = .ok ((), { s with
      users := s.users.map fun u => if u.id = i.userId then u.activated else u
      invitations := s.invitations.filter (·.userId ≠ i.userId) }) := by
  have hfound :
      s.invitations.find? (fun j => j.digest = i.digest && now < j.expiresAt) = some i := by
    cases hfind : s.invitations.find? (fun j => j.digest = i.digest && now < j.expiresAt) with
    | none =>
      have hnone := List.find?_eq_none.mp hfind i hi
      simp [hlive] at hnone
    | some j =>
      have hj := List.find?_some hfind
      simp only [Bool.and_eq_true, decide_eq_true_eq] at hj
      rw [List.inj_on_of_nodup_map h.digests (List.mem_of_find?_eq_some hfind) hi hj.1]
  unfold activate
  rw [hfound]
  rfl

theorem activate_none {now : Time.Instant} {digest : String}
    (hdead : ∀ i ∈ s.invitations, i.digest = digest → ¬now < i.expiresAt) :
    s.activate now digest = .error .notFound := by
  have hnone : s.invitations.find? (fun i => i.digest = digest && now < i.expiresAt) = none := by
    refine List.find?_eq_none.mpr fun i hi => ?_
    have hlate := hdead i hi
    simp only [Bool.and_eq_true, decide_eq_true_eq, not_and]
    exact hlate
  unfold activate
  rw [hnone]

/-- The store of lists keeps the contract. -/
def contract : Contract Store where
  users s := {u | u ∈ s.users}
  invitations s := {i | i ∈ s.invitations}
  Sound := Sound
  id_inj h hu hv := List.inj_on_of_nodup_map h.ids hu hv
  email_inj h hu hv := List.inj_on_of_nodup_map h.emails hu hv
  username_inj h hu hv := List.inj_on_of_nodup_map h.usernames hu hv
  digest_inj h hi hj := List.inj_on_of_nodup_map h.digests hi hj
  invited h hi := h.invited _ hi
  id_fits := by
    intro s u h hu
    have hgiven := h.given u hu
    have hlast := h.last
    exact ⟨by omega, by omega⟩
  created := by
    intro s now new digest expiresAt u s' h hcreate
    change s.createAndInvite now new digest expiresAt = .ok (u, s') at hcreate
    obtain ⟨_, heq⟩ | ⟨_, heq⟩ | ⟨_, heq, _⟩ | ⟨hemail, husername, hdigest, hlast, heq⟩ :=
      s.createAndInvite_cases now new digest expiresAt
    all_goals
      rw [heq] at hcreate
      cases hcreate
    refine ⟨h.created hemail husername hdigest hlast, ⟨rfl, rfl, rfl, rfl⟩, ?_, ?_, ?_⟩
    · intro v hv
      have hgiven := h.given v hv
      show v.id ≠ s.lastId + 1
      omega
    · ext v
      simp [or_comm]
    · ext i
      simp [newAccount, or_comm]
  email_taken := by
    intro s now new digest expiresAt h hcreate
    change s.createAndInvite now new digest expiresAt = _ at hcreate
    obtain ⟨htaken, _⟩ | ⟨_, heq⟩ | ⟨e, heq, hother, _⟩ | ⟨_, _, _, _, heq⟩ :=
      s.createAndInvite_cases now new digest expiresAt
    · exact htaken
    · rw [heq] at hcreate
      exact absurd hcreate (by decide)
    · rw [heq] at hcreate
      exact absurd (Except.error.inj hcreate) hother
    · rw [heq] at hcreate
      cases hcreate
  username_taken := by
    intro s now new digest expiresAt h hcreate
    change s.createAndInvite now new digest expiresAt = _ at hcreate
    obtain ⟨_, heq⟩ | ⟨htaken, _⟩ | ⟨e, heq, _, hother⟩ | ⟨_, _, _, _, heq⟩ :=
      s.createAndInvite_cases now new digest expiresAt
    · rw [heq] at hcreate
      exact absurd hcreate (by decide)
    · exact htaken
    · rw [heq] at hcreate
      exact absurd (Except.error.inj hcreate) hother
    · rw [heq] at hcreate
      cases hcreate
  found_iff h := userByEmail?_iff h
  activated := by
    intro s now i h hi hlive
    refine ⟨_, activate_eq h hi hlive, h.kept ?_ ?_ ?_ _, ?_, ?_⟩
    iterate 3
      intro u
      split <;> rfl
    · ext u
      simp [Set.mem_image]
    · ext j
      simp
  not_activated _ hdead := activate_none hdead
  deleted := by
    intro s u h hu
    have hany : s.users.any (·.id = u.id) = true := List.any_eq_true.mpr ⟨u, hu, by simp⟩
    refine ⟨_, if_pos hany, h.deleted u.id, ?_, ?_⟩
    · ext v
      simp
    · ext i
      simp

end Store

end Agora.Account
