import Agora.Account.Http
import Agora.Proofs.Account.LogIn

/-!
# What a log-in tells

Main result: `issueToken_reticent`. Credentials are answered with a token if they are good for an
active account, and all others with one and the same refusal, after one and the same call: whether
there is an account, whether the password fits and whether the account is active cannot be told
apart. So nothing is told of an account but what decides on that (`Twin`).

The service has no tokens for times before 1970, and says so to those whose credentials are good
(`entitled_before_1970`); nor has it any that would end after the last second there is, and whoever
asks for one gets no answer.
-/

namespace Agora.Account

open Exchange (errorFor missesFor)

variable {σ : Type} [Repository σ] {s : Service} {w : World σ} {faults : List Fault}
  {c : Credentials} {u : User}

/-- Every text that is stored for a password can be read. -/
def Legible (store : σ) : Prop := ∀ email u, Repository.userByEmail? store email = some u →
  ∃ text, Password.Phc.read? u.passwordHash.toList = some text

/-- The call of a log-in does not fail. -/
structure Answers (faults : List Fault) : Prop where
  calm : errorFor faults "users.get_by_email" = none
  there : missesFor faults "users.get_by_email" = false

/-- The account `u` is the one that the credentials are good for. -/
structure Entitled (s : Service) (store : σ) (c : Credentials) (u : User) : Prop where
  found : Repository.userByEmail? store (normalEmail c.email) = some u
  fits : s.scheme.check? u.passwordHash c.password = some true
  active : u.isActive = true

/-- Two accounts with the same id and the same passwords, both of them active or neither. -/
structure Twin (s : Service) (u u' : User) : Prop where
  id : u'.id = u.id
  isActive : u'.isActive = u.isActive
  fits : ∀ password, s.scheme.check? u'.passwordHash password = some true ↔
    s.scheme.check? u.passwordHash password = some true

/-- Two stores with twins for the same emails. -/
def Resembles {σ' : Type} [Repository σ'] (s : Service) (store : σ) (store' : σ') : Prop :=
  ∀ email, Option.Rel (Twin s) (Repository.userByEmail? store email)
    (Repository.userByEmail? store' email)

/-- A request to log in with credentials. -/
structure Posts (q : Http.Request) (t : Http.Target) (c : Credentials) : Prop where
  route : Route.ofSegments? t.segments = some .issueToken
  method : q.method = "POST"
  body : q.readBody Credentials.decode = .ok c

/-! ## The answer -/

/-- When its call does not fail, a log-in is the answer of the store looked at. -/
theorem issueToken_run (s : Service) (w : World σ) (h : Answers faults) (c : Credentials) :
    Event.run s w faults (.issueToken c) =
      (.ofResult .issued (s.logIn w c), [.userByEmail (normalEmail c.email)], w) := by
  cases hrun : Event.run s w faults (.issueToken c) with
  | mk outcome rest =>
    obtain ⟨calls, w'⟩ := rest
    cases run_happens hrun with
    | issued hways =>
      cases hways with
      | failed hfault => cases h.calm.symm.trans hfault
      | missed hfault => cases h.there.symm.trans hfault
      | told => rfl

/-- A text that can be read fits a password or does not. -/
theorem Legible.check?_ne_none {store : σ} (h : Legible store) (hscheme : s.scheme = .argon2)
    {email : String} (hfound : Repository.userByEmail? store email = some u) (password : String) :
    s.scheme.check? u.passwordHash password ≠ none := by
  obtain ⟨text, hread⟩ := h email u hfound
  rw [hscheme]
  show (Password.Phc.read? u.passwordHash.toList).map _ ≠ none
  rw [hread]
  exact Option.some_ne_none _

theorem logIn_of_entitled (h : Entitled s w.store c u) : s.logIn w c = s.session w.now u := by
  rw [logIn_of_found h.found h.fits, if_pos h.active]

/-- Whatever is wrong with credentials, the answer is the same. -/
theorem logIn_of_not_entitled (hscheme : s.scheme = .argon2) (hlegible : Legible w.store)
    (h : ∀ u, ¬Entitled s w.store c u) : s.logIn w c = .error (.refused .unauthorized) := by
  cases hfound : Repository.userByEmail? w.store (normalEmail c.email) with
  | none =>
    unfold Service.logIn
    rw [hfound]
  | some u =>
    cases hfits : s.scheme.check? u.passwordHash c.password with
    | none => exact absurd hfits (hlegible.check?_ne_none hscheme hfound c.password)
    | some fits =>
      cases fits with
      | false =>
        unfold Service.logIn Service.checkPassword
        simp only [hfound, hfits]
        rfl
      | true =>
        rw [logIn_of_found hfound hfits, if_neg fun hactive => h u ⟨hfound, hfits, hactive⟩]

theorem session_of_early (s : Service) {now : Time.Instant} (h : now.second < 0) (u : User) :
    s.session now u = .error (.refused .internal) := by
  obtain ⟨_, hnone⟩ | ⟨hover, _⟩ | ⟨hbegun, _⟩ := session_cases s now u
  · exact hnone
  · exact absurd h (Int.not_lt.mpr (second_of_overflow hover))
  · exact absurd h (Int.not_lt.mpr hbegun)

theorem session_of_overflow (s : Service) {now : Time.Instant}
    (h : (UInt64.size : Int) ≤ now.second + s.tokens.lifetime.toNat) (u : User) :
    s.session now u = .error .abandoned := by
  obtain ⟨hearly, _⟩ | ⟨_, hnone⟩ | ⟨_, hfits, _⟩ := session_cases s now u
  · exact absurd hearly (Int.not_lt.mpr (second_of_overflow h))
  · exact hnone
  · exact absurd hfits (Int.not_lt.mpr h)

theorem session_of_begun (s : Service) {now : Time.Instant} (h : 0 ≤ now.second)
    (hfits : now.second + s.tokens.lifetime.toNat < UInt64.size) (u : User) :
    ∃ token, s.tokens.issueFor now u.id = .ok token ∧ s.session now u = .ok token := by
  obtain ⟨hearly, _⟩ | ⟨hover, _⟩ | ⟨_, _, token, hissued, hsession, _⟩ := session_cases s now u
  · exact absurd hearly (Int.not_lt.mpr h)
  · exact absurd hfits (Int.not_lt.mpr hover)
  · exact ⟨token, hissued, hsession⟩

/-! ## Accounts that cannot be told apart -/

section

variable {σ' : Type} [Repository σ'] {store : σ} {store' : σ'}

theorem Twin.symm {u' : User} (h : Twin s u u') : Twin s u' u :=
  ⟨h.id.symm, h.isActive.symm, fun password => (h.fits password).symm⟩

/-- An email is unknown to both stores, or there are twins. -/
theorem Resembles.found_cases (h : Resembles s store store') (email : String) :
    (Repository.userByEmail? store email = none ∧ Repository.userByEmail? store' email = none) ∨
      ∃ u u', Repository.userByEmail? store email = some u ∧
        Repository.userByEmail? store' email = some u' ∧ Twin s u u' := by
  have hemail := h email
  generalize Repository.userByEmail? store email = found at hemail ⊢
  generalize Repository.userByEmail? store' email = found' at hemail ⊢
  cases hemail with
  | none => exact Or.inl ⟨rfl, rfl⟩
  | some htwin => exact Or.inr ⟨_, _, rfl, rfl, htwin⟩

theorem Resembles.symm (h : Resembles s store store') : Resembles s store' store := by
  intro email
  obtain ⟨hnone, hnone'⟩ | ⟨u, u', hfound, hfound', htwin⟩ := h.found_cases email
  · rw [hnone, hnone']
    exact .none
  · rw [hfound, hfound']
    exact .some htwin.symm

/-- Credentials that are good for an account are good for its twin. -/
theorem Resembles.entitled (h : Resembles s store store') (hu : Entitled s store c u) :
    ∃ u', Entitled s store' c u' ∧ u'.id = u.id := by
  obtain ⟨hnone, _⟩ | ⟨v, u', hfound, hfound', htwin⟩ := h.found_cases (normalEmail c.email)
  · cases hnone.symm.trans hu.found
  · cases hfound.symm.trans hu.found
    exact ⟨u', ⟨hfound', (htwin.fits _).mpr hu.fits, htwin.isActive.trans hu.active⟩, htwin.id⟩

theorem logIn_of_resembles (hscheme : s.scheme = .argon2) {w' : World σ'} (hnow : w'.now = w.now)
    (hlegible : Legible w.store) (hlegible' : Legible w'.store)
    (h : Resembles s w.store w'.store) : s.logIn w' c = s.logIn w c := by
  by_cases hentitled : ∃ u, Entitled s w.store c u
  · obtain ⟨u, hu⟩ := hentitled
    obtain ⟨u', hu', hid⟩ := h.entitled hu
    rw [logIn_of_entitled hu, logIn_of_entitled hu', hnow]
    unfold Service.session
    rw [hid]
  · have hnone : ∀ u, ¬Entitled s w.store c u := fun u hu => hentitled ⟨u, hu⟩
    have hnone' : ∀ u', ¬Entitled s w'.store c u' := by
      intro u' hu'
      obtain ⟨u, hu, _⟩ := h.symm.entitled hu'
      exact hnone u hu
    rw [logIn_of_not_entitled hscheme hlegible hnone,
      logIn_of_not_entitled hscheme hlegible' hnone']

end

/-! ## Log-ins -/

/-- A run of a log-in, as far as it is about what is told. -/
structure Reticent (s : Service) (w : World σ) (faults : List Fault) (c : Credentials)
    (run : Outcome × List Call × World σ) : Prop where
  token_iff : (∃ token, run.1 = .issued (.ok token)) ↔
    0 ≤ w.now.second ∧ w.now.second + s.tokens.lifetime.toNat < UInt64.size ∧
      ∃ u, Entitled s w.store c u
  /-- The token is for the account's id. -/
  token : ∀ u, Entitled s w.store c u → 0 ≤ w.now.second →
    w.now.second + s.tokens.lifetime.toNat < UInt64.size →
      ∃ token, s.tokens.issueFor w.now u.id = .ok token ∧ run.1 = .issued (.ok token)
  early : ∀ u, Entitled s w.store c u → w.now.second < 0 → run.1 = .issued (.error .internal)
  /-- Where the token would end after the last second there is, nothing is answered. -/
  abandoned : ∀ u, Entitled s w.store c u →
    (UInt64.size : Int) ≤ w.now.second + s.tokens.lifetime.toNat → run.1 = .abandoned
  /-- All others are told the same, -/
  refused : (∀ u, ¬Entitled s w.store c u) → run.1 = .issued (.error .unauthorized)
  /-- with the same status and body, -/
  response : (∀ u, ¬Entitled s w.store c u) → ∀ (f : Front) (q : Http.Request) (t : Http.Target)
    (fresh : Fresh), f.service = s → Posts q t c →
      (f.handle q t fresh (w.exchange faults)).1 = some (.error 401 "Unauthorized")
  /-- after the same call. -/
  quiet : run.2 = ([.userByEmail (normalEmail c.email)], w)
  /-- What the password of an unknown email is checked against makes no difference, -/
  decoy : ∀ decoy, Event.run { s with decoy } w faults (.issueToken c) = run
  /-- nor does anything of an account that its twin has not. -/
  twin : ∀ {σ' : Type} [Repository σ'] (w' : World σ') (faults' : List Fault), w'.now = w.now →
    Legible w'.store → Answers faults' → Resembles s w.store w'.store →
      Event.run s w' faults' (.issueToken c) = (run.1, run.2.1, w')

theorem handle_of_refused {f : Front} {q : Http.Request} {t : Http.Target} {fresh : Fresh}
    (hposts : Posts q t c) (hcalm : Answers faults)
    (hrefused : f.service.logIn w c = .error (.refused .unauthorized)) :
    (f.handle q t fresh (w.exchange faults)).1 = some (.error 401 "Unauthorized") := by
  have hhandle : f.handle q t fresh (w.exchange faults) = f.issueToken q (w.exchange faults) := by
    unfold Front.handle
    simp only [hposts.route, Route.hasMethod, hposts.method, decide_true, if_true]
  have hrun : (f.service.issueToken c (w.exchange faults)).1 = f.service.logIn w c := by
    have hissued := congrArg (·.1) (issueToken_run f.service w hcalm c)
    exact Outcome.issued_injective hissued
  rw [hhandle]
  unfold Front.issueToken
  rw [hposts.body]
  simp only [bind, StateT.bind, ExceptT.run]
  rw [hrefused] at hrun
  cases hissue : f.service.issueToken c (w.exchange faults) with
  | mk result x =>
    rw [hissue] at hrun
    obtain rfl : result = _ := hrun
    rfl

/-- Every log-in is reticent, whatever accounts there are, as long as what is stored for them can be
read and the store answers. -/
theorem issueToken_reticent (s : Service) (hscheme : s.scheme = .argon2) (w : World σ)
    (hlegible : Legible w.store) (faults : List Fault) (hcalm : Answers faults) (c : Credentials) :
    Reticent s w faults c (Event.run s w faults (.issueToken c)) := by
  have hrefused : (∀ u, ¬Entitled s w.store c u) → s.logIn w c = .error (.refused .unauthorized) :=
    logIn_of_not_entitled hscheme hlegible
  rw [issueToken_run s w hcalm c]
  refine ⟨?token_iff, ?token, ?early, ?abandoned, ?refused, ?response, rfl, ?decoy, ?twin⟩
  case token_iff =>
    constructor
    · rintro ⟨token, htoken⟩
      obtain ⟨u, hfound, hfits, hactive, hsession⟩ := logIn_eq_ok (Outcome.issued_injective htoken)
      have hbegun : 0 ≤ w.now.second := Int.not_lt.mp fun hearly => by
        cases (session_of_early s hearly u).symm.trans hsession
      have hends : w.now.second + s.tokens.lifetime.toNat < UInt64.size :=
        Int.not_le.mp fun hover => by
          cases (session_of_overflow s hover u).symm.trans hsession
      exact ⟨hbegun, hends, u, hfound, hfits, hactive⟩
    · rintro ⟨hbegun, hends, u, hu⟩
      obtain ⟨token, _, hsession⟩ := session_of_begun s hbegun hends u
      exact ⟨token, congrArg (Outcome.ofResult .issued) ((logIn_of_entitled hu).trans hsession)⟩
  case token =>
    intro u hu hbegun hends
    obtain ⟨token, hissued, hsession⟩ := session_of_begun s hbegun hends u
    exact ⟨token, hissued,
      congrArg (Outcome.ofResult .issued) ((logIn_of_entitled hu).trans hsession)⟩
  case early =>
    intro u hu hearly
    exact congrArg (Outcome.ofResult .issued)
      ((logIn_of_entitled hu).trans (session_of_early s hearly u))
  case abandoned =>
    intro u hu hover
    exact congrArg (Outcome.ofResult .issued)
      ((logIn_of_entitled hu).trans (session_of_overflow s hover u))
  case refused => exact fun hnone => congrArg (Outcome.ofResult .issued) (hrefused hnone)
  case response =>
    rintro hnone f q t fresh rfl hposts
    exact handle_of_refused hposts hcalm (hrefused hnone)
  case decoy => exact fun decoy => issueToken_run { s with decoy } w hcalm c
  case twin =>
    intro σ' _ w' faults' hnow hlegible' hcalm' hresembles
    rw [issueToken_run s w' hcalm' c,
      logIn_of_resembles hscheme hnow hlegible hlegible' hresembles]

/-! ## Accounts to log in to -/

def sampleAda (hash : String) : User where
  id := 1
  username := "ada"
  email := "ada@math.org"
  passwordHash := hash
  isActive := true
  roleId := 1
  createdAt := newYear

/-- Her account is not active. -/
def sampleGrace (hash : String) : User where
  id := 2
  username := "grace"
  email := "grace@math.org"
  passwordHash := hash
  isActive := false
  roleId := 1
  createdAt := newYear

/-- Two accounts with the same stored password. -/
def sampleAccounts (hash : String) (now : Time.Instant) : World where
  store := { users := [sampleAda hash, sampleGrace hash], lastId := 2 }
  now := now

/-- What is stored for it. -/
def sampleHash : String := Password.Scheme.argon2.store sampleFresh.salt "password1"

theorem legible_sampleAccounts (now : Time.Instant) :
    Legible (sampleAccounts sampleHash now).store := by
  have hlow : 8 ≤ sampleFresh.salt.length := by decide
  have hfits : (Password.Phc.read? sampleHash.toList).map _ = some true :=
    Password.check?_store hlow (by decide) "password1"
  obtain ⟨text, hread, _⟩ := Option.map_eq_some_iff.mp hfits
  intro email u hfound
  refine ⟨text, ?_⟩
  generalize sampleHash = hash at hfound hread
  change [sampleAda hash, sampleGrace hash].find? (·.email = email) = some u at hfound
  have hu := List.mem_of_find?_eq_some hfound
  rcases List.mem_pair.mp hu with rfl | rfl <;> exact hread

theorem entitled_sampleAda (now : Time.Instant) : Entitled (sampleService 3600)
    (sampleAccounts sampleHash now).store sampleCredentials (sampleAda sampleHash) := by
  have hspelling : normalEmail sampleCredentials.email = "ada@math.org" := by decide +kernel
  refine ⟨?_, Password.check?_store (by decide) (by decide) _, rfl⟩
  rw [hspelling]
  generalize sampleHash = hash
  rfl

/-- Ada is logged in, Grace is not, and neither is somebody who has no account. -/
theorem issueToken_reticent_sample :
    (∃ token, (Event.run (sampleService 3600) (sampleAccounts sampleHash newYear) []
      (.issueToken sampleCredentials)).1 = .issued (.ok token)) ∧
    ∀ email ∈ ["grace@math.org", "emmy@math.org"],
      (Event.run (sampleService 3600) (sampleAccounts sampleHash newYear) []
        (.issueToken { sampleCredentials with email })).1 = .issued (.error .unauthorized) := by
  have hlegible := legible_sampleAccounts newYear
  constructor
  · exact (issueToken_reticent (sampleService 3600) rfl (sampleAccounts sampleHash newYear) hlegible
      [] ⟨rfl, rfl⟩ sampleCredentials).token_iff.mpr
        ⟨by decide, by decide, _, entitled_sampleAda newYear⟩
  · intro email hemail
    refine (issueToken_reticent (sampleService 3600) rfl (sampleAccounts sampleHash newYear)
      hlegible [] ⟨rfl, rfl⟩ { sampleCredentials with email }).refused ?_
    -- of the two, one finds an account that is not active, and the other finds none
    have hspelling : normalEmail "grace@math.org" = "grace@math.org" ∧
        normalEmail "emmy@math.org" = "emmy@math.org" := by decide +kernel
    generalize sampleHash = hash
    rintro u ⟨hfound, _, hactive⟩
    rcases List.mem_pair.mp hemail with rfl | rfl
    · rw [hspelling.1] at hfound
      cases hfound
      cases hactive
    · rw [hspelling.2] at hfound
      cases hfound

/-- The credentials of an account that was there in 2024 are told apart from others when the clock
has been set back to before 1970, though not by a token. -/
theorem entitled_before_1970 : Legible (sampleAccounts sampleHash newYear).store ∧ ∃ u m₁ m₂,
    Entitled (sampleService 3600) (sampleAccounts sampleHash newYear).store sampleCredentials u ∧
      history (sampleService 3600) (sampleAccounts sampleHash newYear)
        [([], .setClock beforeEpoch), ([], .issueToken sampleCredentials)] = [m₁, m₂] ∧
      m₂.before = sampleAccounts sampleHash beforeEpoch ∧
      m₂.outcome = .issued (.error .internal) := by
  have hu := entitled_sampleAda beforeEpoch
  refine ⟨legible_sampleAccounts newYear, _, _, _, entitled_sampleAda newYear, rfl, ?_, ?_⟩
  · exact Moment.of_before _ _ _ _
  · rw [Moment.of_outcome]
    have hcalm : Answers [] := ⟨rfl, rfl⟩
    have hrun := issueToken_run (sampleService 3600) (sampleAccounts sampleHash beforeEpoch) hcalm
      sampleCredentials
    rw [logIn_of_entitled hu, session_of_early _ (by decide)] at hrun
    exact congrArg (·.1) hrun

end Agora.Account
