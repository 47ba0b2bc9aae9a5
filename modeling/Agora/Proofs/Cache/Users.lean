import Agora.Cache.Users
import Agora.Proofs.Records

/-!
# The cache is a map from ids to users

Main results: `get_putAll`, after any users were put into the cache each id has the one that was put
last, for five minutes and under no other id; and `get_up`, which says that the text under the key
is all that decides. `get_spec` is the whole contract.

The step is `entryAt_insert`: putting a user changes what is under its own key, and keys of
different ids are different (`key_inj`).
-/

namespace Agora.Cache

/-! ## Entries of a server -/

namespace Server

/-- The entry of a key, its time over or not. -/
def entryAt (s : Server) (key : String) : Option Entry := s.entries.find? (·.key = key)

theorem entryAt_insert (s : Server) (e : Entry) (key : String) :
    (s.insert e).entryAt key = if e.key = key then some e else s.entryAt key := by
  unfold entryAt insert
  by_cases hkey : e.key = key
  · rw [if_pos hkey]
    exact List.find?_cons_of_pos (by simpa using hkey)
  · rw [if_neg hkey, List.find?_cons_of_neg (by simpa using hkey)]
    -- the entries that are erased are of the other key
    unfold erase
    rw [List.find?_filter]
    congr 1
    funext other
    by_cases hother : other.key = key
    · simp [hother, Ne.symm hkey]
    · simp [hother]

end Server

namespace Users

/-- Different ids have different keys. -/
theorem key_inj {id other : Int} (h : key id = key other) : id = other := by
  unfold key at h
  exact Decimal.text_inj ((String.append_right_inj _).mp h)

/-- What is kept of a user can be read again. -/
theorem ofText_text {u : User} (h : u.Fits) : ofText u.toJson.text = .ok u := by
  have hread : User.decode (Json.Scan.ofText u.toJson.text) = .ok u :=
    readsBack (User.decode_toJson h)
  unfold ofText
  rw [hread]

/-! ## What is under a key -/

variable {server : Server} {link : Link} {now : Time.Instant} {id : Int} {u : User}

theorem get_up (server : Server) (now : Time.Instant) (id : Int) :
    (get (.up server) now id).1 =
      match server.get? now (key id) with
      | none => .ok none
      | some text => (ofText text).map some := by
  unfold get Link.get Link.send Server.run
  simp only [Bool.false_eq_true, if_false]
  cases server.get? now (key id) with
  | none => rfl
  | some text => rfl

theorem ofText_eq_ok {text : String} :
    ofText text = .ok u ↔ User.decode (Json.Scan.ofText text) = .ok u := by
  unfold ofText
  cases User.decode (Json.Scan.ofText text) with
  | ok found => simp
  | error defect => simp

theorem ofText_eq_error {text : String} :
    ofText text = .error .undecodable ↔ ∀ u, User.decode (Json.Scan.ofText text) ≠ .ok u := by
  unfold ofText
  cases User.decode (Json.Scan.ofText text) with
  | ok found => simp
  | error defect => simp

/-- A user is had only from a text that stands for it. -/
theorem get_eq_user : (get (.up server) now id).1 = .ok (some u) ↔
    ∃ text, server.get? now (key id) = some text ∧
      User.decode (Json.Scan.ofText text) = .ok u := by
  rw [get_up]
  cases server.get? now (key id) with
  | none => simp
  | some text =>
    simp only [Option.some.injEq, exists_eq_left']
    rw [← ofText_eq_ok]
    cases ofText text with
    | ok found => simp [Except.map]
    | error e => simp [Except.map]

/-- Nobody is had only where there is no text. -/
theorem get_eq_none :
    (get (.up server) now id).1 = .ok none ↔ server.get? now (key id) = none := by
  rw [get_up]
  cases server.get? now (key id) with
  | none => simp
  | some text =>
    show (ofText text).map some = .ok none ↔ some text = none
    cases ofText text with
    | ok found => simp [Except.map]
    | error e => simp [Except.map]

/-- A text that stands for no user is a failure. -/
theorem get_eq_error : (get (.up server) now id).1 = .error .undecodable ↔
    ∃ text, server.get? now (key id) = some text ∧
      ∀ u, User.decode (Json.Scan.ofText text) ≠ .ok u := by
  rw [get_up]
  cases server.get? now (key id) with
  | none => simp
  | some text =>
    simp only [Option.some.injEq, exists_eq_left']
    rw [← ofText_eq_error]
    cases ofText text with
    | ok found => simp [Except.map]
    | error e => simp [Except.map]

/-! ## Histories -/

/-- A user that is put into the cache. The command fails if `failing` is set. -/
structure Put where
  time : Time.Instant
  user : User
  failing : Bool

/-- What becomes of the cache when users are put into it one after the other. -/
def putAll (link : Link) : List Put → Link
  | [] => link
  | p :: rest => putAll (set link p.time p.user p.failing).2 rest

/-- The last that was put under an id. -/
def latest? (id : Int) (puts : List Put) : Option Put :=
  puts.reverse.find? fun p => p.user.id = id && !p.failing

/-- The user that was put under an id last, if less than 300 seconds have passed since. -/
def current? (now : Time.Instant) (id : Int) (puts : List Put) : Option User :=
  ((latest? id puts).filter fun p => nanos now - nanos p.time < 300 * 1000000000).map (·.user)

/-- What a server keeps of a user. -/
def Put.entry (p : Put) : Entry :=
  ⟨key p.user.id, p.user.toJson.text, some (nanos p.time + lifetime * 1000000000)⟩

theorem set_up (server : Server) (p : Put) :
    (set (.up server) p.time p.user p.failing).2 =
      .up (if p.failing then server else server.insert p.entry) := by
  unfold set Link.set Link.send
  cases p.failing with
  | true => rfl
  | false => rfl

theorem latest?_cons (id : Int) (p : Put) (rest : List Put) :
    latest? id (p :: rest) =
      (latest? id rest).or (if p.user.id = id ∧ p.failing = false then some p else none) := by
  unfold latest?
  rw [List.reverse_cons, List.find?_append]
  congr 1
  by_cases hp : p.user.id = id ∧ p.failing = false
  · simp [hp]
  · rw [if_neg hp, List.find?_cons_of_neg (by simpa using hp), List.find?_nil]

/-- Under the key of an id is what was put there last, or else what was there before. -/
theorem putAll_up (server : Server) (puts : List Put) :
    ∃ after, putAll (.up server) puts = .up after ∧
      ∀ id, after.entryAt (key id) =
        ((latest? id puts).map Put.entry).or (server.entryAt (key id)) := by
  induction puts generalizing server with
  | nil => exact ⟨server, rfl, fun id => rfl⟩
  | cons p rest ih =>
    obtain ⟨after, hafter, hentry⟩ := ih (if p.failing then server else server.insert p.entry)
    refine ⟨after, ?_, ?_⟩
    · rw [putAll, set_up, hafter]
    · intro id
      rw [hentry, latest?_cons]
      cases latest? id rest with
      | some later => rfl
      | none =>
        rw [Option.map_none, Option.none_or, Option.none_or]
        by_cases hfailing : p.failing = true
        · rw [if_pos hfailing, if_neg (by simp [hfailing])]
          rfl
        · have hkey : p.entry.key = key p.user.id := rfl
          rw [if_neg hfailing, Server.entryAt_insert, hkey]
          by_cases hid : p.user.id = id
          · rw [if_pos (congrArg key hid), if_pos ⟨hid, by simpa using hfailing⟩]
            rfl
          · rw [if_neg fun hkey => hid (key_inj hkey), if_neg fun hboth => hid hboth.1]
            rfl

theorem mem_of_latest? {puts : List Put} {p : Put} (h : latest? id puts = some p) :
    p ∈ puts ∧ p.user.id = id := by
  have hid := List.find?_some h
  simp only [Bool.and_eq_true, decide_eq_true_eq] at hid
  exact ⟨List.mem_reverse.mp (List.mem_of_find?_eq_some h), hid.1⟩

/-- An id has the user that was put last, until its time is over. -/
theorem get_putAll {puts : List Put} (hfits : ∀ p ∈ puts, p.user.Fits)
    (hempty : ∀ id, server.entryAt (key id) = none) (now : Time.Instant) (id : Int) :
    (get (putAll (.up server) puts) now id).1 = .ok (current? now id puts) := by
  obtain ⟨after, hafter, hentry⟩ := putAll_up server puts
  have hunder : after.entryAt (key id) = (latest? id puts).map Put.entry := by
    rw [hentry, hempty, Option.or_none]
  have htext : after.get? now (key id) =
      ((after.entryAt (key id)).filter fun e => e.goneAt.all (nanos now < ·)).map (·.value) := rfl
  rw [hafter, get_up, htext, hunder]
  unfold current?
  cases hlatest : latest? id puts with
  | none => rfl
  | some p =>
    have hread := ofText_text (hfits p (mem_of_latest? hlatest).1)
    have htime : nanos now < nanos p.time + lifetime * 1000000000 ↔
        nanos now - nanos p.time < 300 * 1000000000 := by
      unfold lifetime
      omega
    rw [Option.map_some, Option.filter_some, Option.filter_some]
    by_cases hlive : nanos now - nanos p.time < 300 * 1000000000
    · rw [if_pos (by simpa [Put.entry] using htime.mpr hlive), if_pos (by simpa using hlive)]
      show (ofText p.user.toJson.text).map some = _
      rw [hread]
      rfl
    · rw [if_neg (by simpa [Put.entry] using fun h => hlive (htime.mp h)),
        if_neg (by simpa using hlive)]
      rfl

/-- No record that was put under another id is had. -/
theorem id_of_current? {puts : List Put} (h : current? now id puts = some u) : u.id = id := by
  unfold current? at h
  obtain ⟨p, hp, rfl⟩ := Option.map_eq_some_iff.mp h
  exact (mem_of_latest? (Option.filter_eq_some_iff.mp hp).1).2

/-! ## The contract -/

/-- The cache is a map from ids to users with a lifetime, and a miss, a failure and a text that
stands for no user are never taken for each other. -/
theorem get_spec :
    (∀ (puts : List Put) (server : Server), (∀ p ∈ puts, p.user.Fits) →
      (∀ id, server.entryAt (key id) = none) → ∀ now id,
        (get (putAll (.up server) puts) now id).1 = .ok (current? now id puts) ∧
          ∀ u, (get (putAll (.up server) puts) now id).1 = .ok (some u) → u.id = id) ∧
      (∀ server now id,
        (∀ u, (get (.up server) now id).1 = .ok (some u) ↔
          ∃ text, server.get? now (key id) = some text ∧
            User.decode (Json.Scan.ofText text) = .ok u) ∧
          ((get (.up server) now id).1 = .ok none ↔ server.get? now (key id) = none) ∧
          ((get (.up server) now id).1 = .error .undecodable ↔
            ∃ text, server.get? now (key id) = some text ∧
              ∀ u, User.decode (Json.Scan.ofText text) ≠ .ok u)) ∧
      (∀ server now id, (get (.up server) now id true).1 = .error .refused) ∧
      ∀ now id failing, (get .down now id failing).1 = .error .unreachable := by
  refine ⟨?_, fun _ _ _ => ⟨fun _ => get_eq_user, get_eq_none, get_eq_error⟩,
    fun _ _ _ => rfl, fun _ _ _ => rfl⟩
  intro puts server hfits hempty now id
  have hget := get_putAll hfits hempty now id
  refine ⟨hget, ?_⟩
  intro u hu
  rw [hget] at hu
  exact id_of_current? (Except.ok.inj hu)

/-- A user that is put twice, and a third time in vain. -/
def changed : List Put :=
  [⟨⟨0, 0, by decide⟩, extremeUser, false⟩,
    ⟨⟨100, 0, by decide⟩, { extremeUser with isActive := true }, false⟩,
    ⟨⟨200, 0, by decide⟩, extremeUser, true⟩]

theorem get_spec_changed :
    (∀ p ∈ changed, p.user.Fits) ∧ (∀ id, ({} : Server).entryAt (key id) = none) ∧
      (get (putAll (.up {}) changed) ⟨399, 999999999, by decide⟩ extremeUser.id).1 =
        .ok (some { extremeUser with isActive := true }) ∧
      (get (putAll (.up {}) changed) ⟨400, 0, by decide⟩ extremeUser.id).1 = .ok none := by
  have hrole : extremeUser.role.Fits := ⟨by decide, by decide⟩
  have hfits : ∀ p ∈ changed, p.user.Fits := by
    simp only [changed, List.forall_mem_cons]
    exact ⟨⟨by decide, hrole⟩, ⟨by decide, hrole⟩, ⟨by decide, hrole⟩, by simp⟩
  have hempty : ∀ id, ({} : Server).entryAt (key id) = none := fun _ => rfl
  have hget := get_spec.1 changed {} hfits hempty
  exact ⟨hfits, hempty, (hget _ _).1.trans (by rfl), (hget _ _).1.trans (by rfl)⟩

end Users

end Agora.Cache
