import Agora.Proofs.Text.Base64
import Agora.Proofs.Text.Split
import Agora.Proofs.Token.Header
import Agora.Token.Service

/-!
# What validation accepts, and why it refuses

`Verdict` says what the answer to a token has to be, one case for each answer, without reading the
token the way the service does: a case speaks of the parts of the text, of the documents that they
are the written form of, and of the signature that belongs there. `validateAt_verdict` is the main
result: in every second validation answers with the verdict, and a token that it accepts is the
only one for its header and claims.
-/

namespace Agora.Token

open Json (Decoder Scan)

/-- The token is three parts without points, joined by points. -/
def Parts (token : String) (head body signature : List Char) : Prop :=
  token.toList = head ++ '.' :: (body ++ '.' :: signature) ∧
    '.' ∉ head ∧ '.' ∉ body ∧ '.' ∉ signature

/-- A part is the Base64 form of bytes that spell a document. -/
def Spells (part : List Char) (document : Scan) : Prop :=
  ∃ bytes, part = Text.Base64.urlSafe.encode bytes ∧ document = Scan.ofBytes bytes

/-- A part is the Base64 form of a document in which the decoder finds the value. -/
def Holds {α : Type} (decode : Decoder α) (part : List Char) (a : α) : Prop :=
  ∃ document, Spells part document ∧ decode document = .ok a

/-- The signature of a message: its HMAC with SHA-256 under the secret, in Base64. -/
def signed (secret : String) (message : List Char) : List Char :=
  Text.Base64.urlSafe.encode
    (Digest.Sha256.hmac (Text.Utf8.encode secret) (Text.Utf8.encodeChars message))

/-- The token carries the claims under a header that names the one algorithm, with the signature
that belongs to the two. -/
def Genuine (s : Service) (token : String) (c : Claims) : Prop :=
  ∃ head body, Parts token head body (signed s.secret (head ++ '.' :: body)) ∧
    Holds header head .hs256 ∧ Holds Claims.decode body c

/-- The answer that a token has to get in a second. -/
inductive Verdict (s : Service) (second : UInt64) (token : String) :
    Except TokenError Claims → Prop
  | notThreeParts (h : ∀ head body signature, ¬Parts token head body signature) :
      Verdict s second token (.error .malformed)
  | unreadableHeader {head body signature : List Char} (hparts : Parts token head body signature)
      (hheader : ∀ a, ¬Holds header head a) :
      Verdict s second token (.error .malformed)
  | otherAlgorithm {head body signature : List Char} {a : Algorithm}
      (hparts : Parts token head body signature) (hheader : Holds header head a)
      (hother : a ≠ .hs256) :
      Verdict s second token (.error .wrongAlgorithm)
  | forged {head body signature : List Char} (hparts : Parts token head body signature)
      (hheader : Holds header head .hs256)
      (hforged : signature ≠ signed s.secret (head ++ '.' :: body)) :
      Verdict s second token (.error .badSignature)
  | unreadableClaims {head body : List Char}
      (hparts : Parts token head body (signed s.secret (head ++ '.' :: body)))
      (hheader : Holds header head .hs256) (hclaims : ∀ c, ¬Holds Claims.decode body c) :
      Verdict s second token (.error .malformed)
  | expired {c : Claims} (hgenuine : Genuine s token c) (hlate : c.expiresAt < second) :
      Verdict s second token (.error .expired)
  | notYetValid {c : Claims} (hgenuine : Genuine s token c) (hlive : second ≤ c.expiresAt)
      (hearly : second < c.notBefore) :
      Verdict s second token (.error .notYetValid)
  | wrongIssuer {c : Claims} (hgenuine : Genuine s token c) (hlive : second ≤ c.expiresAt)
      (hbegun : c.notBefore ≤ second) (hissuer : c.issuer ≠ s.issuer) :
      Verdict s second token (.error .wrongIssuer)
  | wrongAudience {c : Claims} (hgenuine : Genuine s token c) (hlive : second ≤ c.expiresAt)
      (hbegun : c.notBefore ≤ second) (hissuer : c.issuer = s.issuer)
      (haudience : c.audience ≠ s.audience) :
      Verdict s second token (.error .wrongAudience)
  | accepted {c : Claims} (hgenuine : Genuine s token c) (hlive : second ≤ c.expiresAt)
      (hbegun : c.notBefore ≤ second) (hissuer : c.issuer = s.issuer)
      (haudience : c.audience = s.audience) :
      Verdict s second token (.ok c)

/-! ## Parts and documents -/

theorem parts_iff {token : String} {head body signature : List Char} :
    Parts token head body signature ↔
      Text.splitAt (· = '.') token.toList = [head, body, signature] :=
  Text.splitAt_eq_three.symm

/-- A token has its parts in one way only. -/
theorem Parts.unique {token : String} {head body signature head' body' signature' : List Char}
    (h : Parts token head body signature) (h' : Parts token head' body' signature') :
    head = head' ∧ body = body' ∧ signature = signature' := by
  rw [parts_iff] at h h'
  rw [h] at h'
  simpa using h'

theorem document?_eq_some {part : List Char} {document : Scan} :
    document? part = some document ↔ Spells part document := by
  unfold document? Spells
  rw [Option.map_eq_some_iff]
  constructor
  · rintro ⟨bytes, hbytes, rfl⟩
    rw [Text.Base64.Alphabet.decode?_eq_some Text.Base64.Alphabet.isProper_urlSafe] at hbytes
    exact ⟨bytes, hbytes, rfl⟩
  · rintro ⟨bytes, hpart, rfl⟩
    refine ⟨bytes, ?_, rfl⟩
    rw [Text.Base64.Alphabet.decode?_eq_some Text.Base64.Alphabet.isProper_urlSafe]
    exact hpart

theorem read_eq_ok {α : Type} {decode : Decoder α} {part : List Char} {a : α} :
    read decode part = .ok a ↔ Holds decode part a := by
  unfold read Holds
  constructor
  · intro h
    split at h
    next b hb =>
      cases h
      obtain ⟨document, hdocument, hdecode⟩ := Option.map_eq_some_iff.mp hb
      exact ⟨document, document?_eq_some.mp hdocument, hdecode⟩
    next => cases h
  · rintro ⟨document, hspells, hdecode⟩
    rw [document?_eq_some.mpr hspells, Option.map_some, hdecode]

/-- What holds no value cannot be read. -/
theorem read_of_not_holds {α : Type} {decode : Decoder α} {part : List Char}
    (h : ∀ a, ¬Holds decode part a) : read decode part = .error .malformed := by
  cases hread : read decode part with
  | ok a => exact absurd (read_eq_ok.mp hread) (h a)
  | error e =>
    unfold read at hread
    split at hread
    next => cases hread
    next => exact hread.symm

/-! ## The verdict is what validation answers -/

section

variable {s : Service} {token : String} {second : UInt64}

/-- The check of a token whose parts are known. -/
theorem verify_of_parts {head body signature : List Char}
    (h : Parts token head body signature) :
    s.verify token = (do
      let algorithm ← read header head
      if algorithm ≠ .hs256 then .error .wrongAlgorithm
      else if signature ≠ signed s.secret (head ++ '.' :: body) then .error .badSignature
      else read Claims.decode body) := by
  unfold Service.verify
  rw [parts_iff.mp h]
  rfl

theorem verify_of_not_parts (h : ∀ head body signature, ¬Parts token head body signature) :
    s.verify token = .error .malformed := by
  unfold Service.verify
  split
  next head body signature hparts => exact absurd (parts_iff.mpr hparts) (h head body signature)
  next => rfl

/-- The claims of a token that may have been signed are those that it carries. -/
theorem verify_eq_ok {c : Claims} : s.verify token = .ok c ↔ Genuine s token c := by
  constructor
  · intro h
    by_cases hparts : ∃ head body signature, Parts token head body signature
    · obtain ⟨head, body, signature, hparts⟩ := hparts
      rw [verify_of_parts hparts] at h
      obtain ⟨a, ha, hrest⟩ := Result.bind_eq_ok.mp h
      split at hrest
      next => cases hrest
      next halgorithm =>
        split at hrest
        next => cases hrest
        next hsignature =>
          rw [Decidable.not_not] at halgorithm hsignature
          subst halgorithm hsignature
          exact ⟨head, body, hparts, read_eq_ok.mp ha, read_eq_ok.mp hrest⟩
    · rw [verify_of_not_parts fun head body signature h => hparts ⟨head, body, signature, h⟩] at h
      cases h
  · rintro ⟨head, body, hparts, hheader, hclaims⟩
    rw [verify_of_parts hparts, read_eq_ok.mpr hheader, read_eq_ok.mpr hclaims]
    simp [bind, Except.bind]

theorem validateAt_of_genuine {c : Claims} (h : Genuine s token c) :
    s.validateAt second token = s.accept second c := by
  unfold Service.validateAt
  rw [verify_eq_ok.mpr h]
  rfl

theorem validateAt_of_verify_error {e : TokenError} (h : s.verify token = .error e) :
    s.validateAt second token = .error e := by
  unfold Service.validateAt
  rw [h]
  rfl

theorem validateAt_of_verdict {r : Except TokenError Claims} (h : Verdict s second token r) :
    s.validateAt second token = r := by
  cases h with
  | notThreeParts h => exact validateAt_of_verify_error (verify_of_not_parts h)
  | unreadableHeader hparts hheader =>
    apply validateAt_of_verify_error
    rw [verify_of_parts hparts, read_of_not_holds hheader]
    rfl
  | otherAlgorithm hparts hheader hother =>
    apply validateAt_of_verify_error
    rw [verify_of_parts hparts, read_eq_ok.mpr hheader]
    exact if_pos hother
  | forged hparts hheader hforged =>
    apply validateAt_of_verify_error
    rw [verify_of_parts hparts, read_eq_ok.mpr hheader]
    exact if_pos hforged
  | unreadableClaims hparts hheader hclaims =>
    apply validateAt_of_verify_error
    rw [verify_of_parts hparts, read_eq_ok.mpr hheader, read_of_not_holds hclaims]
    exact if_neg (by simp)
  | expired hgenuine hlate =>
    rw [validateAt_of_genuine hgenuine, Service.accept, if_pos hlate]
  | notYetValid hgenuine hlive hearly =>
    rw [validateAt_of_genuine hgenuine, Service.accept, if_neg (UInt64.not_lt.mpr hlive),
      if_pos hearly]
  | wrongIssuer hgenuine hlive hbegun hissuer =>
    rw [validateAt_of_genuine hgenuine, Service.accept, if_neg (UInt64.not_lt.mpr hlive),
      if_neg (UInt64.not_lt.mpr hbegun), if_pos hissuer]
  | wrongAudience hgenuine hlive hbegun hissuer haudience =>
    rw [validateAt_of_genuine hgenuine, Service.accept, if_neg (UInt64.not_lt.mpr hlive),
      if_neg (UInt64.not_lt.mpr hbegun), if_neg (Decidable.not_not.mpr hissuer),
      if_pos haudience]
  | accepted hgenuine hlive hbegun hissuer haudience =>
    rw [validateAt_of_genuine hgenuine, Service.accept, if_neg (UInt64.not_lt.mpr hlive),
      if_neg (UInt64.not_lt.mpr hbegun), if_neg (Decidable.not_not.mpr hissuer),
      if_neg (Decidable.not_not.mpr haudience)]

/-- Every token gets a verdict. -/
theorem exists_verdict (s : Service) (second : UInt64) (token : String) :
    ∃ r, Verdict s second token r := by
  by_cases hparts : ∃ head body signature, Parts token head body signature
  case neg =>
    exact ⟨_, .notThreeParts fun head body signature h => hparts ⟨head, body, signature, h⟩⟩
  obtain ⟨head, body, signature, hparts⟩ := hparts
  by_cases hheader : ∃ a, Holds header head a
  case neg => exact ⟨_, .unreadableHeader hparts fun a h => hheader ⟨a, h⟩⟩
  obtain ⟨a, hheader⟩ := hheader
  by_cases ha : a = .hs256
  case neg => exact ⟨_, .otherAlgorithm hparts hheader ha⟩
  subst ha
  by_cases hsignature : signature = signed s.secret (head ++ '.' :: body)
  case neg => exact ⟨_, .forged hparts hheader hsignature⟩
  subst hsignature
  by_cases hclaims : ∃ c, Holds Claims.decode body c
  case neg => exact ⟨_, .unreadableClaims hparts hheader fun c h => hclaims ⟨c, h⟩⟩
  -- from here on the token is genuine, and its claims decide
  obtain ⟨c, hclaims⟩ := hclaims
  have hgenuine : Genuine s token c := ⟨head, body, hparts, hheader, hclaims⟩
  by_cases hlate : c.expiresAt < second
  case pos => exact ⟨_, .expired hgenuine hlate⟩
  by_cases hearly : second < c.notBefore
  case pos => exact ⟨_, .notYetValid hgenuine (UInt64.not_lt.mp hlate) hearly⟩
  by_cases hissuer : c.issuer = s.issuer
  case neg =>
    exact ⟨_, .wrongIssuer hgenuine (UInt64.not_lt.mp hlate) (UInt64.not_lt.mp hearly) hissuer⟩
  by_cases haudience : c.audience = s.audience
  case neg =>
    exact ⟨_, .wrongAudience hgenuine (UInt64.not_lt.mp hlate) (UInt64.not_lt.mp hearly) hissuer
      haudience⟩
  exact ⟨_, .accepted hgenuine (UInt64.not_lt.mp hlate) (UInt64.not_lt.mp hearly) hissuer
    haudience⟩

theorem validateAt_eq {r : Except TokenError Claims} :
    s.validateAt second token = r ↔ Verdict s second token r := by
  constructor
  · intro h
    obtain ⟨r', hverdict⟩ := exists_verdict s second token
    rw [validateAt_of_verdict hverdict] at h
    rw [← h]
    exact hverdict
  · exact validateAt_of_verdict

/-- The clock shows a second from the start of 1970 on. -/
theorem seconds?_of_eq {now : Time.Instant} (h : now.second = second.toNat) :
    seconds? now = some second := by
  unfold seconds?
  rw [if_pos (by omega), h]
  simp

/-- From 1970 on the clock shows a word. -/
theorem exists_second {now : Time.Instant} (h : 0 ≤ now.second) :
    ∃ second : UInt64, now.second = second.toNat := by
  have hlate : now.second ≤ 8210266876799 := now.valid.2.1
  have hsize : UInt64.size = 18446744073709551616 := rfl
  refine ⟨.ofNat now.second.toNat, ?_⟩
  rw [UInt64.toNat_ofNat_of_lt' (by omega)]
  omega

theorem validate_eq_validateAt {now : Time.Instant} (h : now.second = second.toNat) :
    s.validate now token = s.validateAt second token := by
  unfold Service.validate Service.validateAt
  rw [seconds?_of_eq h]

end

/-! ## Accepted tokens -/

/-- Two tokens carry the same header and claims, as texts. -/
def SameMessage (token token' : String) : Prop :=
  ∃ head body signature signature',
    Parts token head body signature ∧ Parts token' head body signature'

/-- A genuine token is settled by its header and claims. -/
theorem Genuine.eq_of_sameMessage {s : Service} {token token' : String} {c c' : Claims}
    (h : Genuine s token c) (h' : Genuine s token' c') (hsame : SameMessage token token') :
    token = token' := by
  obtain ⟨head, body, hparts, _, _⟩ := h
  obtain ⟨head', body', hparts', _, _⟩ := h'
  obtain ⟨first, second, signature, signature', hone, hother⟩ := hsame
  obtain ⟨rfl, rfl, _⟩ := hparts.unique hone
  obtain ⟨rfl, rfl, _⟩ := hparts'.unique hother
  apply String.toList_inj.mp
  rw [hparts.1, hparts'.1]

theorem Parts.count_eq {token : String} {head body signature : List Char}
    (h : Parts token head body signature) : token.toList.count '.' = 2 := by
  obtain ⟨htoken, hhead, hbody, hsignature⟩ := h
  rw [htoken, List.count_append, List.count_cons_self, List.count_append, List.count_cons_self,
    List.count_eq_zero_of_not_mem hhead, List.count_eq_zero_of_not_mem hbody,
    List.count_eq_zero_of_not_mem hsignature]

/-- What an accepted token is, beyond its verdict. -/
structure Accepted (s : Service) (token : String) : Prop where
  /-- It has exactly two points. -/
  points : token.toList.count '.' = 2
  /-- The document in its header names the one algorithm and no other. -/
  algorithm : ∃ head body signature document, Parts token head body signature ∧
    Spells head document ∧ NamesAlgorithm document "HS256" ∧
    ∀ name, NamesAlgorithm document name → name = "HS256"
  /-- No other token with the same header and claims is accepted in any second. -/
  unique : ∀ second token' c, SameMessage token token' →
    s.validateAt second token' = .ok c → token' = token

theorem Genuine.accepted {s : Service} {token : String} {c : Claims} (h : Genuine s token c) :
    Accepted s token := by
  obtain ⟨head, body, hparts, ⟨document, hspells, hheader⟩, hclaims⟩ := id h
  refine ⟨hparts.count_eq, ⟨head, body, _, document, hparts, hspells, names_of_header hheader,
    fun name hname => eq_of_names hheader hname⟩, ?_⟩
  intro second token' c' hsame haccepted
  obtain ⟨c'', hverify, _⟩ := Result.bind_eq_ok.mp haccepted
  exact (h.eq_of_sameMessage (verify_eq_ok.mp hverify) hsame).symm

/-- In every second validation answers every text with its verdict; and what it accepts is signed
for exactly this service, under the one algorithm, and in one way only. -/
theorem validateAt_verdict (s : Service) (second : UInt64) (token : String) :
    (∀ r, s.validateAt second token = r ↔ Verdict s second token r) ∧
      (∀ c, s.validateAt second token = .ok c → Accepted s token) ∧
      ∀ now : Time.Instant, now.second = second.toNat →
        s.validate now token = s.validateAt second token := by
  refine ⟨fun r => validateAt_eq, ?_, fun now hnow => validate_eq_validateAt hnow⟩
  intro c h
  obtain ⟨c', hverify, _⟩ := Result.bind_eq_ok.mp h
  exact (verify_eq_ok.mp hverify).accepted

/-! ## A clock before 1970 -/

/-- No verdict speaks of the clock. -/
theorem validateAt_ne_clockBeforeEpoch (s : Service) (second : UInt64) (token : String) :
    s.validateAt second token ≠ .error .clockBeforeEpoch := by
  intro h
  cases validateAt_eq.mp h

theorem seconds?_eq_none {now : Time.Instant} : seconds? now = none ↔ now.second < 0 := by
  unfold seconds?
  split
  next h =>
    constructor
    · intro hnone
      cases hnone
    · intro hlt
      omega
  next h =>
    constructor
    · intro _
      omega
    · intro _
      rfl

/-- A clock before 1970 is met only by tokens that have passed all checks but those of time. -/
theorem validate_eq_clockBeforeEpoch {s : Service} {now : Time.Instant} {token : String} :
    s.validate now token = .error .clockBeforeEpoch ↔
      (∃ c, s.verify token = .ok c) ∧ now.second < 0 := by
  unfold Service.validate
  cases hverify : s.verify token with
  | error e =>
    constructor
    · intro h
      cases h
      exact absurd (validateAt_of_verify_error hverify) (validateAt_ne_clockBeforeEpoch s 0 token)
    · rintro ⟨⟨c, hc⟩, _⟩
      cases hc
  | ok c =>
    constructor
    · intro h
      refine ⟨⟨c, rfl⟩, seconds?_eq_none.mp ?_⟩
      cases hseconds : seconds? now with
      | none => rfl
      | some second =>
        have hat : s.validateAt second token = .error .clockBeforeEpoch := by
          rw [validateAt_of_genuine (verify_eq_ok.mp hverify)]
          simpa [hseconds, bind, Except.bind] using h
        exact absurd hat (validateAt_ne_clockBeforeEpoch s second token)
    · rintro ⟨_, hlt⟩
      simp [seconds?_eq_none.mpr hlt, bind, Except.bind]

end Agora.Token
