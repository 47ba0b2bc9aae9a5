import Agora.Proofs.Decimal.Word
import Agora.Proofs.Json.Values
import Agora.Proofs.Token.Validation

/-!
# Issued tokens live exactly as long as they were made for

What is signed is genuine (`genuine_sign`): the parts of a token are read back through Base64,
UTF-8, JSON and decimal digits to the header and the claims that were written. From there on only
the claims decide (`Genuine.lives`), and `issued_lives` puts the two together: a token that is
issued is accepted from its first second to its last one, by every service of the same secret,
audience and issuer.
-/

namespace Agora.Token

open Json (Decoder Scan)

/-! ## Header and claims are read back -/

theorem header_headerText : header headerText.toScan = .ok .hs256 := by
  rfl

/-- The values of the claims, as they stand in their document. -/
def Claims.values (c : Claims) : List (String × Scan) :=
  [("sub", .str (some c.subject)), ("aud", .str (some c.audience)), ("iss", .str (some c.issuer)),
    ("iat", .num (Decimal.ofInt c.issuedAt.toNat)),
    ("nbf", .num (Decimal.ofInt c.notBefore.toNat)),
    ("exp", .num (Decimal.ofInt c.expiresAt.toNat))]

theorem named_values (c : Claims) :
    Decoder.named Claims.fields [] (c.values.map fun v => (some v.1, v.2)) = .ok c.values := by
  have hissued := Decoder.uint64_ofInt c.issuedAt
  have hbegins := Decoder.uint64_ofInt c.notBefore
  have hends := Decoder.uint64_ofInt c.expiresAt
  unfold Claims.values
  simp only [List.map_cons, List.map_nil]
  rw [Decoder.named_known (.of "sub" .string) rfl (by decide) (Decoder.check_of rfl),
    Decoder.named_known (.of "aud" .string) rfl (by decide) (Decoder.check_of rfl),
    Decoder.named_known (.of "iss" .string) rfl (by decide) (Decoder.check_of rfl),
    Decoder.named_known (.of "iat" .uint64) rfl (by decide) (Decoder.check_of hissued),
    Decoder.named_known (.of "nbf" .uint64) rfl (by decide) (Decoder.check_of hbegins),
    Decoder.named_known (.of "exp" .uint64) rfl (by decide) (Decoder.check_of hends)]
  rfl

theorem decode_toJson (c : Claims) : Claims.decode c.toJson.toScan = .ok c := by
  have hmembers : c.toJson.toScan = .obj (c.values.map fun v => (some v.1, v.2)) := rfl
  rw [hmembers, Claims.decode, named_values]
  show Claims.ofValues c.values = .ok c
  have hissued : Decoder.required c.values "iat" .uint64 = .ok c.issuedAt :=
    Decoder.uint64_ofInt c.issuedAt
  have hbegins : Decoder.required c.values "nbf" .uint64 = .ok c.notBefore :=
    Decoder.uint64_ofInt c.notBefore
  have hends : Decoder.required c.values "exp" .uint64 = .ok c.expiresAt :=
    Decoder.uint64_ofInt c.expiresAt
  unfold Claims.ofValues
  rw [hissued, hbegins, hends]
  rfl

theorem holds_segment {α : Type} {decode : Decoder α} {j : Json} {a : α}
    (h : decode j.toScan = .ok a) : Holds decode (segment j.render) a := by
  refine ⟨j.toScan, ⟨Text.Utf8.encodeChars j.render, rfl, ?_⟩, h⟩
  exact (Scan.ofBytes_render j).symm

theorem not_mem_encode (bytes : List UInt8) : '.' ∉ Text.Base64.urlSafe.encode bytes := by
  intro h
  obtain ⟨n, hn, hpoint⟩ := Text.Base64.Alphabet.exists_digit_of_mem_encode h
  have := Text.Base64.Alphabet.value?_digit Text.Base64.Alphabet.isProper_urlSafe hn
  rw [← hpoint] at this
  cases this

/-- What a service signs is genuine. -/
theorem genuine_sign (s : Service) (c : Claims) : Genuine s (s.sign c) c := by
  refine ⟨segment headerText.render, segment c.toJson.render, ?_, holds_segment header_headerText,
    holds_segment (decode_toJson c)⟩
  refine ⟨?_, not_mem_encode _, not_mem_encode _, not_mem_encode _⟩
  unfold Service.sign
  simp only
  rw [String.toList_ofList, List.append_assoc]
  rfl

theorem Genuine.of_secret {s s' : Service} {token : String} {c : Claims} (h : Genuine s token c)
    (hsecret : s'.secret = s.secret) : Genuine s' token c := by
  obtain ⟨head, body, hparts, hholds⟩ := h
  rw [← hsecret] at hparts
  exact ⟨head, body, hparts, hholds⟩

/-! ## What is issued -/

/-- The claims of a token about a subject from one second on, for as many seconds as it is to live;
the id of the subject can be had back from them. -/
structure MadeFor (id : Int) (audience issuer : String) (second lifetime : UInt64)
    (c : Claims) : Prop where
  subject : c.subject = Decimal.text id
  subjectId : c.subjectId? = some id
  audience : c.audience = audience
  issuer : c.issuer = issuer
  issuedAt : c.issuedAt = second
  notBefore : c.notBefore = second
  expiresAt : c.expiresAt.toNat = second.toNat + lifetime.toNat

/-- A token lives from the first second of its claims to the last one, both of them included. -/
structure Lives (s : Service) (token : String) (c : Claims) : Prop where
  early : ∀ t, t < c.notBefore → s.validateAt t token = .error .notYetValid
  valid : ∀ t, c.notBefore ≤ t → t ≤ c.expiresAt → s.validateAt t token = .ok c
  late : ∀ t, c.expiresAt < t → s.validateAt t token = .error .expired
  /-- The clock is asked for nothing but the second. -/
  clock : ∀ (now : Time.Instant) (t : UInt64), now.second = t.toNat →
    s.validate now token = s.validateAt t token

/-- Two words have a sum if it is a word. -/
theorem sum?_eq_some {a b sum : UInt64} :
    Service.sum? a b = some sum ↔ sum.toNat = a.toNat + b.toNat := by
  have hadd : (a + b).toNat = (a.toNat + b.toNat) % 18446744073709551616 := UInt64.toNat_add a b
  have hsum := sum.toNat_lt
  unfold Service.sum?
  constructor
  · intro h
    split at h
    next hfits =>
      cases h
      rw [hadd, Nat.mod_eq_of_lt hfits]
    next => cases h
  · intro h
    have hfits : a.toNat + b.toNat < 18446744073709551616 := by omega
    rw [if_pos hfits, Option.some.injEq, ← UInt64.toNat_inj, hadd, Nat.mod_eq_of_lt hfits, h]

theorem sum?_eq_none {a b : UInt64} :
    Service.sum? a b = none ↔ UInt64.size ≤ a.toNat + b.toNat := by
  have hsize : UInt64.size = 18446744073709551616 := rfl
  unfold Service.sum?
  split
  next hfits => simp only [reduceCtorEq, false_iff, hsize, Nat.not_le, hfits]
  next hover => simp only [hsize, Nat.not_lt.mp hover]

/-- Claims are made exactly if their end is a word. -/
theorem exists_claims {second lifetime : UInt64}
    (hfits : second.toNat + lifetime.toNat < UInt64.size) (subject : Int)
    (audience issuer : String) :
    ∃ c, Service.claims? second subject audience issuer lifetime = some c := by
  cases hsum : Service.sum? second lifetime with
  | none => exact absurd hfits (Nat.not_lt.mpr (sum?_eq_none.mp hsum))
  | some expiresAt =>
    unfold Service.claims?
    rw [hsum]
    exact ⟨_, rfl⟩

theorem claims?_eq_none {second lifetime : UInt64} {subject : Int} {audience issuer : String} :
    Service.claims? second subject audience issuer lifetime = none ↔
      UInt64.size ≤ second.toNat + lifetime.toNat := by
  rw [Service.claims?, Option.map_eq_none_iff, sum?_eq_none]

theorem madeFor_of_claims? {subject : Int} (hsubject : Decimal.FitsInt64 subject)
    {audience issuer : String} {second lifetime : UInt64} {c : Claims}
    (h : Service.claims? second subject audience issuer lifetime = some c) :
    MadeFor subject audience issuer second lifetime c := by
  obtain ⟨expiresAt, hsum, rfl⟩ := Option.map_eq_some_iff.mp h
  exact ⟨rfl, Decimal.int64?_text hsubject, rfl, rfl, rfl, rfl, sum?_eq_some.mp hsum⟩

/-- A genuine token that is meant for a service lives by its claims. -/
theorem Genuine.lives {s : Service} {token : String} {c : Claims} (h : Genuine s token c)
    (hbegins : c.notBefore ≤ c.expiresAt) (hissuer : c.issuer = s.issuer)
    (haudience : c.audience = s.audience) : Lives s token c where
  early := by
    intro t ht
    have hlive : t ≤ c.expiresAt := UInt64.le_of_lt (UInt64.lt_of_lt_of_le ht hbegins)
    exact validateAt_of_verdict (.notYetValid h hlive ht)
  valid := by
    intro t hbegun hlive
    exact validateAt_of_verdict (.accepted h hlive hbegun hissuer haudience)
  late := by
    intro t ht
    exact validateAt_of_verdict (.expired h ht)
  clock := fun now t hnow => validate_eq_validateAt hnow

theorem issue_eq_ok (s : Service) {now : Time.Instant} {second : UInt64}
    (hnow : now.second = second.toNat) {subject : Int} {audience issuer : String}
    {lifetime : UInt64} {c : Claims}
    (h : Service.claims? second subject audience issuer lifetime = some c) :
    s.issue now subject audience issuer lifetime = .ok (s.sign c) := by
  unfold Service.issue
  rw [seconds?_of_eq hnow]
  simp only [h]

/-- Issuing a token for the audience and issuer of a service never fails while its last second can
be written down, and every service of the same secret, audience and issuer accepts the token, with
the claims that were signed, exactly from its first second to its last one. -/
theorem issued_lives {s s' : Service} (hsecret : s'.secret = s.secret)
    (haudience : s'.audience = s.audience) (hissuer : s'.issuer = s.issuer) {subject : Int}
    (hsubject : Decimal.FitsInt64 subject) {second lifetime : UInt64}
    (hfits : second.toNat + lifetime.toNat < UInt64.size) :
    ∃ c, MadeFor subject s.audience s.issuer second lifetime c ∧ Lives s' (s.sign c) c ∧
      ∀ now : Time.Instant, now.second = second.toNat →
        s.issue now subject s.audience s.issuer lifetime = .ok (s.sign c) ∧
          (lifetime = s.lifetime → s.issueFor now subject = .ok (s.sign c)) := by
  obtain ⟨c, hclaims⟩ := exists_claims hfits subject s.audience s.issuer
  have hmade := madeFor_of_claims? hsubject hclaims
  refine ⟨c, hmade, ?_, ?_⟩
  · have hbegins : c.notBefore ≤ c.expiresAt := by
      rw [UInt64.le_iff_toNat_le, hmade.notBefore, hmade.expiresAt]
      omega
    exact ((genuine_sign s c).of_secret hsecret).lives hbegins (hmade.issuer.trans hissuer.symm)
      (hmade.audience.trans haudience.symm)
  · intro now hnow
    refine ⟨issue_eq_ok s hnow hclaims, ?_⟩
    intro hlifetime
    rw [Service.issueFor, ← hlifetime]
    exact issue_eq_ok s hnow hclaims

/-- A service to show tokens with. -/
def sampleService (lifetime : UInt64) : Service where
  secret := "test-secret"
  audience := "social"
  issuer := "social"
  lifetime := lifetime
  secret_ne := by decide

/-- The least of all ids, and a lifetime that ends with the last second there is. -/
theorem issued_lives_to_the_last_second :
    ∃ c, MadeFor (-9223372036854775808) "social" "social" 1700000000 18446744072009551615 c ∧
      Lives (sampleService 0) ((sampleService 3600).sign c) c ∧
      ∀ now : Time.Instant, now.second = 1700000000 →
        (sampleService 3600).issue now (-9223372036854775808) "social" "social"
          18446744072009551615 = .ok ((sampleService 3600).sign c) := by
  have hfits : (1700000000 : UInt64).toNat + (18446744072009551615 : UInt64).toNat <
      UInt64.size := by decide
  have hsecret : (sampleService 0).secret = (sampleService 3600).secret := rfl
  have hsubject : Decimal.FitsInt64 (-9223372036854775808) := by decide
  obtain ⟨c, hmade, hlives, hissue⟩ := issued_lives hsecret rfl rfl hsubject hfits
  exact ⟨c, hmade, hlives, fun now hnow => (hissue now hnow).1⟩

end Agora.Token
