import Agora.Proofs.Settings
import Agora.Proofs.Token.Lifetime

/-!
# The dates of an issued token

A token is issued from the second on that the clock shows, to the one that lies its lifetime later.
Main result: `issueFor_dated`. As long as that second is a word the token is issued, with its dates
exact and in their order, and it is good to its end; when it is none, nothing is issued and no error
says so: issuing is given up in the middle.
-/

namespace Agora.Token

/-- The dates in claims that are made in a second to be good for a lifetime. -/
structure DatedFrom (second : Int) (lifetime : UInt64) (c : Claims) : Prop where
  issuedAt : (c.issuedAt.toNat : Int) = second
  notBefore : c.notBefore = c.issuedAt
  expiresAt : (c.expiresAt.toNat : Int) = second + lifetime.toNat
  inOrder : c.issuedAt ≤ c.expiresAt

theorem datedFrom_of_claims? {second lifetime : UInt64} {subject : Int} {audience issuer : String}
    {c : Claims} (h : Service.claims? second subject audience issuer lifetime = some c) :
    DatedFrom second.toNat lifetime c := by
  obtain ⟨expiresAt, hsum, rfl⟩ := Option.map_eq_some_iff.mp h
  have hexact : expiresAt.toNat = second.toNat + lifetime.toNat := sum?_eq_some.mp hsum
  refine ⟨rfl, rfl, ?_, ?_⟩
  · show (expiresAt.toNat : Int) = second.toNat + lifetime.toNat
    omega
  · show second ≤ expiresAt
    rw [UInt64.le_iff_toNat_le, hexact]
    omega

/-- The answer to whoever asks for a token about a subject. -/
structure Dated (s : Service) (now : Time.Instant) (subject : Int)
    (answer : Except (Stop TokenError) String) : Prop where
  /-- The only error is that of a clock before 1970. -/
  refused : ∀ e, answer = .error (.refused e) ↔ now.second < 0 ∧ e = .clockBeforeEpoch
  /-- From 1970 on a token is issued if its end is a word, and the service accepts it to its end. -/
  issued : 0 ≤ now.second → now.second + s.lifetime.toNat < UInt64.size →
    ∃ c, answer = .ok (s.sign c) ∧ c.subject = Decimal.text subject ∧
      DatedFrom now.second s.lifetime c ∧ Lives s (s.sign c) c
  /-- There is neither a token nor an error exactly if the end of the token is no word. -/
  abandoned : answer = .error .abandoned ↔ (UInt64.size : Int) ≤ now.second + s.lifetime.toNat

/-- Before 1970 there are no tokens, and from then on the clock shows a word, to which the lifetime
is added. -/
theorem issueFor_cases (s : Service) (now : Time.Instant) (subject : Int) :
    (now.second < 0 ∧ s.issueFor now subject = .error (.refused .clockBeforeEpoch)) ∨
      ∃ second : UInt64, now.second = second.toNat ∧
        ((∃ c, Service.claims? second subject s.audience s.issuer s.lifetime = some c ∧
            s.issueFor now subject = .ok (s.sign c)) ∨
          (UInt64.size ≤ second.toNat + s.lifetime.toNat ∧
            s.issueFor now subject = .error .abandoned)) := by
  unfold Service.issueFor Service.issue
  by_cases hbegun : 0 ≤ now.second
  · obtain ⟨second, hsecond⟩ := exists_second hbegun
    refine Or.inr ⟨second, hsecond, ?_⟩
    rw [seconds?_of_eq hsecond]
    simp only
    cases hclaims : Service.claims? second subject s.audience s.issuer s.lifetime with
    | some c => exact Or.inl ⟨c, rfl, rfl⟩
    | none => exact Or.inr ⟨claims?_eq_none.mp hclaims, rfl⟩
  · have hearly : now.second < 0 := Int.not_le.mp hbegun
    rw [seconds?_eq_none.mpr hearly]
    exact Or.inl ⟨hearly, rfl⟩

/-- Every service, for any lifetime that can be set, issues tokens with these dates. -/
theorem issueFor_dated (s : Service) (now : Time.Instant) (subject : Int) :
    (∃ env, Settings.tokens? env = some s.toConfig) ∧
      Dated s now subject (s.issueFor now subject) := by
  refine ⟨⟨_, Settings.tokens?_variables s.toConfig⟩, ?_⟩
  have hsize : UInt64.size = 18446744073709551616 := rfl
  have hlifetime := s.lifetime.toNat_lt
  obtain ⟨hearly, hanswer⟩ | ⟨second, hsecond, ⟨c, hclaims, hanswer⟩ | ⟨hover, hanswer⟩⟩ :=
    issueFor_cases s now subject
  · -- before 1970 a lifetime, being a word, does not lead out of the words
    rw [hanswer]
    refine ⟨fun e => ?_, fun hbegun => absurd hearly (Int.not_lt.mpr hbegun), ?_⟩
    · simp only [Except.error.injEq, Stop.refused.injEq, hearly, true_and, eq_comm]
    · simp only [Except.error.injEq, reduceCtorEq, false_iff]
      omega
  · have hdates := datedFrom_of_claims? hclaims
    have hmade :
        c.subject = Decimal.text subject ∧ c.issuer = s.issuer ∧ c.audience = s.audience := by
      obtain ⟨_, _, rfl⟩ := Option.map_eq_some_iff.mp hclaims
      exact ⟨rfl, rfl, rfl⟩
    have hends := c.expiresAt.toNat_lt
    have hexact := hdates.expiresAt
    rw [← hsecond] at hdates
    rw [hanswer]
    refine ⟨fun e => ?_, fun _ _ => ?_, ?_⟩
    · simp only [reduceCtorEq, false_iff, not_and]
      omega
    · refine ⟨c, rfl, hmade.1, hdates, (genuine_sign s c).lives ?_ hmade.2.1 hmade.2.2⟩
      rw [hdates.notBefore]
      exact hdates.inOrder
    · simp only [reduceCtorEq, false_iff]
      omega
  · rw [hanswer]
    refine ⟨fun e => ?_, fun _ hfits => ?_, ?_⟩
    · simp only [Except.error.injEq, reduceCtorEq, false_iff, not_and]
      omega
    · omega
    · simp only [true_iff]
      omega

/-- With the longest lifetime there is neither a token nor an error. -/
theorem issueFor_given_up :
    (∀ token, (sampleService 18446744073709551615).issueFor ⟨1704067200, 0, by decide⟩ 1 ≠
        .ok token) ∧
      ∀ e, (sampleService 18446744073709551615).issueFor ⟨1704067200, 0, by decide⟩ 1 ≠
        .error (.refused e) := by
  have hanswer : (sampleService 18446744073709551615).issueFor ⟨1704067200, 0, by decide⟩ 1 =
      .error .abandoned := rfl
  rw [hanswer]
  exact ⟨fun _ => nofun, fun _ => nofun⟩

end Agora.Token
