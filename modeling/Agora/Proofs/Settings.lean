import Agora.Proofs.Decimal
import Agora.Settings

/-!
# Every lifetime can be set

Lifetimes are words of 64 bits, and the environment can hold the text of any of them. So nothing
that is said of services of all lifetimes is said of more services than can be set up:
`tokens?_variables` and `invitationLifetime_variables`.
-/

namespace Agora

namespace Decimal

/-- A number below a bound is read back from its digits. -/
theorem below?_text {bound n : Nat} (h : n < bound) : below? bound (text n).toList = some n := by
  have hdigits : (text n).toList = ofNat n := by
    unfold text ofInt
    rw [if_neg (by omega), String.toList_ofList, Int.natAbs_natCast]
  rw [hdigits]
  unfold below?
  split
  next rest hplus =>
    -- a sign is no digit
    exact absurd hplus (ofNat_ne_cons fun hdigit => absurd hdigit.1 (by decide))
  next =>
    rw [nat?_ofNat, Option.filter_some, if_pos (by simpa using h)]

end Decimal

namespace Settings

theorem ofNat_number? {env : Environment} {name : String} {lifetime : UInt64}
    (h : env.lookup name = some (Decimal.text lifetime.toNat)) (default : Nat) :
    UInt64.ofNat ((number? env name UInt64.size).getD default) = lifetime := by
  unfold number?
  rw [h, Option.bind_some, Decimal.below?_text lifetime.toNat_lt, Option.getD_some,
    UInt64.ofNat_toNat]

/-- The variables that make a configuration of tokens. -/
def tokenVariables (c : Token.Config) : Environment :=
  [("JWT_SECRET", c.secret), ("JWT_AUDIENCE", c.audience), ("JWT_ISSUER", c.issuer),
    ("JWT_TOKEN_EXPIRY", Decimal.text c.lifetime.toNat)]

/-- Tokens can be set to be made with whatever they can be made with. -/
theorem tokens?_variables (c : Token.Config) : tokens? (tokenVariables c) = some c := by
  have hlifetime : (tokenVariables c).lookup "JWT_TOKEN_EXPIRY" =
      some (Decimal.text c.lifetime.toNat) := rfl
  unfold tokens?
  rw [ofNat_number? hlifetime]
  rfl

/-- The variable that sets the lifetime of invitations. -/
def invitationVariables (lifetime : UInt64) : Environment :=
  [("MAIL_INVITATION_EXPIRY", Decimal.text lifetime.toNat)]

/-- Invitations can be set to be valid for any number of seconds that is a word. -/
theorem invitationLifetime_variables (lifetime : UInt64) :
    invitationLifetime (invitationVariables lifetime) = lifetime :=
  ofNat_number? rfl 259200

end Settings

end Agora
