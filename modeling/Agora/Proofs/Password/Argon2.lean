import Agora.Password.Scheme
import Agora.Proofs.Text.Base64
import Agora.Proofs.Text.Split

/-!
# Stored passwords are accepted

Main result: `check?_store`. A text that Argon2 stores for a password can be read back, and the
password fits it, whatever the password and the salt, as long as the salt can stand in such a text:
it has 8 to 48 bytes.
-/

namespace Agora

namespace Digest

/-- A digest has as many bytes as were asked for, up to 64. -/
theorem Blake2b.length_hash {size : Nat} (h : size ≤ 64) (message : List UInt8) :
    (hash size message).length = size := by
  unfold hash
  rw [List.length_take, List.length_flatMap]
  simp only [length_little, List.map_const', List.sum_replicate_nat, Vector.length_toList]
  exact Nat.min_eq_left h

theorem Argon2.length_hash {n : Nat} (h : n ≤ 64) (kind : Kind) (version : Version)
    (cost : Cost) (password salt data : List UInt8) :
    (hash kind version cost n password salt data).length = n := by
  unfold hash Blake2b.expand
  simp only [if_pos h]
  exact Blake2b.length_hash h _

end Digest

namespace Text.Base64.Alphabet

theorem isProper_standard : standard.IsProper := ⟨by decide, by decide⟩

/-- Three bytes take four digits. -/
theorem length_encode (α : Alphabet) (bytes : List UInt8) :
    (α.encode bytes).length = (4 * bytes.length + 2) / 3 := by
  fun_induction encode α bytes with
  | case1 => rfl
  | case2 => simp
  | case3 => simp
  | case4 a b c rest ih =>
    simp only [List.length_cons, ih]
    omega

end Text.Base64.Alphabet

namespace Password

open Text (splitAt)
open Text.Base64 (standard)

/-- Digits may stand in a value. -/
theorem isValue_digit : ∀ n < 64, Phc.isValue [standard.digit n] = true := by
  decide

theorem isValue_encode {bytes : List UInt8} (h : bytes.length ≤ 48) :
    Phc.isValue (standard.encode bytes) = true := by
  unfold Phc.isValue
  rw [Bool.and_eq_true, decide_eq_true_eq, List.all_eq_true]
  constructor
  · rw [Text.Base64.Alphabet.length_encode]
    omega
  · intro c hc
    obtain ⟨n, hn, rfl⟩ := Text.Base64.Alphabet.exists_digit_of_mem_encode hc
    have hdigit := isValue_digit n hn
    unfold Phc.isValue at hdigit
    rw [Bool.and_eq_true, List.all_eq_true] at hdigit
    exact hdigit.2 _ (List.mem_singleton_self _)

/-- No digit ends a field. -/
theorem ne_of_mem_encode {bytes : List UInt8} :
    ∀ c ∈ standard.encode bytes, decide (c = '$') = false := by
  have hdigits : ∀ n < 64, decide (standard.digit n = '$') = false := by decide
  intro c hc
  obtain ⟨n, hn, rfl⟩ := Text.Base64.Alphabet.exists_digit_of_mem_encode hc
  exact hdigits n hn

namespace Argon2

/-- The fields of the texts that are stored. -/
def stored (salt digest : List UInt8) : Phc where
  algorithm := "argon2id".toList
  version := some 19
  params := [(['m'], "19456".toList), (['t'], ['2']), (['p'], ['1'])]
  salt := some (standard.encode salt)
  digest := some digest

/-- The fields are read back. -/
theorem read?_stored {salt digest : List UInt8} (hlow : 8 ≤ salt.length) (hhigh : salt.length ≤ 48)
    (hdigest : digest.length = 32) :
    Phc.read? (label ++ "$" ++ String.ofList (standard.encode salt) ++ "$" ++
      String.ofList (standard.encode digest)).toList = some (stored salt digest) := by
  have hdollar : decide ('$' = '$') = true := rfl
  have hplain : ∀ {part : List Char}, part.all (· ≠ '$') = true →
      ∀ c ∈ part, decide (c = '$') = false := fun hall c hc => by
    simpa using List.all_eq_true.mp hall c hc
  have hsplit : splitAt (· = '$') (label ++ "$" ++ String.ofList (standard.encode salt) ++ "$" ++
      String.ofList (standard.encode digest)).toList =
        [[], "argon2id".toList, "v=19".toList, "m=19456,t=2,p=1".toList, standard.encode salt,
          standard.encode digest] := by
    have hparts : (label ++ "$" ++ String.ofList (standard.encode salt) ++ "$" ++
        String.ofList (standard.encode digest)).toList =
          [] ++ '$' :: ("argon2id".toList ++ '$' :: ("v=19".toList ++ '$' ::
            ("m=19456,t=2,p=1".toList ++ '$' :: (standard.encode salt ++ '$' ::
              standard.encode digest)))) := by
      simp [label]
    rw [hparts, Text.splitAt_append (by simp) hdollar,
      Text.splitAt_append (hplain (by decide)) hdollar,
      Text.splitAt_append (hplain (by decide)) hdollar,
      Text.splitAt_append (hplain (by decide)) hdollar,
      Text.splitAt_append ne_of_mem_encode hdollar, Text.splitAt_of_forall ne_of_mem_encode]
  have hsalt : Phc.salt? (standard.encode salt) = some (standard.encode salt) := by
    have hlong : 4 ≤ (standard.encode salt).length := by
      rw [Text.Base64.Alphabet.length_encode]
      omega
    unfold Phc.salt?
    rw [isValue_encode hhigh, Bool.and_true, if_pos (by simpa using hlong)]
  have hread : Phc.digest? (standard.encode digest) = some digest := by
    unfold Phc.digest?
    rw [(Text.Base64.Alphabet.decode?_eq_some Text.Base64.Alphabet.isProper_standard).mpr rfl]
    simp [hdigest]
  have hname : Phc.isName "argon2id".toList = true := by decide
  have hversion : ∀ rest, Phc.version? ("v=19".toList :: rest) = some (some 19, rest) := by
    intro rest
    rfl
  have hparams : ∀ rest, Phc.paramsField? ("m=19456,t=2,p=1".toList :: rest) =
      some ([(['m'], "19456".toList), (['t'], ['2']), (['p'], ['1'])], rest) := by
    intro rest
    rfl
  unfold Phc.read?
  rw [hsplit]
  simp only [hname, hversion, hparams, hsalt, hread, Bool.not_true, Bool.false_eq_true, if_false,
    Option.bind_eq_bind, Option.bind_some]
  rfl

/-- The fields name the way in which the digest was made. -/
theorem digest?_stored {salt : List UInt8} (hlow : 8 ≤ salt.length) (digest : List UInt8)
    (size : Nat) (password : String) :
    digest? (stored salt digest) (standard.encode salt) size password =
      some (Digest.Argon2.hash .id .v19 ⟨19456, 2, 1⟩ size (Text.Utf8.encode password) salt
        []) := by
  have hsetting : (stored salt digest).params.foldlM Setting.put? {} = some {} := rfl
  have hkind : kind? (stored salt digest).algorithm = some .id := rfl
  have hversion : version? (stored salt digest).version = some .v19 := rfl
  have hsalt : (standard.decode? (standard.encode salt)).filter (8 ≤ ·.length) = some salt := by
    rw [(Text.Base64.Alphabet.decode?_eq_some Text.Base64.Alphabet.isProper_standard).mpr rfl,
      Option.filter_some, if_pos (by simpa using hlow)]
  have hpayable : isPayable ({} : Setting).cost = true := by decide
  unfold digest?
  rw [hsetting, hkind, hversion, hsalt]
  simp only [Option.bind_eq_bind, Option.bind_some, hpayable, if_true]

theorem fits_eq {text : Phc} {salt : List Char} {digest : List UInt8}
    (hsalt : text.salt = some salt) (hdigest : text.digest = some digest) (password : String) :
    fits text password = decide (digest? text salt digest.length password = some digest) := by
  unfold fits
  rw [hsalt, hdigest]

/-- The password fits the fields that it was stored in. -/
theorem fits_stored {salt digest : List UInt8} (hlow : 8 ≤ salt.length) {password : String}
    (hmade : Digest.Argon2.hash .id .v19 ⟨19456, 2, 1⟩ digest.length (Text.Utf8.encode password)
      salt [] = digest) : fits (stored salt digest) password = true := by
  have hdigest := digest?_stored hlow digest digest.length password
  rw [fits_eq rfl rfl]
  exact decide_eq_true (hdigest.trans (congrArg some hmade))

end Argon2

/-- The scheme in use accepts the password that it has stored. -/
theorem check?_store {salt : List UInt8} (hlow : 8 ≤ salt.length) (hhigh : salt.length ≤ 48)
    (password : String) :
    Scheme.argon2.check? (Scheme.argon2.store salt password) password = some true := by
  have hstore : Scheme.argon2.store salt password = Argon2.store salt password := by
    rw [Scheme.argon2]
  have hcheck (text : String) : Scheme.argon2.check? text password =
      (Phc.read? text.toList).map (Argon2.fits · password) := by
    rw [Scheme.argon2]
  have hlength : (Digest.Argon2.hash .id .v19 ⟨19456, 2, 1⟩ 32 (Text.Utf8.encode password) salt
      []).length = 32 := Digest.Argon2.length_hash (by decide) _ _ _ _ _ _
  rw [hcheck, hstore, Argon2.store, Argon2.read?_stored hlow hhigh hlength, Option.map_some]
  refine congrArg some (Argon2.fits_stored hlow ?_)
  rw [hlength]

end Password

end Agora
