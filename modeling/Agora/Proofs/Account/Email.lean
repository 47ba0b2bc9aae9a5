import Agora.Proofs.Account.Rules
import Agora.Proofs.Text.LowerCase

/-!
# Accepted emails are in their normal form

An email is accepted after blanks around it were removed and it was lowered. What is accepted then
is plain ASCII without capitals and blanks (`plain_of_address`), so it is left alone when it is made
normal once more: an account can be found by its email as it is stored (`normalEmail_idem`).
-/

namespace Agora.Account

open Text (IsCapital isBlank)

/-- What may stand anywhere in an email. -/
def isEmailChar (c : Char) : Bool := isLocalChar c || c = '@'

theorem isLocalChar_of_isLetter {c : Char} (h : isLetter c = true) : isLocalChar c = true := by
  simp [isLocalChar, isLetterOrDigit, h]

theorem isLocalChar_of_isDomainChar {c : Char} (h : isDomainChar c = true) :
    isLocalChar c = true := by
  unfold isDomainChar at h
  unfold isLocalChar
  simp only [Bool.or_eq_true] at h ⊢
  obtain (h | h) | h := h
  · simp [h]
  · simp [h]
  · simp [h]

theorem isLocalChar_of_isDomain {cs : List Char} (h : isDomain cs = true) :
    ∀ c ∈ cs, isLocalChar c = true := by
  obtain ⟨before, top, rfl, _, hbefore, _, htop⟩ := isDomain_iff.mp h
  intro c hc
  rcases List.mem_append.mp hc with hc | hc
  · exact isLocalChar_of_isDomainChar (hbefore c hc)
  · rcases List.mem_cons.mp hc with rfl | hc
    · decide
    · exact isLocalChar_of_isLetter (htop c hc)

theorem isEmailChar_of_isEmail {cs : List Char} (h : isEmail cs = true) :
    ∀ c ∈ cs, isEmailChar c = true := by
  have hlocal : ∀ {c}, isLocalChar c = true → isEmailChar c = true := by
    intro c hc
    unfold isEmailChar
    rw [hc, Bool.true_or]
  obtain ⟨name, domain, rfl, _, hname, hdomain⟩ := isEmail_iff.mp h
  intro c hc
  rcases List.mem_append.mp hc with hc | hc
  · exact hlocal (hname c hc)
  · rcases List.mem_cons.mp hc with rfl | hc
    · decide
    · exact hlocal (isLocalChar_of_isDomain hdomain c hc)

/-- Characters of emails are plain ASCII, and no blanks. -/
theorem ascii_of_isEmailChar {c : Char} (h : isEmailChar c = true) :
    c.toNat < 0x80 ∧ isBlank c = false := by
  have hascii : c.toNat < 0x80 := by
    simp only [isEmailChar, isLocalChar, isLetterOrDigit, isLetter, Bool.or_eq_true,
      Bool.and_eq_true, decide_eq_true_eq, Text.char_le_iff] at h
    have hz : 'z'.toNat = 122 := rfl
    have hZ : 'Z'.toNat = 90 := rfl
    have h9 : '9'.toNat = 57 := rfl
    rcases h with (((((((h | h) | h) | rfl) | rfl) | rfl) | rfl) | rfl) | rfl
    · omega
    · omega
    · omega
    all_goals decide
  refine ⟨hascii, ?_⟩
  have hall : ∀ n < 0x80, isEmailChar (Char.ofNat n) = true → isBlank (Char.ofNat n) = false := by
    decide
  have hc := hall c.toNat hascii
  rw [Char.ofNat_toNat] at hc
  exact hc h

/-- An accepted email is in lower case already, and plain ASCII. -/
theorem plain_of_address {email : String} (h : Address (normalEmail email)) :
    ∀ c ∈ (normalEmail email).toList, c.toNat < 0x80 ∧ ¬IsCapital c ∧ isBlank c = false := by
  intro c hc
  obtain ⟨hascii, hblank⟩ :=
    ascii_of_isEmailChar (isEmailChar_of_isEmail (isEmail_toList_iff.mpr h) c hc)
  refine ⟨hascii, ?_, hblank⟩
  unfold normalEmail at hc
  rw [Text.toList_lowered] at hc
  exact Text.not_capital_of_mem_lower hc

theorem address_of_check {email : String} (h : checkEmail email = .ok ()) : Address email := by
  cases h ▸ checkEmail_verdict email with
  | fit hfit => exact hfit.address

/-- An accepted email is in its normal form. -/
theorem normalEmail_idem {email : String} (h : checkEmail (normalEmail email) = .ok ()) :
    normalEmail (normalEmail email) = normalEmail email := by
  have hplain := plain_of_address (address_of_check h)
  have htrim : Text.trimmed (normalEmail email) = normalEmail email := by
    unfold Text.trimmed
    rw [Text.trim_eq_self fun c hc => (hplain c hc).2.2, String.ofList_toList]
  have hlower : Text.lowered (normalEmail email) = normalEmail email := by
    unfold Text.lowered
    rw [Text.lower_eq_self fun c hc => ⟨(hplain c hc).1, (hplain c hc).2.1⟩, String.ofList_toList]
  rw [normalEmail, htrim, hlower]

end Agora.Account
