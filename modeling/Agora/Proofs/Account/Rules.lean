import Agora.Account.Service
import Agora.Proofs.Text.Split
import Agora.Proofs.Text.Utf8

/-!
# What a registration has to look like

The rules for usernames, emails and passwords, in terms of the texts and not of how they are
checked: `FitUsername`, `FitEmail` and `FitPassword` are what is asked for, and a fault is the first
rule that is broken, with what is reported. Main result: `Registration.check_verdict`, by which a
registration is checked for these rules and no others, field after field.

The domain of an email may hold points, so there may be several ways to read one (`Address`). Which
one a search finds makes no difference: the top of a domain holds no point, so it begins after the
last one (`isDomain_iff`), and a name holds no at sign, so it ends before the first one
(`isEmail_iff`).
-/

namespace Agora.Account

/-! ## The rules -/

def Letter (c : Char) : Prop := ('a' ≤ c ∧ c ≤ 'z') ∨ ('A' ≤ c ∧ c ≤ 'Z')

def Digit (c : Char) : Prop := '0' ≤ c ∧ c ≤ '9'

structure FitUsername (username : String) : Prop where
  fewest : 3 ≤ username.length
  most : username.length ≤ 40
  chars : ∀ c ∈ username.toList, Letter c ∨ Digit c ∨ c = '_'

/-- A name at a domain that has a top. -/
structure Reading (email name domain top : String) : Prop where
  spelled : email = name ++ "@" ++ domain ++ "." ++ top
  name_ne : name ≠ ""
  name_chars : ∀ c ∈ name.toList, Letter c ∨ Digit c ∨ c ∈ ['.', '_', '%', '+', '-']
  domain_ne : domain ≠ ""
  domain_chars : ∀ c ∈ domain.toList, Letter c ∨ Digit c ∨ c ∈ ['.', '-']
  top_fewest : 2 ≤ top.length
  top_chars : ∀ c ∈ top.toList, Letter c

/-- An email can be read as an address. -/
def Address (email : String) : Prop := ∃ name domain top, Reading email name domain top

structure FitEmail (email : String) : Prop where
  most : email.utf8ByteSize ≤ 255
  address : Address email

structure FitPassword (password : String) : Prop where
  fewest : 8 ≤ password.length
  most : password.length ≤ 72

/-- What is wrong with the number of characters of a value. -/
inductive LengthFault (subject : Subject) (fewest most : Nat) (value : String) : Invalid → Prop
  | missing (h : value = "") : LengthFault subject fewest most value (.missing subject)
  | short (hne : value ≠ "") (h : value.length < fewest) :
      LengthFault subject fewest most value (.tooShort subject)
  | long (h : most < value.length) : LengthFault subject fewest most value (.tooLong subject)

inductive UsernameFault (username : String) : Invalid → Prop
  | length {e : Invalid} (h : LengthFault .username 3 40 username e) : UsernameFault username e
  | characters (hfewest : 3 ≤ username.length) (hmost : username.length ≤ 40)
      (h : ∃ c ∈ username.toList, ¬(Letter c ∨ Digit c ∨ c = '_')) :
      UsernameFault username .usernameCharacters

inductive EmailFault (email : String) : Invalid → Prop
  | missing (h : email = "") : EmailFault email (.missing .email)
  | long (h : 255 < email.utf8ByteSize) : EmailFault email (.tooLong .email)
  | format (hne : email ≠ "") (hmost : email.utf8ByteSize ≤ 255) (h : ¬Address email) :
      EmailFault email .emailFormat

/-- A registration that keeps all the rules. -/
structure Registration.Fit (r : Registration) : Prop where
  username : FitUsername r.username
  email : FitEmail (normalEmail r.email)
  password : FitPassword r.password

/-- The first field of a registration that breaks a rule, and how. -/
inductive Registration.Breaks (r : Registration) : Invalid → Prop
  | username {e : Invalid} (h : UsernameFault r.username e) : r.Breaks e
  | email {e : Invalid} (husername : FitUsername r.username)
      (h : EmailFault (normalEmail r.email) e) : r.Breaks e
  | password {e : Invalid} (husername : FitUsername r.username)
      (hemail : FitEmail (normalEmail r.email)) (h : LengthFault .password 8 72 r.password e) :
      r.Breaks e

/-- The answer of a check, in terms of what was asked for. -/
inductive Verdict (Fit : Prop) (Fault : Invalid → Prop) : Except Invalid Unit → Prop
  | fit (h : Fit) : Verdict Fit Fault (.ok ())
  | unfit {e : Invalid} (h : ¬Fit) (hfault : Fault e) : Verdict Fit Fault (.error e)

/-! ## Characters -/

theorem isLetter_iff {c : Char} : isLetter c = true ↔ Letter c := by
  simp [isLetter, Letter]

theorem isLetterOrDigit_iff {c : Char} : isLetterOrDigit c = true ↔ Letter c ∨ Digit c := by
  simp [isLetterOrDigit, isLetter_iff, Digit]

theorem isUsernameChar_iff {c : Char} :
    isUsernameChar c = true ↔ Letter c ∨ Digit c ∨ c = '_' := by
  simp [isUsernameChar, isLetterOrDigit_iff, or_assoc]

theorem isLocalChar_iff {c : Char} :
    isLocalChar c = true ↔ Letter c ∨ Digit c ∨ c ∈ ['.', '_', '%', '+', '-'] := by
  simp [isLocalChar, isLetterOrDigit_iff, or_assoc]

theorem isDomainChar_iff {c : Char} :
    isDomainChar c = true ↔ Letter c ∨ Digit c ∨ c ∈ ['.', '-'] := by
  simp [isDomainChar, isLetterOrDigit_iff, or_assoc]

/-! ## Emails -/

/-- A domain is something that may hold points, a point, and letters. -/
theorem isDomain_iff {cs : List Char} : isDomain cs = true ↔ ∃ before top,
    cs = before ++ '.' :: top ∧ before ≠ [] ∧ (∀ c ∈ before, isDomainChar c = true) ∧
      2 ≤ top.length ∧ ∀ c ∈ top, isLetter c = true := by
  unfold isDomain
  simp only [Bool.and_eq_true, decide_eq_true_eq, Bool.not_eq_true', List.isEmpty_eq_false_iff,
    List.all_eq_true]
  constructor
  · rintro ⟨⟨⟨hlength, htop⟩, hne⟩, hbefore⟩
    cases hdrop : cs.reverse.dropWhile (· ≠ '.') with
    | nil =>
      rw [hdrop] at hne
      exact absurd rfl hne
    | cons point rest =>
      have hcut := Text.eq_append_of_dropWhile hdrop
      rw [hdrop] at hne hbefore
      refine ⟨rest.reverse, (cs.reverse.takeWhile (· ≠ '.')).reverse, ?_, ?_, ?_, ?_, ?_⟩
      · have hcs := congrArg List.reverse hcut
        simpa using hcs
      · simpa using hne
      · intro c hc
        exact hbefore c (List.mem_reverse.mp hc)
      · rwa [List.length_reverse]
      · intro c hc
        exact htop c (List.mem_reverse.mp hc)
  · rintro ⟨before, top, rfl, hne, hbefore, hlength, htop⟩
    have hpoint : '.' ∉ top.reverse := fun hmem =>
      absurd (htop '.' (List.mem_reverse.mp hmem)) (by decide)
    have hreverse : (before ++ '.' :: top).reverse = top.reverse ++ '.' :: before.reverse := by simp
    rw [hreverse, Text.takeWhile_append_of_not_mem hpoint, Text.dropWhile_append_of_not_mem hpoint]
    refine ⟨⟨⟨?_, ?_⟩, ?_⟩, ?_⟩
    · rwa [List.length_reverse]
    · intro c hc
      exact htop c (List.mem_reverse.mp hc)
    · simpa using hne
    · intro c hc
      exact hbefore c (List.mem_reverse.mp hc)

theorem isEmail_iff {cs : List Char} : isEmail cs = true ↔ ∃ name domain,
    cs = name ++ '@' :: domain ∧ name ≠ [] ∧ (∀ c ∈ name, isLocalChar c = true) ∧
      isDomain domain = true := by
  constructor
  · intro h
    unfold isEmail at h
    cases hdrop : cs.dropWhile (· ≠ '@') with
    | nil =>
      rw [hdrop] at h
      cases h
    | cons sign domain =>
      rw [hdrop] at h
      simp only [Bool.and_eq_true, Bool.not_eq_true', List.isEmpty_eq_false_iff,
        List.all_eq_true] at h
      obtain ⟨⟨hne, hname⟩, hdomain⟩ := h
      exact ⟨_, domain, Text.eq_append_of_dropWhile hdrop, hne, hname, hdomain⟩
  · rintro ⟨name, domain, rfl, hne, hname, hdomain⟩
    have hsign : '@' ∉ name := fun hmem => absurd (hname '@' hmem) (by decide)
    unfold isEmail
    rw [Text.takeWhile_append_of_not_mem hsign, Text.dropWhile_append_of_not_mem hsign]
    simp only [Bool.and_eq_true, Bool.not_eq_true', List.isEmpty_eq_false_iff, List.all_eq_true]
    exact ⟨⟨hne, hname⟩, hdomain⟩

theorem isEmail_toList_iff {email : String} : isEmail email.toList = true ↔ Address email := by
  rw [isEmail_iff]
  constructor
  · rintro ⟨name, domain, hemail, hname, hnameChars, hdomain⟩
    obtain ⟨before, top, rfl, hbefore, hbeforeChars, htop, htopChars⟩ := isDomain_iff.mp hdomain
    refine ⟨.ofList name, .ofList before, .ofList top, ?_, ?_, ?_, ?_, ?_, ?_, ?_⟩
    · rw [← String.toList_inj]
      simp [hemail]
    · simpa [← String.toList_inj] using hname
    · simpa only [String.toList_ofList, ← isLocalChar_iff] using hnameChars
    · simpa [← String.toList_inj] using hbefore
    · simpa only [String.toList_ofList, ← isDomainChar_iff] using hbeforeChars
    · simpa using htop
    · simpa only [String.toList_ofList, ← isLetter_iff] using htopChars
  · rintro ⟨name, domain, top, h⟩
    refine ⟨name.toList, domain.toList ++ '.' :: top.toList, ?_, ?_, ?_, isDomain_iff.mpr
      ⟨domain.toList, top.toList, rfl, ?_, ?_, ?_, ?_⟩⟩
    · simp [h.spelled]
    · simpa using h.name_ne
    · simpa only [isLocalChar_iff] using h.name_chars
    · simpa using h.domain_ne
    · simpa only [isDomainChar_iff] using h.domain_chars
    · rw [String.length_toList]
      exact h.top_fewest
    · simpa only [isLetter_iff] using h.top_chars

/-! ## Checks -/

/-- The checks of a length come first. -/
theorem length_verdict {subject : Subject} {fewest most : Nat} {value : String} {Fit : Prop}
    {Fault : Invalid → Prop} {rest : Except Invalid Unit} (hpositive : 0 < fewest)
    (hlength : Fit → fewest ≤ value.length ∧ value.length ≤ most)
    (hfault : ∀ {e}, LengthFault subject fewest most value e → Fault e)
    (hrest : fewest ≤ value.length → value.length ≤ most → Verdict Fit Fault rest) :
    Verdict Fit Fault
      (if value.toList.isEmpty then .error (.missing subject)
      else if value.toList.length < fewest then .error (.tooShort subject)
      else if most < value.toList.length then .error (.tooLong subject)
      else rest) := by
  rw [String.length_toList]
  split
  next hnil =>
    have hempty : value = "" := by simpa using hnil
    refine .unfit (fun hfit => ?_) (hfault (.missing hempty))
    have hfewest := (hlength hfit).1
    rw [hempty] at hfewest
    exact Nat.not_le.mpr hpositive hfewest
  next hne =>
    split
    next hshort =>
      exact .unfit (fun hfit => Nat.not_le.mpr hshort (hlength hfit).1)
        (hfault (.short (by simpa using hne) hshort))
    next hfewest =>
      split
      next hlong =>
        exact .unfit (fun hfit => Nat.not_le.mpr hlong (hlength hfit).2) (hfault (.long hlong))
      next hmost => exact hrest (Nat.not_lt.mp hfewest) (Nat.not_lt.mp hmost)

theorem checkUsername_verdict (username : String) :
    Verdict (FitUsername username) (UsernameFault username) (checkUsername username) := by
  unfold checkUsername
  refine length_verdict (by decide) (fun hfit => ⟨hfit.fewest, hfit.most⟩) .length
    fun hfewest hmost => ?_
  split
  next hchars =>
    refine .fit ⟨hfewest, hmost, fun c hc => ?_⟩
    exact isUsernameChar_iff.mp (List.all_eq_true.mp hchars c hc)
  next hchars =>
    have hbad : ∃ c ∈ username.toList, ¬(Letter c ∨ Digit c ∨ c = '_') := by
      simpa only [List.all_eq_true, isUsernameChar_iff, Classical.not_forall, exists_prop]
        using hchars
    obtain ⟨c, hc, hfault⟩ := hbad
    exact .unfit (fun hfit => hfault (hfit.chars c hc)) (.characters hfewest hmost ⟨c, hc, hfault⟩)

theorem checkPassword_verdict (password : String) :
    Verdict (FitPassword password) (LengthFault .password 8 72 password)
      (checkPassword password) :=
  length_verdict (by decide) (fun hfit => ⟨hfit.fewest, hfit.most⟩) id
    fun hfewest hmost => .fit ⟨hfewest, hmost⟩

theorem checkEmail_verdict (email : String) :
    Verdict (FitEmail email) (EmailFault email) (checkEmail email) := by
  have hsize : (Text.Utf8.encodeChars email.toList).length = email.utf8ByteSize :=
    (Text.Utf8.utf8ByteSize_eq email).symm
  unfold checkEmail
  simp only [Subject.longest, hsize]
  split
  next hnil =>
    have hempty : email = "" := by simpa using hnil
    refine .unfit (fun hfit => ?_) (.missing hempty)
    have haddress := isEmail_toList_iff.mpr hfit.address
    rw [hempty] at haddress
    exact absurd haddress (by decide)
  next hne =>
    split
    next hlong => exact .unfit (fun hfit => Nat.not_le.mpr hlong hfit.most) (.long hlong)
    next hmost =>
      split
      next haddress => exact .fit ⟨Nat.not_lt.mp hmost, isEmail_toList_iff.mp haddress⟩
      next haddress =>
        have hfault : ¬Address email := fun h => haddress (isEmail_toList_iff.mpr h)
        exact .unfit (fun hfit => hfault hfit.address)
          (.format (by simpa using hne) (Nat.not_lt.mp hmost) hfault)

/-- A registration is checked for the rules, in their order. -/
theorem Registration.check_verdict (r : Registration) : Verdict r.Fit r.Breaks r.check := by
  have husername := checkUsername_verdict r.username
  have hemail := checkEmail_verdict (normalEmail r.email)
  have hpassword := checkPassword_verdict r.password
  unfold Registration.check
  generalize checkUsername r.username = username at husername
  generalize checkEmail (normalEmail r.email) = email at hemail
  generalize checkPassword r.password = password at hpassword
  cases husername with
  | unfit hunfit hfault => exact .unfit (fun hfit => hunfit hfit.username) (.username hfault)
  | fit husername =>
    cases hemail with
    | unfit hunfit hfault =>
      exact .unfit (fun hfit => hunfit hfit.email) (.email husername hfault)
    | fit hemail =>
      cases hpassword with
      | unfit hunfit hfault =>
        exact .unfit (fun hfit => hunfit hfit.password) (.password husername hemail hfault)
      | fit hpassword => exact .fit ⟨husername, hemail, hpassword⟩

theorem Registration.check_eq_ok {r : Registration} : r.check = .ok () ↔ r.Fit := by
  constructor
  · intro h
    cases h ▸ r.check_verdict with
    | fit hfit => exact hfit
  · intro hfit
    cases hcheck : r.check with
    | ok _ => rfl
    | error e =>
      cases hcheck ▸ r.check_verdict with
      | unfit hunfit _ => exact absurd hfit hunfit

end Agora.Account
