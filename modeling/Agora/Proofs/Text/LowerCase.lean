import Mathlib.Data.List.TakeWhile
import Agora.Proofs.Text.Characters
import Agora.Text.Blank
import Agora.Text.LowerCase

/-!
# Lower case and trimming leave what they have made

No lower case has an English capital in it (`not_capital_of_mem_lower`), whatever the text was: the
table of capitals leads out of that range from anywhere. A text of small letters, digits and marks
of ASCII is therefore its own lower case (`lower_eq_self`).
-/

namespace Agora.Text

/-- The capitals of English. -/
def IsCapital (c : Char) : Prop := 0x41 ≤ c.toNat ∧ c.toNat ≤ 0x5A

instance (c : Char) : Decidable (IsCapital c) := inferInstanceAs (Decidable (_ ∧ _))

/-- Beyond ASCII no run of the table leads to an English capital. -/
theorem not_capital_of_run : ∀ r ∈ CaseTable.capitals,
    r.last < 0x80 ∨ 0x5A < r.first + r.shift ∨ r.last + r.shift < 0x41 := by
  decide +kernel

/-- A character that is made of a number has this number, or none. -/
theorem toNat_ofNat_cases (n : Nat) : (Char.ofNat n).toNat = n ∨ (Char.ofNat n).toNat = 0 := by
  unfold Char.ofNat
  by_cases hvalid : n.isValidChar
  · rw [dif_pos hvalid]
    exact Or.inl rfl
  · rw [dif_neg hvalid]
    exact Or.inr rfl

theorem not_capital_of_lower? {c : Char} (hc : 0x80 ≤ c.toNat) {n : Nat}
    (h : CaseTable.capitals.findSome? (·.lower? c.toNat) = some n) : ¬IsCapital (Char.ofNat n) := by
  obtain ⟨r, hr, hlower⟩ := List.exists_of_findSome?_eq_some h
  have hrun := not_capital_of_run r hr
  unfold CaseTable.Run.lower? at hlower
  split at hlower
  next hin =>
    cases hlower
    unfold IsCapital
    obtain hn | hn := toNat_ofNat_cases ((c.toNat : Int) + r.shift).toNat <;> rw [hn] <;> omega
  next => cases hlower

/-- In ASCII no small letter is a capital, and what is no capital is its own small letter. -/
theorem toLower_ascii {c : Char} (h : c.toNat < 0x80) :
    ¬IsCapital c.toLower ∧ (¬IsCapital c → c.toLower = c) := by
  have hall : ∀ n < 0x80, ¬IsCapital (Char.ofNat n).toLower ∧
      (¬IsCapital (Char.ofNat n) → (Char.ofNat n).toLower = Char.ofNat n) := by decide
  have hc := hall c.toNat h
  rwa [Char.ofNat_toNat] at hc

theorem not_capital_of_mem_lowerChar {c d : Char} (h : d ∈ lowerChar c) : ¬IsCapital d := by
  unfold lowerChar at h
  split at h
  next hascii =>
    rw [List.mem_singleton.mp h]
    exact (toLower_ascii hascii).1
  next hc =>
    split at h
    next =>
      rcases List.mem_cons.mp h with rfl | h
      · decide
      · rw [List.mem_singleton.mp h]
        decide
    next =>
      split at h
      next n hlower =>
        rw [List.mem_singleton.mp h]
        exact not_capital_of_lower? (Nat.not_lt.mp hc) hlower
      next =>
        rw [List.mem_singleton.mp h]
        unfold IsCapital
        omega

theorem not_capital_of_mem_lower {cs : List Char} {d : Char} (h : d ∈ lower cs) : ¬IsCapital d := by
  unfold lower at h
  generalize false = afterCased at h
  induction cs generalizing afterCased with
  | nil => cases h
  | cons c rest ih =>
    rw [lowerFrom] at h
    rcases List.mem_append.mp h with h | h
    · split at h
      next =>
        rw [List.mem_singleton.mp h]
        split <;> decide
      next => exact not_capital_of_mem_lowerChar h
    · exact ih _ h

/-- Characters of ASCII that are no capitals are their own lower case. -/
theorem lowerChar_eq_self {c : Char} (hascii : c.toNat < 0x80) (hc : ¬IsCapital c) :
    lowerChar c = [c] := by
  unfold lowerChar
  rw [if_pos hascii, (toLower_ascii hascii).2 hc]

theorem lower_eq_self {cs : List Char} (h : ∀ c ∈ cs, c.toNat < 0x80 ∧ ¬IsCapital c) :
    lower cs = cs := by
  unfold lower
  generalize false = afterCased
  induction cs generalizing afterCased with
  | nil => rfl
  | cons c rest ih =>
    obtain ⟨⟨hascii, hc⟩, hrest⟩ := List.forall_mem_cons.mp h
    have hsigma : c ≠ 'Σ' := by
      rintro rfl
      exact absurd hascii (by decide)
    rw [lowerFrom, if_neg hsigma, lowerChar_eq_self hascii hc, ih hrest]
    rfl

theorem trim_eq_self {cs : List Char} (h : ∀ c ∈ cs, isBlank c = false) : trim cs = cs := by
  have hdrop : ∀ {ds : List Char}, (∀ c ∈ ds, isBlank c = false) → ds.dropWhile isBlank = ds := by
    intro ds hds
    cases ds with
    | nil => rfl
    | cons d rest => rw [List.dropWhile_cons_of_neg (by simp [hds d List.mem_cons_self])]
  unfold trim trimStart trimEnd
  rw [hdrop h, hdrop fun c hc => h c (List.mem_reverse.mp hc), List.reverse_reverse]

/-- Nothing is left of a text exactly if it has nothing but blanks. -/
theorem trim_eq_nil {cs : List Char} : trim cs = [] ↔ ∀ c ∈ cs, isBlank c = true := by
  unfold trim trimEnd
  rw [List.reverse_eq_nil_iff, List.dropWhile_eq_nil_iff, ← List.dropWhile_eq_nil_iff (l := cs)]
  unfold trimStart
  constructor
  · intro hblank
    cases hcs : cs.dropWhile isBlank with
    | nil => rfl
    | cons c rest =>
      -- what is left begins with no blank
      have hfirst : isBlank c = true := hblank c (by simp [hcs])
      have hkept := List.head?_dropWhile_not isBlank cs
      rw [hcs] at hkept
      simp [hfirst] at hkept
  · intro hnil c hc
    rw [hnil] at hc
    cases hc

end Agora.Text
