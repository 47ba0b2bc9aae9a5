import Agora.Json.Token
import Agora.Json.Value
import Agora.Proofs.Decimal

/-!
# Strings come back from between their quotes

Main result: `pieces?_escape`. What a character is written as inside a string is read as one piece,
which stands for that character wherever it stands: an escaped unit of UTF-16 is only ever written
for a control, so it is never half of a surrogate pair.
-/

namespace Agora.Text.Hex

theorem value?_digit {n : Nat} (h : n < 16) : value? (digit n) = some n := by
  have hall : ∀ n < 16, value? (digit n) = some n := by decide
  exact hall n h

end Agora.Text.Hex

namespace Agora.Json.Token

/-! ## Pieces -/

/-- The piece stands for the character, whatever follows it. -/
def StandsFor (p : Piece) (c : Char) : Prop :=
  ∀ ps, text? (p :: ps) = (text? ps).map (c :: ·)

theorem standsFor_symbol (c : Char) : StandsFor (.symbol (some c)) c := by
  intro ps
  rw [text?]
  cases text? ps with
  | none => rfl
  | some cs => rfl

theorem standsFor_unit {c : Char} (h : c.toNat < 0xD800) : StandsFor (.unit c.toNat) c := by
  intro ps
  rw [text?.eq_def]
  simp only
  rw [if_pos (Or.inl h), Char.ofNat_toNat]
  cases text? ps with
  | none => rfl
  | some cs => rfl

/-! ## What is written is read -/

/-- The piece is put in front of what is read from the rest of a string. -/
def before (p : Piece) (read : Option (List Piece × List Symbol)) :
    Option (List Piece × List Symbol) :=
  read.map fun r => (p :: r.1, r.2)

theorem pieces?_escaped {c d : Char} (hc : escaped? c = some d) (hu : c ≠ 'u')
    (rest : List Symbol) :
    pieces? (some '\\' :: some c :: rest) = before (.symbol (some d)) (pieces? rest) := by
  rw [pieces?]
  · rw [hc]
    cases pieces? rest with
    | none => rfl
    | some r => rfl
  · intro a b c' d' rest' h
    simp_all

theorem pieces?_unit {a b c d : Char} {n : Nat}
    (h : unit? (some a) (some b) (some c) (some d) = some n) (rest : List Symbol) :
    pieces? (some '\\' :: some 'u' :: some a :: some b :: some c :: some d :: rest) =
      before (.unit n) (pieces? rest) := by
  rw [pieces?, h]
  cases pieces? rest with
  | none => rfl
  | some r => rfl

theorem pieces?_plain {c : Char} (hcontrol : 0x20 ≤ c.toNat) (hquote : c ≠ '"')
    (hslash : c ≠ '\\') (rest : List Symbol) :
    pieces? (some c :: rest) = before (.symbol (some c)) (pieces? rest) := by
  rw [pieces?]
  · rw [if_neg]
    · cases pieces? rest with
      | none => rfl
      | some r => rfl
    · rintro (h | h)
      · omega
      · exact hslash h
  · exact hquote
  · intro a b c' d' rest' h
    simp_all
  · intro c h
    simp_all


/-- A character with a letter of its own is read from that letter. -/
theorem pieces?_letter {c d : Char} (hd : escaped? d = some c) (hu : d ≠ 'u')
    (rest : List Symbol) :
    ∃ p, StandsFor p c ∧ pieces? (['\\', d].map some ++ rest) = before p (pieces? rest) :=
  ⟨_, standsFor_symbol c, pieces?_escaped hd hu rest⟩

/-- A control without a letter is read from its number. -/
theorem pieces?_control {c : Char} (hc : c.toNat < 0x20) (rest : List Symbol) :
    ∃ p, StandsFor p c ∧
      pieces? (['\\', 'u', '0', '0', Text.Hex.digit (c.toNat / 16),
        Text.Hex.digit (c.toNat % 16)].map some ++ rest) = before p (pieces? rest) := by
  have hunit : unit? (some '0') (some '0') (some (Text.Hex.digit (c.toNat / 16)))
      (some (Text.Hex.digit (c.toNat % 16))) = some c.toNat := by
    unfold unit?
    simp only [Option.bind_eq_bind, Option.bind_some,
      show Text.Hex.value? '0' = some 0 by decide,
      Text.Hex.value?_digit (show c.toNat / 16 < 16 by omega),
      Text.Hex.value?_digit (show c.toNat % 16 < 16 by omega), Option.pure_def,
      Option.some.injEq]
    omega
  exact ⟨_, standsFor_unit (by omega), pieces?_unit hunit rest⟩

/-- Inside a string a character is read from what it is written as. -/
theorem pieces?_escapeChar (c : Char) (rest : List Symbol) :
    ∃ p, StandsFor p c ∧
      pieces? ((escapeChar c).map some ++ rest) = before p (pieces? rest) := by
  unfold escapeChar
  by_cases hmark : c = '"' ∨ c = '\\'
  · rw [if_pos hmark]
    rcases hmark with rfl | rfl
    · exact pieces?_letter (by decide) (by decide) rest
    · exact pieces?_letter (by decide) (by decide) rest
  rw [if_neg hmark]
  by_cases hb : c = '\x08'
  · rw [if_pos hb, hb]
    exact pieces?_letter (by decide) (by decide) rest
  rw [if_neg hb]
  by_cases ht : c = '\t'
  · rw [if_pos ht, ht]
    exact pieces?_letter (by decide) (by decide) rest
  rw [if_neg ht]
  by_cases hn : c = '\n'
  · rw [if_pos hn, hn]
    exact pieces?_letter (by decide) (by decide) rest
  rw [if_neg hn]
  by_cases hf : c = '\x0c'
  · rw [if_pos hf, hf]
    exact pieces?_letter (by decide) (by decide) rest
  rw [if_neg hf]
  by_cases hr : c = '\r'
  · rw [if_pos hr, hr]
    exact pieces?_letter (by decide) (by decide) rest
  rw [if_neg hr]
  by_cases hcontrol : c.toNat < 0x20
  · rw [if_pos hcontrol]
    exact pieces?_control hcontrol rest
  · -- every other character stands for itself
    rw [if_neg hcontrol]
    have hquote : c ≠ '"' := fun h => hmark (Or.inl h)
    have hslash : c ≠ '\\' := fun h => hmark (Or.inr h)
    exact ⟨_, standsFor_symbol c, pieces?_plain (by omega) hquote hslash rest⟩

/-- A text between quotes is read back, and nothing behind the quotes is looked at. -/
theorem pieces?_escape (cs : List Char) (rest : List Symbol) :
    ∃ ps, text? ps = some cs ∧
      pieces? ((cs.flatMap escapeChar).map some ++ some '"' :: rest) = some (ps, rest) := by
  induction cs with
  | nil => exact ⟨[], rfl, by rw [List.flatMap_nil, List.map_nil, List.nil_append, pieces?]⟩
  | cons c cs ih =>
    obtain ⟨ps, htext, hpieces⟩ := ih
    obtain ⟨p, hp, hread⟩ := pieces?_escapeChar c
      ((cs.flatMap escapeChar).map some ++ some '"' :: rest)
    refine ⟨p :: ps, ?_, ?_⟩
    · rw [hp, htext]
      rfl
    · rw [List.flatMap_cons, List.map_append, List.append_assoc, hread, hpieces]
      rfl

end Agora.Json.Token
