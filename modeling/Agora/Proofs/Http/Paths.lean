import Agora.Http.Target
import Agora.Proofs.Decimal
import Agora.Proofs.Text.Split
import Agora.Proofs.Text.Utf8

/-!
# Ids travel in paths

A path is read as the segments that it was put together from (`segments_of_path`), and a segment
that is a number in decimal digits stands for itself (`decodeSegment?_ofInt`): neither a digit nor a
sign is a slash or starts an escape.
-/

namespace Agora

/-! ## Segments -/

namespace Text

/-- A text that is put together from parts, each behind a separator, is cut into them again. -/
theorem splitAt_flatMap {p : Char → Bool} {c : Char} (hc : p c = true) {parts : List (List Char)}
    (h : ∀ part ∈ parts, ∀ d ∈ part, p d = false) :
    splitAt p (parts.flatMap (c :: ·)) = [] :: parts := by
  -- what stands before the first separator is a part of its own
  have hall : ∀ first, (∀ d ∈ first, p d = false) →
      splitAt p (first ++ parts.flatMap (c :: ·)) = first :: parts := by
    induction parts with
    | nil =>
      intro first hfirst
      rw [List.flatMap_nil, List.append_nil]
      exact splitAt_of_forall hfirst
    | cons next rest ih =>
      intro first hfirst
      obtain ⟨hnext, hrest⟩ := List.forall_mem_cons.mp h
      rw [List.flatMap_cons, List.cons_append, splitAt_append hfirst hc, ih hrest next hnext]
  exact hall [] fun _ hd => nomatch hd

end Text

namespace Http.Target

/-- The path that is put together from segments. -/
def pathOf (segments : List (List Char)) : List Char := segments.flatMap ('/' :: ·)

theorem segments_of_path {t : Target} {segments : List (List Char)} (ht : t.path = pathOf segments)
    (h : ∀ segment ∈ segments, '/' ∉ segment) : t.segments = segments := by
  have hcut : Text.splitAt (· = '/') (pathOf segments) = [] :: segments := by
    refine Text.splitAt_flatMap (by decide) fun segment hsegment c hc => ?_
    rw [decide_eq_false_iff_not]
    rintro rfl
    exact h segment hsegment hc
  unfold Target.segments
  rw [ht, hcut]
  rfl

end Http.Target

/-! ## Numbers as segments -/

namespace Text.Percent

/-- Without a percent sign there is nothing to replace. -/
theorem decode_of_forall {bytes : List UInt8} (h : ∀ b ∈ bytes, b ≠ 0x25) :
    decode bytes = bytes := by
  match bytes with
  | [] => rfl
  | [_] => rfl
  | [_, _] => rfl
  | a :: b :: c :: rest =>
    obtain ⟨ha, hothers⟩ := List.forall_mem_cons.mp h
    rw [decode, if_neg ha, decode_of_forall hothers]

/-- A text of ASCII characters other than the percent sign stands for itself. -/
theorem decodeSegment?_of_forall {cs : List Char} (h : ∀ c ∈ cs, c.toNat < 0x80 ∧ c ≠ '%') :
    decodeSegment? cs = some cs := by
  have hplain : ∀ b ∈ Utf8.encodeChars cs, b ≠ 0x25 := by
    intro b hb heq
    obtain ⟨c, hc, hbyte⟩ := List.mem_flatMap.mp hb
    obtain ⟨hascii, hpercent⟩ := h c hc
    rw [Utf8.encodeChar, if_pos hascii, List.mem_singleton, heq] at hbyte
    -- the byte of the character would be that of the percent sign
    have hcode := congrArg UInt8.toNat hbyte
    rw [byte_toNat_ofNat (by omega)] at hcode
    exact hpercent (Char.toNat_inj.mp hcode.symm)
  unfold decodeSegment? Utf8.decode?
  rw [decode_of_forall hplain, Utf8.decode_encodeChars, Utf8.allChars?_map_some]

end Text.Percent

namespace Decimal

theorem mem_ofInt {n : Int} {c : Char} (h : c ∈ ofInt n) : c = '-' ∨ IsDigit c := by
  unfold ofInt at h
  split at h
  next =>
    rcases List.mem_cons.mp h with rfl | h
    · exact Or.inl rfl
    · exact Or.inr (isDigit_of_mem_ofNat h)
  next => exact Or.inr (isDigit_of_mem_ofNat h)

theorem slash_not_mem_ofInt (n : Int) : '/' ∉ ofInt n := by
  intro h
  rcases mem_ofInt h with h | ⟨hlow, hhigh⟩
  · cases h
  · simp [Text.char_le_iff] at hlow

end Decimal

theorem Text.Percent.decodeSegment?_ofInt (n : Int) :
    decodeSegment? (Decimal.ofInt n) = some (Decimal.ofInt n) := by
  refine decodeSegment?_of_forall fun c hc => ?_
  rcases Decimal.mem_ofInt hc with rfl | ⟨hlow, hhigh⟩
  · decide
  · rw [Text.char_le_iff] at hlow hhigh
    simp at hlow hhigh
    refine ⟨by omega, ?_⟩
    rintro rfl
    simp at hlow

end Agora
