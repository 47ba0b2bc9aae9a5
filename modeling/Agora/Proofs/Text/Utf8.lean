import Agora.Proofs.Text.Characters
import Agora.Text.Utf8

/-!
# Characters come back from their bytes

Main result: `decode_encodeChars`. A character of two or more bytes is opened by its first byte
with the range that the second one has to lie in, and each further byte adds six bits; the ranges
are those that the writing of a character keeps to.

`utf8ByteSize_eq`: a string is as long as it is written.
-/

namespace Agora.Text.Utf8

/-- A byte at the start of a character that it opens. -/
theorem decodeFrom_opens {b : UInt8} {p : Pending} (h : lead b = .opens p) (rest : List UInt8) :
    decodeFrom none (b :: rest) = decodeFrom (some p) rest := by
  rw [decodeFrom, advance, start, h]
  rfl

/-- The last byte of a character. -/
theorem decodeFrom_last {p : Pending} {b : UInt8} (hlow : p.lowest ≤ b.toNat)
    (hhigh : b.toNat ≤ p.highest) (hlast : p.missing = 1) (rest : List UInt8) :
    decodeFrom (some p) (b :: rest) =
      some (.ofNat (p.value * 64 + (b.toNat - 0x80))) :: decodeFrom none rest := by
  rw [decodeFrom, advance, if_pos ⟨hlow, hhigh⟩]
  simp only [hlast, ↓reduceIte]
  rfl

/-- A byte of a character that is not its last. -/
theorem decodeFrom_more {p : Pending} {b : UInt8} (hlow : p.lowest ≤ b.toNat)
    (hhigh : b.toNat ≤ p.highest) (hmore : p.missing ≠ 1) (rest : List UInt8) :
    decodeFrom (some p) (b :: rest) =
      decodeFrom (some { value := p.value * 64 + (b.toNat - 0x80), missing := p.missing - 1 })
        rest := by
  rw [decodeFrom, advance, if_pos ⟨hlow, hhigh⟩]
  simp only [hmore, ↓reduceIte]
  rfl

/-! ## The first byte -/

theorem lead_two {b : UInt8} {v : Nat} (hb : b.toNat = 0xC0 + v) (hlow : 2 ≤ v) (hhigh : v < 32) :
    lead b = .opens { value := v, missing := 1 } := by
  unfold lead
  simp only [hb]
  rw [if_neg (by omega), if_neg (by omega), if_pos (by omega), show 0xC0 + v - 0xC0 = v by omega]

/-- The range of the second of three bytes. -/
def threeBytes (v : Nat) : Pending where
  value := v
  missing := 2
  lowest := if v = 0 then 0xA0 else 0x80
  highest := if v = 0xD then 0x9F else 0xBF

theorem lead_three {b : UInt8} {v : Nat} (hb : b.toNat = 0xE0 + v) (hv : v < 16) :
    lead b = .opens (threeBytes v) := by
  unfold lead threeBytes
  simp only [hb]
  rw [if_neg (by omega), if_neg (by omega), if_neg (by omega)]
  by_cases h0 : v = 0
  · subst h0
    rfl
  · by_cases hD : v = 0xD
    · subst hD
      rfl
    · rw [if_neg (by omega), if_neg (by omega), if_pos (by omega), if_neg h0, if_neg hD,
        show 0xE0 + v - 0xE0 = v by omega]

/-- The range of the second of four bytes. -/
def fourBytes (v : Nat) : Pending where
  value := v
  missing := 3
  lowest := if v = 0 then 0x90 else 0x80
  highest := if v = 4 then 0x8F else 0xBF

theorem lead_four {b : UInt8} {v : Nat} (hb : b.toNat = 0xF0 + v) (hv : v ≤ 4) :
    lead b = .opens (fourBytes v) := by
  unfold lead fourBytes
  simp only [hb]
  rw [if_neg (by omega), if_neg (by omega), if_neg (by omega), if_neg (by omega),
    if_neg (by omega), if_neg (by omega)]
  by_cases h0 : v = 0
  · subst h0
    rfl
  · by_cases h4 : v = 4
    · subst h4
      rfl
    · rw [if_neg (by omega), if_pos (by omega), if_neg h0, if_neg h4,
        show 0xF0 + v - 0xF0 = v by omega]

/-! ## Whole characters -/

/-- One byte is the number of its character. -/
theorem decodeFrom_one {c : Char} (h : c.toNat < 0x80) (rest : List UInt8) :
    decodeFrom none (.ofNat c.toNat :: rest) = some c :: decodeFrom none rest := by
  have hb := byte_toNat_ofNat (show c.toNat < 256 by omega)
  have hlead : lead (UInt8.ofNat c.toNat) = .char c := by
    unfold lead
    simp only [hb]
    rw [if_pos h, Char.ofNat_toNat]
  rw [decodeFrom, advance, start, hlead]
  rfl

theorem decodeFrom_two {c : Char} (hlow : 0x80 ≤ c.toNat) (hhigh : c.toNat < 0x800)
    (rest : List UInt8) :
    decodeFrom none (.ofNat (0xC0 + c.toNat / 64) :: .ofNat (0x80 + c.toNat % 64) :: rest) =
      some c :: decodeFrom none rest := by
  have ha := byte_toNat_ofNat (show 0xC0 + c.toNat / 64 < 256 by omega)
  have hb := byte_toNat_ofNat (show 0x80 + c.toNat % 64 < 256 by omega)
  rw [decodeFrom_opens (lead_two ha (by omega) (by omega)),
    decodeFrom_last (by simp only [hb]; omega) (by simp only [hb]; omega) rfl, hb]
  simp only
  rw [show c.toNat / 64 * 64 + (0x80 + c.toNat % 64 - 0x80) = c.toNat by omega, Char.ofNat_toNat]

/-- The second of three bytes leaves out overlong forms and surrogates. -/
theorem range_threeBytes {c : Char} (hlow : 0x800 ≤ c.toNat) (hhigh : c.toNat < 0x10000) :
    (threeBytes (c.toNat / 4096)).lowest ≤ 0x80 + c.toNat / 64 % 64 ∧
      0x80 + c.toNat / 64 % 64 ≤ (threeBytes (c.toNat / 4096)).highest := by
  have hvalid := toNat_valid c
  unfold threeBytes
  simp only
  constructor
  · split
    next => omega
    next => omega
  · split
    next => omega
    next => omega

theorem decodeFrom_three {c : Char} (hlow : 0x800 ≤ c.toNat) (hhigh : c.toNat < 0x10000)
    (rest : List UInt8) :
    decodeFrom none (.ofNat (0xE0 + c.toNat / 4096) :: .ofNat (0x80 + c.toNat / 64 % 64) ::
      .ofNat (0x80 + c.toNat % 64) :: rest) = some c :: decodeFrom none rest := by
  have ha := byte_toNat_ofNat (show 0xE0 + c.toNat / 4096 < 256 by omega)
  have hb := byte_toNat_ofNat (show 0x80 + c.toNat / 64 % 64 < 256 by omega)
  have hc := byte_toNat_ofNat (show 0x80 + c.toNat % 64 < 256 by omega)
  obtain ⟨hlowest, hhighest⟩ := range_threeBytes hlow hhigh
  rw [decodeFrom_opens (lead_three ha (by omega)),
    decodeFrom_more (by rw [hb]; exact hlowest) (by rw [hb]; exact hhighest) (by simp [threeBytes]),
    decodeFrom_last (by simp only [hc]; omega) (by simp only [hc]; omega) rfl, hb, hc]
  simp only [threeBytes]
  rw [show (c.toNat / 4096 * 64 + (0x80 + c.toNat / 64 % 64 - 0x80)) * 64 +
    (0x80 + c.toNat % 64 - 0x80) = c.toNat by omega, Char.ofNat_toNat]

/-- The second of four bytes keeps to the range of characters. -/
theorem range_fourBytes {c : Char} (hlow : 0x10000 ≤ c.toNat) :
    (fourBytes (c.toNat / 262144)).lowest ≤ 0x80 + c.toNat / 4096 % 64 ∧
      0x80 + c.toNat / 4096 % 64 ≤ (fourBytes (c.toNat / 262144)).highest := by
  have hvalid := toNat_valid c
  unfold fourBytes
  simp only
  constructor
  · split
    next => omega
    next => omega
  · split
    next => omega
    next => omega

theorem decodeFrom_four {c : Char} (hlow : 0x10000 ≤ c.toNat) (rest : List UInt8) :
    decodeFrom none (.ofNat (0xF0 + c.toNat / 262144) :: .ofNat (0x80 + c.toNat / 4096 % 64) ::
      .ofNat (0x80 + c.toNat / 64 % 64) :: .ofNat (0x80 + c.toNat % 64) :: rest) =
      some c :: decodeFrom none rest := by
  have hvalid := toNat_valid c
  have ha := byte_toNat_ofNat (show 0xF0 + c.toNat / 262144 < 256 by omega)
  have hb := byte_toNat_ofNat (show 0x80 + c.toNat / 4096 % 64 < 256 by omega)
  have hc := byte_toNat_ofNat (show 0x80 + c.toNat / 64 % 64 < 256 by omega)
  have hd := byte_toNat_ofNat (show 0x80 + c.toNat % 64 < 256 by omega)
  obtain ⟨hlowest, hhighest⟩ := range_fourBytes hlow
  rw [decodeFrom_opens (lead_four ha (by omega)),
    decodeFrom_more (by rw [hb]; exact hlowest) (by rw [hb]; exact hhighest) (by simp [fourBytes]),
    decodeFrom_more (by simp only [hc]; omega) (by simp only [hc]; omega) (by simp [fourBytes]),
    decodeFrom_last (by simp only [hd]; omega) (by simp only [hd]; omega) (by simp [fourBytes]),
    hb, hc, hd]
  simp only [fourBytes]
  rw [show ((c.toNat / 262144 * 64 + (0x80 + c.toNat / 4096 % 64 - 0x80)) * 64 +
    (0x80 + c.toNat / 64 % 64 - 0x80)) * 64 + (0x80 + c.toNat % 64 - 0x80) = c.toNat by omega,
    Char.ofNat_toNat]

theorem decodeFrom_encodeChar (c : Char) (rest : List UInt8) :
    decodeFrom none (encodeChar c ++ rest) = some c :: decodeFrom none rest := by
  unfold encodeChar
  simp only
  split
  next hone => exact decodeFrom_one hone rest
  next hone =>
    split
    next htwo => exact decodeFrom_two (by omega) htwo rest
    next htwo =>
      split
      next hthree => exact decodeFrom_three (by omega) hthree rest
      next hthree => exact decodeFrom_four (by omega) rest

theorem decode_encodeChars (cs : List Char) : decode (encodeChars cs) = cs.map some := by
  unfold decode encodeChars
  induction cs with
  | nil => rfl
  | cons c rest ih => rw [List.flatMap_cons, decodeFrom_encodeChar, ih, List.map_cons]

/-! ## Sizes -/

theorem length_encodeChar (c : Char) : (encodeChar c).length = c.utf8Size := by
  unfold encodeChar Char.utf8Size
  simp only [UInt32.le_iff_toNat_le]
  show _ = if c.toNat ≤ 127 then 1 else if c.toNat ≤ 2047 then 2 else
    if c.toNat ≤ 65535 then 3 else 4
  by_cases hone : c.toNat < 0x80
  · rw [if_pos hone, if_pos (by omega)]
    rfl
  rw [if_neg hone, if_neg (show ¬c.toNat ≤ 127 by omega)]
  by_cases htwo : c.toNat < 0x800
  · rw [if_pos htwo, if_pos (by omega)]
    rfl
  rw [if_neg htwo, if_neg (show ¬c.toNat ≤ 2047 by omega)]
  by_cases hthree : c.toNat < 0x10000
  · rw [if_pos hthree, if_pos (by omega)]
    rfl
  · rw [if_neg hthree, if_neg (by omega)]
    rfl

/-- A string has as many bytes as are written. -/
theorem utf8ByteSize_eq (s : String) : s.utf8ByteSize = (encode s).length := by
  have hbytes : s.toByteArray = (s.toList.flatMap String.utf8EncodeChar).toByteArray :=
    s.utf8Encode_toList.symm
  unfold String.utf8ByteSize encode encodeChars
  rw [hbytes, List.size_toByteArray, List.length_flatMap, List.length_flatMap]
  simp only [length_encodeChar, String.length_utf8EncodeChar]

end Agora.Text.Utf8
