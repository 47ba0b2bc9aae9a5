import Agora.Proofs.Text.Characters
import Agora.Text.Base64

/-!
# Base64 is read exactly as it is written

Main result: `decode?_eq_some`, reading gives bytes back from their written form and from no other
text. Between characters and bytes stand the numbers below 64 (`sextets`): one half of the proof is
about single digits, the other about regrouping bits, and neither knows of the other.
-/

namespace Agora.Text.Base64.Alphabet

variable {α : Alphabet}

/-- The last two digits of an alphabet are told apart from each other and from all others. -/
structure IsProper (α : Alphabet) : Prop where
  value_digit62 : α.value? α.digit62 = some 62
  value_digit63 : α.value? α.digit63 = some 63

theorem isProper_urlSafe : urlSafe.IsProper := ⟨by decide, by decide⟩

/-! ## Digits -/

/-- A digit stands for the number that it was made from. -/
theorem value?_digit (hα : α.IsProper) {n : Nat} (hn : n < 64) : α.value? (α.digit n) = some n := by
  unfold digit
  split
  next h =>
    have hc : (Char.ofNat (65 + n)).toNat = 65 + n := toNat_ofNat (by omega)
    unfold value?
    simp only [char_le_iff, hc]
    rw [if_pos (by simp; omega)]
    simp
  next h =>
    split
    next h' =>
      have hc : (Char.ofNat (71 + n)).toNat = 71 + n := toNat_ofNat (by omega)
      unfold value?
      simp only [char_le_iff, hc]
      rw [if_neg (by simp; omega), if_pos (by simp; omega)]
      simp
    next h' =>
      split
      next h'' =>
        have hc : (Char.ofNat (n - 4)).toNat = n - 4 := toNat_ofNat (by omega)
        unfold value?
        simp only [char_le_iff, hc]
        rw [if_neg (by simp; omega), if_neg (by simp; omega), if_pos (by simp; omega)]
        rw [show n - 4 + 4 = n by omega]
      next h'' =>
        split
        next h62 =>
          subst h62
          exact hα.value_digit62
        next h62 =>
          rw [show n = 63 by omega]
          exact hα.value_digit63

/-- What stands for a number is the digit of it. -/
theorem digit_of_value? {c : Char} {n : Nat} (h : α.value? c = some n) :
    n < 64 ∧ α.digit n = c := by
  unfold value? at h
  simp only [char_le_iff] at h
  split at h
  next hc =>
    simp at hc
    obtain rfl := Option.some.inj h
    refine ⟨by omega, ?_⟩
    rw [digit, if_pos (by omega), show 65 + (c.toNat - 65) = c.toNat by omega, Char.ofNat_toNat]
  next =>
    split at h
    next hc =>
      simp at hc
      obtain rfl := Option.some.inj h
      refine ⟨by omega, ?_⟩
      rw [digit, if_neg (by omega), if_pos (by omega), show 71 + (c.toNat - 71) = c.toNat by omega,
        Char.ofNat_toNat]
    next =>
      split at h
      next hc =>
        simp at hc
        obtain rfl := Option.some.inj h
        refine ⟨by omega, ?_⟩
        rw [digit, if_neg (by omega), if_neg (by omega), if_pos (by omega),
          show c.toNat + 4 - 4 = c.toNat by omega, Char.ofNat_toNat]
      next =>
        split at h
        next hc =>
          obtain rfl := Option.some.inj h
          exact ⟨by omega, hc.symm⟩
        next =>
          split at h
          next hc =>
            obtain rfl := Option.some.inj h
            exact ⟨by omega, hc.symm⟩
          next => cases h

/-! ## Regrouping bits -/

/-- The numbers whose digits are the written form of bytes. -/
def sextets : List UInt8 → List Nat
  | [] => []
  | [a] => [a.toNat / 4, a.toNat % 4 * 16]
  | [a, b] => [a.toNat / 4, a.toNat % 4 * 16 + b.toNat / 16, b.toNat % 16 * 4]
  | a :: b :: c :: rest =>
    a.toNat / 4 :: (a.toNat % 4 * 16 + b.toNat / 16) :: (b.toNat % 16 * 4 + c.toNat / 64) ::
      c.toNat % 64 :: sextets rest

theorem encode_eq_map (bytes : List UInt8) : α.encode bytes = (sextets bytes).map α.digit := by
  fun_induction sextets bytes with
  | case1 => rfl
  | case2 a => rfl
  | case3 a b => rfl
  | case4 a b c rest ih => rw [encode, ih]; rfl

theorem lt_of_mem_sextets {bytes : List UInt8} {n : Nat} (h : n ∈ sextets bytes) : n < 64 := by
  fun_induction sextets bytes with
  | case1 => cases h
  | case2 a =>
    have := a.toNat_lt
    simp only [List.mem_cons, List.not_mem_nil, or_false] at h
    omega
  | case3 a b =>
    have := a.toNat_lt
    have := b.toNat_lt
    simp only [List.mem_cons, List.not_mem_nil, or_false] at h
    omega
  | case4 a b c rest ih =>
    have := a.toNat_lt
    have := b.toNat_lt
    have := c.toNat_lt
    simp only [List.mem_cons] at h
    rcases h with h | h | h | h | h
    · omega
    · omega
    · omega
    · omega
    · exact ih h

private theorem ofNat_eq {n : Nat} {b : UInt8} (h : n = b.toNat) : UInt8.ofNat n = b := by
  rw [h, UInt8.ofNat_toNat]

theorem bytesOf?_sextets (bytes : List UInt8) : bytesOf? (sextets bytes) = some bytes := by
  fun_induction sextets bytes with
  | case1 => rfl
  | case2 a =>
    have := a.toNat_lt
    rw [bytesOf?, if_pos (by omega), ofNat_eq (b := a) (by omega)]
  | case3 a b =>
    have := a.toNat_lt
    have := b.toNat_lt
    rw [bytesOf?, if_pos (by omega), ofNat_eq (b := a) (by omega), ofNat_eq (b := b) (by omega)]
  | case4 a b c rest ih =>
    have := a.toNat_lt
    have := b.toNat_lt
    have := c.toNat_lt
    rw [bytesOf?, ih, ofNat_eq (b := a) (by omega), ofNat_eq (b := b) (by omega),
      ofNat_eq (b := c) (by omega)]
    rfl

theorem sextets_of_bytesOf? {ns : List Nat} {bytes : List UInt8} (hns : ∀ n ∈ ns, n < 64)
    (h : bytesOf? ns = some bytes) : sextets bytes = ns := by
  fun_induction bytesOf? ns generalizing bytes with
  | case1 =>
    cases h
    rfl
  | case2 => cases h
  | case3 p q hq =>
    cases h
    have hp := hns p (by simp)
    have hq' := hns q (by simp)
    rw [sextets, byte_toNat_ofNat (by omega)]
    congr 1
    · omega
    · congr 1
      omega
  | case4 => cases h
  | case5 p q r hr =>
    cases h
    have hp := hns p (by simp)
    have hq := hns q (by simp)
    have hr' := hns r (by simp)
    rw [sextets, byte_toNat_ofNat (by omega), byte_toNat_ofNat (by omega)]
    congr 1
    · omega
    · congr 1
      · omega
      · congr 1
        omega
  | case6 => cases h
  | case7 p q r s rest ih =>
    obtain ⟨tail, htail, rfl⟩ := Option.map_eq_some_iff.mp h
    have hp := hns p (by simp)
    have hq := hns q (by simp)
    have hr := hns r (by simp)
    have hs := hns s (by simp)
    have hrest := ih (fun n hn => hns n (by simp [hn])) htail
    rw [sextets, hrest, byte_toNat_ofNat (by omega), byte_toNat_ofNat (by omega),
      byte_toNat_ofNat (by omega)]
    congr 1
    · omega
    · congr 1
      · omega
      · congr 1
        · omega
        · congr 1
          omega

/-! ## Texts -/

theorem mapM_value?_map (hα : α.IsProper) {ns : List Nat} (hns : ∀ n ∈ ns, n < 64) :
    (ns.map α.digit).mapM α.value? = some ns := by
  induction ns with
  | nil => rfl
  | cons n rest ih =>
    have hn := value?_digit hα (hns n List.mem_cons_self)
    have hrest := ih fun m hm => hns m (List.mem_cons_of_mem _ hm)
    rw [List.map_cons, List.mapM_cons, hn, hrest]
    rfl

theorem map_of_mapM_value? {cs : List Char} {ns : List Nat} (h : cs.mapM α.value? = some ns) :
    (∀ n ∈ ns, n < 64) ∧ cs = ns.map α.digit := by
  induction cs generalizing ns with
  | nil =>
    cases h
    exact ⟨by simp, rfl⟩
  | cons c rest ih =>
    rw [List.mapM_cons] at h
    cases hc : α.value? c with
    | none =>
      rw [hc] at h
      cases h
    | some n =>
      cases hrest : rest.mapM α.value? with
      | none =>
        rw [hc, hrest] at h
        cases h
      | some ms =>
        rw [hc, hrest] at h
        cases h
        obtain ⟨hn, hdigit⟩ := digit_of_value? hc
        obtain ⟨hms, htext⟩ := ih hrest
        refine ⟨?_, by rw [List.map_cons, hdigit, ← htext]⟩
        intro m hm
        rcases List.mem_cons.mp hm with rfl | hm
        · exact hn
        · exact hms m hm

/-- Reading accepts the written form of bytes and nothing else. -/
theorem decode?_eq_some (hα : α.IsProper) {cs : List Char} {bytes : List UInt8} :
    α.decode? cs = some bytes ↔ cs = α.encode bytes := by
  unfold decode?
  constructor
  · intro h
    cases hns : cs.mapM α.value? with
    | none =>
      rw [hns] at h
      cases h
    | some ns =>
      rw [hns] at h
      obtain ⟨hlt, htext⟩ := map_of_mapM_value? hns
      rw [encode_eq_map, sextets_of_bytesOf? hlt h]
      exact htext
  · rintro rfl
    rw [encode_eq_map, mapM_value?_map hα fun n hn => lt_of_mem_sextets hn]
    exact bytesOf?_sextets bytes

/-- Every character of a written form is a digit. -/
theorem exists_digit_of_mem_encode {bytes : List UInt8} {c : Char} (h : c ∈ α.encode bytes) :
    ∃ n < 64, c = α.digit n := by
  rw [encode_eq_map] at h
  obtain ⟨n, hn, rfl⟩ := List.mem_map.mp h
  exact ⟨n, lt_of_mem_sextets hn, rfl⟩

end Agora.Text.Base64.Alphabet
