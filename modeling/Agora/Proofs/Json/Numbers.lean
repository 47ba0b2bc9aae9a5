import Agora.Json.Number
import Agora.Proofs.Decimal

/-!
# Whole numbers are in range

Main result: `isOutOfRange_ofInt`, the literal of a whole number of up to 64 bits is never too large
for double precision. All its digits fit into a word, so that they are kept as they are
(`leading_ofInt`), and a word is far below the largest magnitude (`ofRatio_near`): the product with
the power of ten, which is that of no zeros, can be bounded roughly.
-/

namespace Agora

namespace Decimal.Binary64

/-! ## Rounding far below the largest magnitude -/

theorem log2_le {n k : Nat} (h : n < Nat.pow 2 (k + 1)) : n.log2 ≤ k := by
  by_cases hn : n = 0
  · rw [hn, Nat.log2_zero]
    exact Nat.zero_le k
  · exact Nat.lt_succ_iff.mp ((Nat.log2_lt hn).mpr h)

theorem stepExponent_range (num den : Nat) :
    max (-1074) ((num.log2 : Int) - den.log2 - 53) ≤ stepExponent num den ∧
      stepExponent num den ≤ max (-1074) ((num.log2 : Int) - den.log2 - 53) + 1 := by
  unfold stepExponent
  simp only
  split
  next => omega
  next => omega

theorem divideEven_le (num den : Nat) : divideEven num den ≤ num + 1 := by
  have hquotient := Nat.div_le_self num den
  unfold divideEven
  simp only
  split
  next => omega
  next =>
    split
    next => omega
    next => omega

theorem inSteps_le (num den : Nat) {q : Int} {k : Nat} (hq : -(k : Int) ≤ q) :
    (inSteps num den q).1 ≤ num * Nat.pow 2 k := by
  unfold inSteps
  split
  next => exact Nat.le_mul_of_pos_right num (Nat.pow_pos (by decide))
  next => exact Nat.mul_le_mul_left num (Nat.pow_le_pow_right (by decide) (by omega))

/-- A ratio far below the largest magnitude is rounded to a finite one, with a mantissa and an
exponent that are bounded by the steps in which the ratio is measured. -/
theorem ofRatio_near (num den : Nat) {k : Nat} (hlog : (num.log2 : Int) - den.log2 ≤ 1000)
    (hk : -(k : Int) ≤ stepExponent num den) :
    ∃ m q, ofRatio num den = .finite m q ∧ m ≤ num * Nat.pow 2 k + 1 ∧
      q ≤ max 0 ((num.log2 : Int) - den.log2) := by
  obtain ⟨_, hstep⟩ := stepExponent_range num den
  have hmantissa := Nat.le_trans (divideEven_le _ (inSteps num den (stepExponent num den)).2)
    (Nat.succ_le_succ (inSteps_le num den hk))
  unfold ofRatio
  split
  next => exact ⟨0, -1074, rfl, Nat.zero_le _, by omega⟩
  next =>
    simp only
    split
    next hfull =>
      -- rounded up to the next power of two
      rw [if_neg (by omega)]
      rw [hfull] at hmantissa
      exact ⟨_, _, rfl, Nat.le_trans (by decide : Nat.pow 2 52 ≤ Nat.pow 2 53) hmantissa, by omega⟩
    next =>
      rw [if_neg (by omega)]
      exact ⟨_, _, rfl, hmantissa, by omega⟩

/-- So is a product with a power of two, measured by another one that is not much smaller. -/
theorem ofRatio_scaled_ne_infinite {m a e k : Nat} (hm : m < Nat.pow 2 a) (h : a + e ≤ k + 1000) :
    ofRatio (m * Nat.pow 2 e) (Nat.pow 2 k) ≠ .infinite := by
  have hproduct : m * Nat.pow 2 e < Nat.pow 2 (a + e + 1) := by
    have hsum : Nat.pow 2 (a + e) = Nat.pow 2 a * Nat.pow 2 e := Nat.pow_add 2 a e
    have hgrows : Nat.pow 2 (a + e) ≤ Nat.pow 2 (a + e + 1) :=
      Nat.pow_le_pow_right (by decide) (Nat.le_succ _)
    have hless : m * Nat.pow 2 e < Nat.pow 2 a * Nat.pow 2 e :=
      Nat.mul_lt_mul_of_pos_right hm (Nat.pow_pos (by decide))
    omega
  have hnum := log2_le hproduct
  have hden : (Nat.pow 2 k).log2 = k := Nat.log2_two_pow
  obtain ⟨hlow, _⟩ := stepExponent_range (m * Nat.pow 2 e) (Nat.pow 2 k)
  have hk : -((1074 : Nat) : Int) ≤ stepExponent (m * Nat.pow 2 e) (Nat.pow 2 k) := by omega
  obtain ⟨m', q, hfinite, _⟩ := ofRatio_near _ _ (by omega) hk
  rw [hfinite]
  simp

/-- A word is rounded to a finite magnitude. -/
theorem ofRatio_word {n : Nat} (h : n < Nat.pow 2 64) :
    ∃ m q, ofRatio n 1 = .finite m q ∧ m < Nat.pow 2 118 ∧ q ≤ 63 := by
  have hlog : n.log2 ≤ 63 := log2_le h
  have hone : Nat.log2 1 = 0 := by decide
  obtain ⟨hlow, _⟩ := stepExponent_range n 1
  obtain ⟨m, q, hround, hm, hq⟩ := ofRatio_near n 1 (k := 53) (by omega) (by omega)
  refine ⟨m, q, hround, ?_, by omega⟩
  have hpow : Nat.pow 2 64 * Nat.pow 2 53 = Nat.pow 2 117 := by decide
  have hproduct : n * Nat.pow 2 53 ≤ Nat.pow 2 64 * Nat.pow 2 53 :=
    Nat.mul_le_mul_right _ (Nat.le_of_lt h)
  have hroom : Nat.pow 2 117 + 1 < Nat.pow 2 118 := by decide
  omega

end Decimal.Binary64

namespace Json.Number

open Decimal (Binary64 IsDigit)

/-! ## The digits of a literal -/

theorem digitValues_append (cs ds : List Char) :
    digitValues (cs ++ ds) = digitValues cs ++ digitValues ds := List.filterMap_append

/-- The digits of a number that fits into a word are all kept. -/
theorem foldl_before_ofNat {n : Nat} (h : n < 18446744073709551616) :
    (digitValues (Decimal.ofNat n)).foldl Leading.before {} = { digits := n } := by
  induction n using Nat.strongRecOn with
  | ind n ih =>
    have hdigit : ∀ d < 10, digitValues [Decimal.digit d] = [d] := by
      intro d hd
      simp [digitValues, Decimal.digit?_digit hd]
    have hkept : ∀ m d, m * 10 + d = n →
        Leading.before { digits := m } d = { digits := n } := by
      intro m d hmd
      unfold Leading.before
      rw [if_neg (by simp; omega)]
      simp only [hmd]
    by_cases hn : n < 10
    · rw [Decimal.ofNat_of_lt hn, hdigit n hn]
      exact hkept 0 n (by omega)
    · rw [Decimal.ofNat_of_le (by omega), digitValues_append, List.foldl_append,
        ih (n / 10) (by omega) (by omega), hdigit _ (by omega)]
      exact hkept (n / 10) (n % 10) (by omega)

/-- A character of a whole number: neither a point nor the letter of an exponent. -/
theorem of_mem_ofInt {n : Int} {c : Char} (h : c ∈ Decimal.ofInt n) :
    c ≠ '.' ∧ c ≠ 'e' ∧ c ≠ 'E' := by
  have hdigit : ∀ {m : Nat}, c ∈ Decimal.ofNat m → c ≠ '.' ∧ c ≠ 'e' ∧ c ≠ 'E' := by
    intro m hm
    obtain ⟨hlow, hhigh⟩ := Decimal.isDigit_of_mem_ofNat hm
    refine ⟨?_, ?_, ?_⟩
    all_goals
      rintro rfl
      simp at hlow hhigh
  unfold Decimal.ofInt at h
  split at h
  next =>
    rcases List.mem_cons.mp h with rfl | h
    · simp
    · exact hdigit h
  next => exact hdigit h

theorem digitValues_ofInt (n : Int) :
    digitValues (Decimal.ofInt n) = digitValues (Decimal.ofNat n.natAbs) := by
  unfold Decimal.ofInt
  split
  next => rfl
  next => rfl

/-- A whole number has no digits after a point and no exponent. -/
theorem leading_ofInt {n : Int} (h : n.natAbs < 18446744073709551616) :
    leading (Decimal.ofInt n) = { digits := n.natAbs } := by
  have hall : ∀ c ∈ Decimal.ofInt n, (!(decide (c = 'e') || decide (c = 'E'))) = true := by
    intro c hc
    obtain ⟨_, he, hE⟩ := of_mem_ofInt hc
    simp [he, hE]
  have hpoint : ∀ c ∈ Decimal.ofInt n, decide (c ≠ '.') = true := by
    intro c hc
    exact decide_eq_true (of_mem_ofInt hc).1
  have htake : ∀ {p : Char → Bool}, (∀ c ∈ Decimal.ofInt n, p c = true) →
      (Decimal.ofInt n).takeWhile p = Decimal.ofInt n ∧
        (Decimal.ofInt n).dropWhile p = [] := by
    intro p hp
    have hboth : (Decimal.ofInt n ++ []).takeWhile p = Decimal.ofInt n ++ [].takeWhile p :=
      List.takeWhile_append_of_pos hp
    have hrest : (Decimal.ofInt n ++ []).dropWhile p = [].dropWhile p :=
      List.dropWhile_append_of_pos hp
    rw [List.append_nil] at hboth hrest
    rw [hboth, hrest]
    exact ⟨List.append_nil _, rfl⟩
  unfold leading
  simp only
  rw [(htake hall).1, (htake hall).2, (htake hpoint).1, (htake hpoint).2, digitValues_ofInt,
    foldl_before_ofNat h]
  rfl

/-- The literal of a whole number of up to 64 bits is in range. -/
theorem isOutOfRange_ofInt {n : Int} (h : n.natAbs < 18446744073709551616) :
    isOutOfRange (Decimal.ofInt n) = false := by
  unfold isOutOfRange
  simp only
  rw [leading_ofInt h]
  simp only
  split
  next => rfl
  next =>
    obtain ⟨m, q, hword, hm, hq⟩ := Binary64.ofRatio_word h
    have hone : Binary64.ofRatio (Nat.pow 10 (0 : Int).toNat) 1 =
        .finite 4503599627370496 (-52) := by decide
    rw [if_neg (by decide), if_neg (by decide), hword, hone]
    simp only
    have hmantissa : m * 4503599627370496 < Nat.pow 2 170 :=
      Nat.mul_lt_mul_of_pos_right hm (by decide)
    -- the power itself is never computed
    apply decide_eq_false
    apply Binary64.ofRatio_scaled_ne_infinite hmantissa
    omega

end Json.Number

end Agora
