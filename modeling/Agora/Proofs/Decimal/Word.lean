import Agora.Proofs.Decimal

/-!
# Reading in words reads exactly

`int64?` never computes outside a word of 64 bits. Main result: `int64?_eq_filter`. It gives what
reading without any bound gives, as far as that is in the range of the words.

`Checked` is what the operations on words have in common: there is a result exactly if a word has
the exact value. On the way to a number the words only move away from zero (`le_of_natFrom?`), so no
step overflows on the way to a number that fits.
-/

namespace Agora.Decimal

variable {sign : Sign} {acc w : Int64} {ds : List Char}

/-! ## Words and their range -/

theorem fitsInt64_toInt (w : Int64) : FitsInt64 w.toInt := by
  have hlow := w.le_toInt
  have hhigh := w.toInt_lt
  constructor <;> omega

theorem exists_word {k : Int} (h : FitsInt64 k) : ∃ w : Int64, w.toInt = k := by
  obtain ⟨hlow, hhigh⟩ := h
  exact ⟨.ofInt k, Int64.toInt_ofInt_of_le (by omega) (by omega)⟩

/-! ## Operations that may overflow -/

/-- What comes of an operation on words whose exact value is `k`. -/
def Checked (result : Option Int64) (k : Int) : Prop := ∀ w, result = some w ↔ w.toInt = k

/-- An operation is checked if its flag is set exactly outside the range, and if its result is exact
without the flag. -/
theorem checked_of_flag {overflows : Bool} {result : Int64} {k : Int}
    (hflag : overflows = true ↔ ¬FitsInt64 k) (hexact : ¬overflows = true → result.toInt = k) :
    Checked (if overflows then none else some result) k := by
  intro w
  split
  next h =>
    constructor
    · intro hw
      cases hw
    · intro hw
      exact absurd (hw ▸ fitsInt64_toInt w) (hflag.mp h)
  next h => rw [Option.some.injEq, ← Int64.toInt_inj, hexact h, eq_comm]

/-- The two ends of the range, as flags have them. -/
theorem outside_iff {k : Int} :
    (decide (k ≥ 9223372036854775808) || decide (k < -9223372036854775808)) = true ↔
      ¬FitsInt64 k := by
  rw [Bool.or_eq_true, decide_eq_true_eq, decide_eq_true_eq]
  unfold FitsInt64
  omega

theorem checked_timesTen? (acc : Int64) : Checked (timesTen? acc) (acc.toInt * 10) :=
  checked_of_flag outside_iff fun h => BitVec.toInt_mul_of_not_smulOverflow h

namespace Sign

/-- The side of zero on which the numbers with a sign lie. -/
def toInt : Sign → Int
  | .plus => 1
  | .minus => -1

theorem checked_move? (sign : Sign) (acc d : Int64) :
    Checked (sign.move? acc d) (acc.toInt + sign.toInt * d.toInt) := by
  cases sign with
  | plus =>
    rw [toInt, Int.one_mul]
    exact checked_of_flag outside_iff fun h => BitVec.toInt_add_of_not_saddOverflow h
  | minus =>
    rw [toInt, Int.neg_one_mul, ← Int.sub_eq_add_neg]
    exact checked_of_flag outside_iff fun h => BitVec.toInt_sub_of_not_ssubOverflow h

/-- What lies nearer to zero than a number that fits does fit. -/
theorem fits_of_le {m n : Nat} (h : FitsInt64 (sign.toInt * n)) (hmn : m ≤ n) :
    FitsInt64 (sign.toInt * m) := by
  obtain ⟨hlow, hhigh⟩ := h
  cases sign with
  | plus =>
    rw [toInt] at hlow hhigh ⊢
    constructor <;> omega
  | minus =>
    rw [toInt] at hlow hhigh ⊢
    constructor <;> omega

/-- One more digit overflows only if the number with the digit is out of range: the tens alone are
nearer to zero. -/
theorem checked_push? {m d : Nat} (hacc : acc.toInt = sign.toInt * m) (hd : d ≤ 9) :
    Checked (sign.push? acc d) (sign.toInt * (m * 10 + d : Nat)) := by
  have htens : acc.toInt * 10 = sign.toInt * (m * 10 : Nat) := by
    rw [hacc, Int.mul_assoc]
    rfl
  have hdigit : (Int64.ofNat d).toInt = d := Int64.toInt_ofNat_of_lt (by omega)
  have hsum : acc.toInt * 10 + sign.toInt * (Int64.ofNat d).toInt =
      sign.toInt * (m * 10 + d : Nat) := by
    rw [htens, hdigit, ← Int.mul_add]
    rfl
  intro w
  unfold push?
  rw [Option.bind_eq_bind, Option.bind_eq_some_iff]
  constructor
  · intro h
    obtain ⟨tens, hten, hmove⟩ := h
    rw [checked_timesTen? acc tens] at hten
    rw [sign.checked_move? tens _ w, hten, hsum] at hmove
    exact hmove
  · intro hw
    have hfits : FitsInt64 (acc.toInt * 10) :=
      htens ▸ fits_of_le (hw ▸ fitsInt64_toInt w) (Nat.le_add_right _ d)
    obtain ⟨tens, hten⟩ := exists_word hfits
    refine ⟨tens, (checked_timesTen? acc tens).mpr hten, ?_⟩
    rw [sign.checked_move? tens _ w, hten, hsum]
    exact hw

end Sign

/-! ## Digits -/

theorem digit?_le_nine {c : Char} {d : Nat} (h : digit? c = some d) : d ≤ 9 := by
  obtain ⟨hc, rfl⟩ := digit?_eq_some.mp h
  exact hc.value_le

/-- Further digits lead away from zero. -/
theorem le_of_natFrom? {m n : Nat} (h : natFrom? m ds = some n) : m ≤ n := by
  induction ds generalizing m with
  | nil => exact Nat.le_of_eq (Option.some.inj h)
  | cons c rest ih =>
    obtain ⟨d, _, hrest⟩ := Option.bind_eq_some_iff.mp h
    have := ih hrest
    omega

/-- The words follow the numbers that the digits stand for, on the side of the sign. -/
theorem wordFrom?_eq_some {m : Nat} (hacc : acc.toInt = sign.toInt * m) :
    wordFrom? sign acc ds = some w ↔ ∃ n, natFrom? m ds = some n ∧ w.toInt = sign.toInt * n := by
  induction ds generalizing acc m with
  | nil =>
    show some acc = some w ↔ ∃ n, some m = some n ∧ w.toInt = sign.toInt * n
    rw [Option.some.injEq, ← Int64.toInt_inj, hacc, eq_comm]
    simp
  | cons c rest ih =>
    simp only [wordFrom?, natFrom?, Option.bind_eq_bind, Option.bind_eq_some_iff]
    constructor
    · intro h
      obtain ⟨d, hd, next, hnext, hrest⟩ := h
      have hvalue := (Sign.checked_push? hacc (digit?_le_nine hd) next).mp hnext
      obtain ⟨n, hn, hw⟩ := (ih hvalue).mp hrest
      exact ⟨n, ⟨d, hd, hn⟩, hw⟩
    · intro h
      obtain ⟨n, ⟨d, hd, hn⟩, hw⟩ := h
      -- what is read of the digits first is nearer to zero than the whole number
      have hfits : FitsInt64 (sign.toInt * (m * 10 + d : Nat)) :=
        Sign.fits_of_le (hw ▸ fitsInt64_toInt w) (le_of_natFrom? hn)
      obtain ⟨next, hvalue⟩ := exists_word hfits
      exact ⟨d, hd, next, (Sign.checked_push? hacc (digit?_le_nine hd) next).mpr hvalue,
        (ih hvalue).mpr ⟨n, hn, hw⟩⟩

/-! ## Whole numbers -/

theorem word?_eq_some :
    word? sign ds = some w ↔ ∃ n, nat? ds = some n ∧ w.toInt = sign.toInt * n := by
  unfold word? nat?
  split
  next => simp
  next => exact wordFrom?_eq_some (by simp)

/-- The number of a word that is read, against the number that is read without a bound. -/
theorem map_word? (sign : Sign) (ds : List Char) :
    (word? sign ds).map Int64.toInt =
      ((nat? ds).map fun n : Nat => sign.toInt * n).filter fun k => decide (FitsInt64 k) := by
  ext k
  rw [Option.map_eq_some_iff, Option.filter_eq_some_iff, Option.map_eq_some_iff, decide_eq_true_eq]
  constructor
  · intro h
    obtain ⟨w, hw, rfl⟩ := h
    obtain ⟨n, hn, hvalue⟩ := word?_eq_some.mp hw
    exact ⟨⟨n, hn, hvalue.symm⟩, fitsInt64_toInt w⟩
  · intro h
    obtain ⟨⟨n, hn, rfl⟩, hfits⟩ := h
    obtain ⟨w, hw⟩ := exists_word hfits
    exact ⟨w, word?_eq_some.mpr ⟨n, hn, hw⟩, hw⟩

theorem int64?_eq_filter (cs : List Char) :
    int64? cs = (int? cs).filter fun k => decide (FitsInt64 k) := by
  have hplus : (fun n : Nat => Sign.plus.toInt * n) = Int.ofNat := by
    funext n
    exact Int.one_mul n
  have hminus : (fun n : Nat => Sign.minus.toInt * n) = fun n : Nat => -(n : Int) := by
    funext n
    exact Int.neg_one_mul n
  unfold int64?
  split
  next rest => rw [map_word?, hminus, int?_minus]
  next rest => rw [map_word?, hplus, int?]
  next hminus' hplus' =>
    rw [map_word?, hplus, int?]
    · exact hminus'
    · exact hplus'

/-- The lowest word is read, and its opposite is not. -/
example : int64? "-9223372036854775808".toList = some (-9223372036854775808) ∧
    int64? "9223372036854775808".toList = none := by decide

/-- A number that fits into a signed word of 64 bits is read back from its text. -/
theorem int64?_text {n : Int} (h : FitsInt64 n) : int64? (text n).toList = some n := by
  rw [int64?_eq_filter, text, String.toList_ofList, int?_ofInt, Option.filter_some,
    if_pos (by simpa using h)]

end Agora.Decimal
