import Agora.Decimal.Integer
import Agora.Proofs.Text.Characters

/-!
# Whole numbers come back from their digits

`int?_ofInt`: reading undoes writing. Beside it stands what the digits of a number look like, which
is all that a reader of larger texts needs to know of them.
-/

namespace Agora.Decimal

/-- A character is one of the ten digits. -/
def IsDigit (c : Char) : Prop := '0' ≤ c ∧ c ≤ '9'

theorem toNat_digit {n : Nat} (h : n < 10) : (digit n).toNat = 48 + n :=
  Text.toNat_ofNat (by omega)

theorem isDigit_digit {n : Nat} (h : n < 10) : IsDigit (digit n) := by
  have hd := toNat_digit h
  constructor
  · rw [Text.char_le_iff, hd]
    simp
  · rw [Text.char_le_iff, hd]
    simp
    omega

theorem digit?_digit {n : Nat} (h : n < 10) : digit? (digit n) = some n := by
  unfold digit?
  rw [if_pos (show '0' ≤ digit n ∧ digit n ≤ '9' from isDigit_digit h), toNat_digit h,
    show 48 + n - 48 = n by omega]

theorem digit?_isSome {c : Char} : (digit? c).isSome = true ↔ IsDigit c := by
  unfold digit? IsDigit
  split
  next h => exact iff_of_true rfl h
  next h => exact iff_of_false (by simp) h

theorem digit?_eq_some {c : Char} {d : Nat} : digit? c = some d ↔ IsDigit c ∧ d = c.toNat - 48 := by
  unfold digit? IsDigit
  split
  next h =>
    rw [Option.some.injEq]
    exact ⟨fun hd => ⟨h, hd.symm⟩, fun hd => hd.2.symm⟩
  next h => exact ⟨fun hd => absurd hd (by simp), fun hd => absurd hd.1 h⟩

theorem IsDigit.value_le {c : Char} (h : IsDigit c) : c.toNat - 48 ≤ 9 := by
  have hnine : c.toNat ≤ 57 := Text.char_le_iff.mp h.2
  omega

/-! ## The digits of a number -/

theorem ofNat_of_lt {n : Nat} (h : n < 10) : ofNat n = [digit n] := by
  rw [ofNat, if_pos h]

theorem ofNat_of_le {n : Nat} (h : 10 ≤ n) : ofNat n = ofNat (n / 10) ++ [digit (n % 10)] := by
  rw [ofNat, if_neg (by omega)]

theorem ofNat_ne_nil (n : Nat) : ofNat n ≠ [] := by
  by_cases h : n < 10
  · rw [ofNat_of_lt h]
    simp
  · rw [ofNat_of_le (by omega)]
    simp

theorem isDigit_of_mem_ofNat {n : Nat} {c : Char} (h : c ∈ ofNat n) : IsDigit c := by
  induction n using Nat.strongRecOn with
  | ind n ih =>
    by_cases hn : n < 10
    · rw [ofNat_of_lt hn, List.mem_singleton] at h
      rw [h]
      exact isDigit_digit hn
    · rw [ofNat_of_le (by omega)] at h
      rcases List.mem_append.mp h with h | h
      · exact ih (n / 10) (by omega) h
      · rw [List.mem_singleton] at h
        rw [h]
        exact isDigit_digit (by omega)

theorem ofNat_ne_cons {n : Nat} {c : Char} {rest : List Char} (hc : ¬IsDigit c) :
    ofNat n ≠ c :: rest := by
  intro h
  apply hc
  apply isDigit_of_mem_ofNat (n := n)
  rw [h]
  exact List.mem_cons_self

/-- Only zero is written with a zero in front. -/
theorem head?_ofNat {n : Nat} (h : (ofNat n).head? = some '0') : n = 0 := by
  induction n using Nat.strongRecOn with
  | ind n ih =>
    by_cases hn : n < 10
    · rw [ofNat_of_lt hn, List.head?_cons, Option.some.injEq] at h
      have hzero := congrArg Char.toNat h
      rw [toNat_digit hn] at hzero
      simp at hzero
      exact hzero
    · -- the first digit of a longer number is that of its tenth part
      have hhead : (ofNat (n / 10)).head? = some '0' := by
        obtain ⟨c, rest, hcs⟩ := List.exists_cons_of_ne_nil (ofNat_ne_nil (n / 10))
        rw [ofNat_of_le (by omega), hcs] at h
        rw [hcs]
        exact h
      have := ih (n / 10) (by omega) hhead
      omega

/-! ## Reading -/

theorem natFrom?_append (acc : Nat) (cs ds : List Char) :
    natFrom? acc (cs ++ ds) = (natFrom? acc cs).bind fun n => natFrom? n ds := by
  induction cs generalizing acc with
  | nil => rfl
  | cons c rest ih =>
    rw [List.cons_append, natFrom?, natFrom?]
    cases digit? c with
    | none => rfl
    | some d => exact ih (acc * 10 + d)

theorem natFrom?_ofNat (n : Nat) : natFrom? 0 (ofNat n) = some n := by
  induction n using Nat.strongRecOn with
  | ind n ih =>
    by_cases hn : n < 10
    · rw [ofNat_of_lt hn, natFrom?, digit?_digit hn]
      simp [natFrom?]
    · rw [ofNat_of_le (by omega), natFrom?_append, ih (n / 10) (by omega), Option.bind_some,
        natFrom?, digit?_digit (by omega)]
      simp only [natFrom?, Option.bind_eq_bind, Option.bind_some, Option.some.injEq]
      omega

theorem nat?_ofNat (n : Nat) : nat? (ofNat n) = some n := by
  unfold nat?
  rw [if_neg (by simpa using ofNat_ne_nil n), natFrom?_ofNat]

/-- A sign is no digit. -/
theorem int?_of_digits {cs : List Char} (h : ∀ c ∈ cs, IsDigit c) :
    int? cs = (nat? cs).map Int.ofNat := by
  unfold int?
  split
  next rest =>
    have := (h '-' List.mem_cons_self).1
    simp [Text.char_le_iff] at this
  next rest =>
    have := (h '+' List.mem_cons_self).1
    simp [Text.char_le_iff] at this
  next => rfl

theorem int?_minus (ds : List Char) :
    int? ('-' :: ds) = (nat? ds).map fun n : Nat => -(n : Int) := by
  rw [int?]
  cases nat? ds with
  | none => rfl
  | some n => rfl

theorem int?_ofInt (n : Int) : int? (ofInt n) = some n := by
  unfold ofInt
  by_cases hn : n < 0
  · rw [if_pos hn, int?, nat?_ofNat]
    show some (-(n.natAbs : Int)) = some n
    congr 1
    omega
  · rw [if_neg hn, int?_of_digits fun c hc => isDigit_of_mem_ofNat hc, nat?_ofNat, Option.map_some]
    congr 1
    simp only [Int.ofNat_eq_natCast]
    omega

/-! ## A fixed number of digits -/

@[simp] theorem length_padded (width n : Nat) : (padded width n).length = width := by
  induction width generalizing n with
  | zero => rfl
  | succ w ih => rw [padded, List.length_append, ih, List.length_singleton]

theorem isDigit_of_mem_padded {width n : Nat} {c : Char} (h : c ∈ padded width n) : IsDigit c := by
  induction width generalizing n with
  | zero => cases h
  | succ w ih =>
    rcases List.mem_append.mp h with h | h
    · exact ih h
    · rw [List.mem_singleton.mp h]
      exact isDigit_digit (by omega)

theorem natFrom?_padded (acc width n : Nat) :
    natFrom? acc (padded width n) = some (acc * Nat.pow 10 width + n % Nat.pow 10 width) := by
  induction width generalizing n with
  | zero =>
    show some acc = some (acc * 1 + n % 1)
    rw [Nat.mod_one, Nat.mul_one, Nat.add_zero]
  | succ w ih =>
    have hpow : Nat.pow 10 (w + 1) = 10 * Nat.pow 10 w := Nat.pow_succ'
    have hmod : n % (10 * Nat.pow 10 w) = n % 10 + 10 * (n / 10 % Nat.pow 10 w) := Nat.mod_mul
    rw [padded, natFrom?_append, ih, Option.bind_some, natFrom?, digit?_digit (by omega)]
    simp only [natFrom?, Option.bind_eq_bind, Option.bind_some, Option.some.injEq]
    rw [hpow, hmod, Nat.add_mul, Nat.mul_comm 10 (Nat.pow 10 w), Nat.mul_assoc]
    omega

/-- A number that has no more digits than that is read back. -/
theorem nat?_padded {width n : Nat} (hwidth : 0 < width) (h : n < Nat.pow 10 width) :
    nat? (padded width n) = some n := by
  have hne : padded width n ≠ [] := List.ne_nil_of_length_pos (by rw [length_padded]; exact hwidth)
  unfold nat?
  rw [if_neg (by simpa using hne), natFrom?_padded, Nat.zero_mul, Nat.zero_add,
    Nat.mod_eq_of_lt h]

/-- Numbers are told apart by their texts. -/
theorem text_inj {m n : Int} (h : text m = text n) : m = n := by
  have hdigits : ofInt m = ofInt n := String.ofList_injective h
  have hread := congrArg int? hdigits
  rw [int?_ofInt, int?_ofInt] at hread
  exact Option.some.inj hread

theorem fitsInt32_toInt (w : Int32) : FitsInt32 w.toInt := by
  have hleast : Int32.minValue.toInt = -2147483648 := rfl
  have hgreatest : Int32.maxValue.toInt = 2147483647 := rfl
  exact ⟨hleast ▸ w.minValue_le_toInt, hgreatest ▸ w.toInt_le⟩

theorem FitsInt32.fitsInt64 {n : Int} (h : FitsInt32 n) : FitsInt64 n := by
  obtain ⟨hlow, hhigh⟩ := h
  constructor <;> omega

end Agora.Decimal
