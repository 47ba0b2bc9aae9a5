import Agora.Proofs.Decimal.Word

/-!
# Which texts are whole numbers

`Numeral` says what a numeral is and which number it stands for, place by place and without reading
it: an optional sign, and one or more digits of which any number may be zeros in front. Main
results: `int?_eq_some` and `int64?_eq_some`. Reading gives a number exactly if the text is a
numeral of it, and if it lies in the range that is asked for.
-/

namespace Agora.Decimal

/-- The number that digits stand for: each one counts as many times as its place says. -/
def value : List Char → Nat
  | [] => 0
  | c :: rest => (c.toNat - 48) * Nat.pow 10 rest.length + value rest

/-- A text of an optional sign and one or more digits, and the number that it stands for. -/
inductive Numeral : List Char → Int → Prop
  | plain {ds : List Char} (hne : ds ≠ []) (hdigits : ∀ c ∈ ds, IsDigit c) : Numeral ds (value ds)
  | plus {ds : List Char} (hne : ds ≠ []) (hdigits : ∀ c ∈ ds, IsDigit c) :
      Numeral ('+' :: ds) (value ds)
  | minus {ds : List Char} (hne : ds ≠ []) (hdigits : ∀ c ∈ ds, IsDigit c) :
      Numeral ('-' :: ds) (-(value ds : Int))

variable {cs ds : List Char} {n : Nat}

theorem Numeral.ne_nil {k : Int} (h : Numeral cs k) : cs ≠ [] := by
  cases h with
  | plain hne _ => exact hne
  | plus _ _ => exact List.cons_ne_nil _ _
  | minus _ _ => exact List.cons_ne_nil _ _

/-- Each further digit moves what was read before by one place. -/
theorem natFrom?_eq_some {acc : Nat} :
    natFrom? acc ds = some n ↔
      (∀ c ∈ ds, IsDigit c) ∧ n = acc * Nat.pow 10 ds.length + value ds := by
  induction ds generalizing acc with
  | nil =>
    show some acc = some n ↔ _ ∧ n = acc * 1 + 0
    rw [Option.some.injEq, Nat.mul_one, Nat.add_zero]
    exact ⟨fun h => ⟨by simp, h.symm⟩, fun h => h.2.symm⟩
  | cons c rest ih =>
    have hplace : (acc * 10 + (c.toNat - 48)) * Nat.pow 10 rest.length =
        acc * Nat.pow 10 (rest.length + 1) + (c.toNat - 48) * Nat.pow 10 rest.length := by
      rw [show Nat.pow 10 (rest.length + 1) = 10 * Nat.pow 10 rest.length from Nat.pow_succ',
        Nat.add_mul, Nat.mul_assoc]
    have hvalue : value (c :: rest) = (c.toNat - 48) * Nat.pow 10 rest.length + value rest := rfl
    rw [natFrom?, Option.bind_eq_bind, Option.bind_eq_some_iff, List.forall_mem_cons, hvalue,
      List.length_cons, ← Nat.add_assoc, ← hplace]
    constructor
    · intro h
      obtain ⟨d, hd, hrest⟩ := h
      obtain ⟨hc, rfl⟩ := digit?_eq_some.mp hd
      obtain ⟨hdigits, hn⟩ := ih.mp hrest
      exact ⟨⟨hc, hdigits⟩, hn⟩
    · intro h
      obtain ⟨⟨hc, hdigits⟩, hn⟩ := h
      exact ⟨c.toNat - 48, digit?_eq_some.mpr ⟨hc, rfl⟩, ih.mpr ⟨hdigits, hn⟩⟩

theorem nat?_eq_some : nat? ds = some n ↔ ds ≠ [] ∧ (∀ c ∈ ds, IsDigit c) ∧ n = value ds := by
  unfold nat?
  cases ds with
  | nil => simp
  | cons c rest =>
    rw [List.isEmpty_cons, if_neg Bool.false_ne_true, natFrom?_eq_some, Nat.zero_mul, Nat.zero_add]
    simp

theorem value_append (cs ds : List Char) :
    value (cs ++ ds) = value cs * Nat.pow 10 ds.length + value ds := by
  induction cs with
  | nil =>
    show value ds = 0 * Nat.pow 10 ds.length + value ds
    rw [Nat.zero_mul, Nat.zero_add]
  | cons c rest ih =>
    have hpow : Nat.pow 10 (rest.length + ds.length) =
        Nat.pow 10 rest.length * Nat.pow 10 ds.length := Nat.pow_add 10 rest.length ds.length
    show (c.toNat - 48) * Nat.pow 10 (rest ++ ds).length + value (rest ++ ds) =
      ((c.toNat - 48) * Nat.pow 10 rest.length + value rest) * Nat.pow 10 ds.length + value ds
    rw [ih, List.length_append, hpow, Nat.add_mul, Nat.mul_assoc, Nat.add_assoc]

theorem value_zeros (k : Nat) : value (List.replicate k '0') = 0 := by
  induction k with
  | zero => rfl
  | succ k ih =>
    show 0 * Nat.pow 10 (List.replicate k '0').length + value (List.replicate k '0') = 0
    rw [ih, Nat.zero_mul]

theorem value_lt (h : ∀ c ∈ ds, IsDigit c) : value ds < Nat.pow 10 ds.length := by
  induction ds with
  | nil => exact Nat.one_pos
  | cons c rest ih =>
    obtain ⟨hc, hrest⟩ := List.forall_mem_cons.mp h
    calc
      value (c :: rest) = (c.toNat - 48) * Nat.pow 10 rest.length + value rest := rfl
      _ < 9 * Nat.pow 10 rest.length + Nat.pow 10 rest.length :=
        Nat.add_lt_add_of_le_of_lt (Nat.mul_le_mul_right _ hc.value_le) (ih hrest)
      _ = Nat.pow 10 rest.length * 10 := by omega

/-- Digits and the sign that stands before them. -/
theorem nat?_map_eq_some {sign : Nat → Int} {k : Int} :
    (nat? ds).map sign = some k ↔
      ds ≠ [] ∧ (∀ c ∈ ds, IsDigit c) ∧ sign (value ds) = k := by
  rw [Option.map_eq_some_iff]
  constructor
  · intro h
    obtain ⟨n, hn, hk⟩ := h
    obtain ⟨hne, hdigits, rfl⟩ := nat?_eq_some.mp hn
    exact ⟨hne, hdigits, hk⟩
  · intro h
    obtain ⟨hne, hdigits, hk⟩ := h
    exact ⟨value ds, nat?_eq_some.mpr ⟨hne, hdigits, rfl⟩, hk⟩

theorem int?_eq_some {k : Int} : int? cs = some k ↔ Numeral cs k := by
  constructor
  · intro h
    unfold int? at h
    split at h
    next rest =>
      obtain ⟨hne, hdigits, rfl⟩ := nat?_map_eq_some.mp ((int?_minus rest).symm.trans h)
      exact .minus hne hdigits
    next rest =>
      obtain ⟨hne, hdigits, rfl⟩ := nat?_map_eq_some.mp h
      exact .plus hne hdigits
    next =>
      obtain ⟨hne, hdigits, rfl⟩ := nat?_map_eq_some.mp h
      exact .plain hne hdigits
  · intro h
    cases h with
    | plain hne hdigits =>
      rw [int?_of_digits hdigits]
      exact nat?_map_eq_some.mpr ⟨hne, hdigits, rfl⟩
    | plus hne hdigits => exact nat?_map_eq_some.mpr ⟨hne, hdigits, rfl⟩
    | minus hne hdigits =>
      rw [int?_minus]
      exact nat?_map_eq_some.mpr ⟨hne, hdigits, rfl⟩

/-- A number that fits into a signed word of 64 bits is read from its numerals, and no other text is
read as a number. -/
theorem int64?_eq_some {k : Int} : int64? cs = some k ↔ Numeral cs k ∧ FitsInt64 k := by
  rw [int64?_eq_filter, Option.filter_eq_some_iff, int?_eq_some, decide_eq_true_eq]

/-! ## Zeros in front -/

theorem isDigit_of_mem_zeros {k : Nat} {c : Char} (h : c ∈ List.replicate k '0') : IsDigit c := by
  rw [List.eq_of_mem_replicate h]
  constructor <;> decide

theorem nat?_zeros (k : Nat) (hne : ds ≠ []) : nat? (List.replicate k '0' ++ ds) = nat? ds := by
  have hzeros : natFrom? 0 (List.replicate k '0') = some 0 := by
    rw [natFrom?_eq_some, value_zeros, Nat.zero_mul]
    exact ⟨fun c hc => isDigit_of_mem_zeros hc, rfl⟩
  have hne' : List.replicate k '0' ++ ds ≠ [] := List.append_ne_nil_of_right_ne_nil _ hne
  unfold nat?
  rw [if_neg (by simpa using hne'), if_neg (by simpa using hne), natFrom?_append, hzeros,
    Option.bind_some]

/-- Behind a sign, and without one, zeros in front of the digits change nothing. -/
theorem int64?_zeros {sign : List Char} (hsign : sign ∈ [[], ['+'], ['-']]) (k : Nat)
    (hne : ds ≠ []) (hdigits : ∀ c ∈ ds, IsDigit c) :
    int64? (sign ++ (List.replicate k '0' ++ ds)) = int64? (sign ++ ds) := by
  have hint : int? (sign ++ (List.replicate k '0' ++ ds)) = int? (sign ++ ds) := by
    simp only [List.mem_cons, List.not_mem_nil, or_false] at hsign
    rcases hsign with rfl | rfl | rfl
    · have hall : ∀ c ∈ List.replicate k '0' ++ ds, IsDigit c := by
        intro c hc
        rcases List.mem_append.mp hc with hc | hc
        · exact isDigit_of_mem_zeros hc
        · exact hdigits c hc
      rw [List.nil_append, List.nil_append, int?_of_digits hall, int?_of_digits hdigits,
        nat?_zeros k hne]
    · show int? ('+' :: (List.replicate k '0' ++ ds)) = int? ('+' :: ds)
      rw [int?, int?, nat?_zeros k hne]
    · show int? ('-' :: (List.replicate k '0' ++ ds)) = int? ('-' :: ds)
      rw [int?_minus, int?_minus, nat?_zeros k hne]
  rw [int64?_eq_filter, int64?_eq_filter, hint]

end Agora.Decimal
