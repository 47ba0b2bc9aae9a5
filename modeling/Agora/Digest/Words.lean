/-!
# Bytes and words

Words are written as bytes with the high byte first (`big`) or the low byte first (`little`). Any
number of bytes can be read as a word: bytes that are missing count as zero.
-/

namespace Agora.Digest

/-- The `n` low bytes of a number, the lowest first. -/
def little (n : Nat) (value : Nat) : List UInt8 :=
  match n with
  | 0 => []
  | k + 1 => .ofNat (value % 256) :: little k (value / 256)

/-- The `n` low bytes of a number, the highest first. -/
def big (n : Nat) (value : Nat) : List UInt8 := (little n value).reverse

@[simp] theorem length_little (n value : Nat) : (little n value).length = n := by
  induction n generalizing value with
  | zero => rfl
  | succ k ih => simp [little, ih]

@[simp] theorem length_big (n value : Nat) : (big n value).length = n := by simp [big]

/-- The number that bytes spell, the highest first. -/
def ofBig (bytes : List UInt8) : Nat := bytes.foldl (fun n b => n * 256 + b.toNat) 0

/-- The number that bytes spell, the lowest first. -/
def ofLittle (bytes : List UInt8) : Nat := bytes.foldr (fun b n => n * 256 + b.toNat) 0

/-- Pieces of `n + 1` members; the last may be shorter. -/
def pieces {α : Type} (n : Nat) (xs : List α) : List (List α) :=
  match xs with
  | [] => []
  | x :: rest => (x :: rest.take n) :: pieces n (rest.drop n)
termination_by xs.length
decreasing_by simp only [List.length_cons, List.length_drop]; omega

end Agora.Digest
