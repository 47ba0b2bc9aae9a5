/-!
# Splitting text

A text is cut at every character of a kind; the parts keep everything else, and there is always at
least one.
-/

namespace Agora.Text

/-- The parts of a list between the places where `p` holds. -/
def splitAt (p : Char → Bool) : List Char → List (List Char)
  | [] => [[]]
  | c :: rest =>
    if p c then [] :: splitAt p rest
    else match splitAt p rest with
      | [] => [[c]]
      | part :: parts => (c :: part) :: parts

theorem splitAt_ne_nil (p : Char → Bool) (cs : List Char) : splitAt p cs ≠ [] := by
  cases cs with
  | nil => simp [splitAt]
  | cons c rest =>
    rw [splitAt]
    split
    · simp
    · split <;> simp

/-- `splitAt` at one character, on strings. -/
def splitOn (separator : Char) (s : String) : List String :=
  (splitAt (· = separator) s.toList).map String.ofList

end Agora.Text
