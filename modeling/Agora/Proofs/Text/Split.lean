import Agora.Text.Split

/-!
# Splitting is the inverse of joining

`splitAt` is the splitting of lists that the library has (`splitAt_eq_splitOnP`), so a text is the
join of its parts (`intercalate_splitAt`), and parts without separators are the parts of their join
(`splitAt_intercalate`). No part holds a separator (`not_of_mem_splitAt`).

A text that is cut once, at the first separator, comes apart into what was before it and after it
(`takeWhile_append_of_not_mem`, `dropWhile_append_of_not_mem`, `eq_append_of_dropWhile`).
-/

namespace Agora.Text

variable {p : Char → Bool}

theorem splitAt_eq_splitOnP (p : Char → Bool) (cs : List Char) : splitAt p cs = cs.splitOnP p := by
  induction cs with
  | nil => rfl
  | cons c rest ih =>
    rw [splitAt, List.splitOnP_cons_eq_if_modifyHead, ih]
    split
    next => rfl
    next =>
      cases hparts : rest.splitOnP p with
      | nil => exact absurd hparts (List.splitOnP_ne_nil p rest)
      | cons part parts => rfl

/-- A text without separators is its only part. -/
theorem splitAt_of_forall {cs : List Char} (h : ∀ c ∈ cs, p c = false) : splitAt p cs = [cs] := by
  rw [splitAt_eq_splitOnP, List.splitOnP_eq_singleton h]

/-- The part before a separator is cut off there. -/
theorem splitAt_append {part : List Char} {c : Char} (h : ∀ d ∈ part, p d = false)
    (hc : p c = true) (rest : List Char) :
    splitAt p (part ++ c :: rest) = part :: splitAt p rest := by
  rw [splitAt_eq_splitOnP, splitAt_eq_splitOnP, List.splitOnP_append_cons_of_forall_mem h c hc]

/-- No part holds a separator. -/
theorem not_of_mem_splitAt {cs part : List Char} (hpart : part ∈ splitAt p cs) :
    ∀ c ∈ part, p c = false := by
  induction cs generalizing part with
  | nil =>
    rw [splitAt, List.mem_singleton] at hpart
    subst hpart
    intro c hc
    cases hc
  | cons c rest ih =>
    rw [splitAt] at hpart
    by_cases hc : p c = true
    · rw [if_pos hc] at hpart
      rcases List.mem_cons.mp hpart with rfl | hrest
      · intro d hd
        cases hd
      · exact ih hrest
    · rw [if_neg hc] at hpart
      split at hpart
      next hnil => exact absurd hnil (splitAt_ne_nil p rest)
      next first parts hparts =>
        rcases List.mem_cons.mp hpart with rfl | hmem
        · intro d hd
          rcases List.mem_cons.mp hd with rfl | hd
          · simpa using hc
          · exact ih (hparts ▸ List.mem_cons_self) d hd
        · exact ih (hparts ▸ List.mem_cons_of_mem _ hmem)

/-! ## Splitting at one character -/

theorem splitAt_eq_splitOn (separator : Char) (cs : List Char) :
    splitAt (· = separator) cs = cs.splitOn separator := by
  rw [splitAt_eq_splitOnP, List.splitOn_eq_splitOnP]
  rfl

/-- The parts of a text, joined by the separator, are the text. -/
theorem intercalate_splitAt (separator : Char) (cs : List Char) :
    [separator].intercalate (splitAt (· = separator) cs) = cs := by
  rw [splitAt_eq_splitOn, List.intercalate_splitOn]

/-- Parts without separators come back from their join. -/
theorem splitAt_intercalate {separator : Char} {parts : List (List Char)} (hne : parts ≠ [])
    (h : ∀ part ∈ parts, separator ∉ part) :
    splitAt (· = separator) ([separator].intercalate parts) = parts := by
  rw [splitAt_eq_splitOn, List.splitOn_intercalate separator h hne]

theorem separator_not_mem {separator : Char} {cs part : List Char}
    (hpart : part ∈ splitAt (· = separator) cs) : separator ∉ part := by
  intro hmem
  have hno := not_of_mem_splitAt hpart separator hmem
  simp at hno

/-- Three parts at the points of a text. -/
theorem splitAt_eq_three {cs a b c : List Char} :
    splitAt (· = '.') cs = [a, b, c] ↔
      cs = a ++ '.' :: (b ++ '.' :: c) ∧ '.' ∉ a ∧ '.' ∉ b ∧ '.' ∉ c := by
  have hjoin : ['.'].intercalate [a, b, c] = a ++ '.' :: (b ++ '.' :: c) := by
    simp [List.intercalate_cons_cons]
  constructor
  · intro h
    have hnot : ∀ part ∈ [a, b, c], '.' ∉ part := by
      intro part hpart
      exact separator_not_mem (h ▸ hpart)
    refine ⟨?_, hnot a (by simp), hnot b (by simp), hnot c (by simp)⟩
    rw [← hjoin, ← h, intercalate_splitAt]
  · rintro ⟨rfl, ha, hb, hc⟩
    rw [← hjoin]
    apply splitAt_intercalate (List.cons_ne_nil _ _)
    simp [ha, hb, hc]

/-- The parts of a string are those of its characters. -/
theorem splitOn_eq (separator : Char) (s : String) :
    splitOn separator s = (s.toList.splitOn separator).map String.ofList := by
  unfold splitOn
  rw [splitAt_eq_splitOn]

/-- Strings without separators come back from their join. -/
theorem splitOn_join {separator : Char} {joint : String} (hjoint : joint.toList = [separator])
    {parts : List String} (hne : parts ≠ []) (h : ∀ part ∈ parts, separator ∉ part.toList) :
    splitOn separator (joint.intercalate parts) = parts := by
  have hlists : ∀ cs ∈ parts.map String.toList, separator ∉ cs := by
    intro cs hcs
    obtain ⟨part, hpart, rfl⟩ := List.mem_map.mp hcs
    exact h part hpart
  unfold splitOn
  rw [String.toList_intercalate, hjoint, splitAt_intercalate (by simpa using hne) hlists,
    List.map_map]
  refine (List.map_congr_left ?_).trans (List.map_id parts)
  intro part _
  exact String.ofList_toList

/-! ## Cutting at the first of one character -/

theorem takeWhile_append_of_not_mem {separator : Char} {before : List Char}
    (h : separator ∉ before) (after : List Char) :
    (before ++ separator :: after).takeWhile (· ≠ separator) = before := by
  have hpos : ∀ c ∈ before, decide (c ≠ separator) = true := fun c hc =>
    decide_eq_true (ne_of_mem_of_not_mem hc h)
  rw [List.takeWhile_append_of_pos hpos, List.takeWhile_cons_of_neg (by simp), List.append_nil]

theorem dropWhile_append_of_not_mem {separator : Char} {before : List Char}
    (h : separator ∉ before) (after : List Char) :
    (before ++ separator :: after).dropWhile (· ≠ separator) = separator :: after := by
  have hpos : ∀ c ∈ before, decide (c ≠ separator) = true := fun c hc =>
    decide_eq_true (ne_of_mem_of_not_mem hc h)
  rw [List.dropWhile_append_of_pos hpos, List.dropWhile_cons_of_neg (by simp)]

/-- What stops the search for a separator is the separator. -/
theorem eq_append_of_dropWhile {separator c : Char} {cs after : List Char}
    (h : cs.dropWhile (· ≠ separator) = c :: after) :
    cs = cs.takeWhile (· ≠ separator) ++ separator :: after := by
  have hstop := List.head?_dropWhile_not (· ≠ separator) cs
  rw [h] at hstop
  obtain rfl : c = separator := by simpa using hstop
  rw [← h, List.takeWhile_append_dropWhile]

end Agora.Text
