import Mathlib.Data.List.DropRight
import Agora.Text.Blank

/-!
# What is trimmed stays as it is

`trim_trim`: a text that was trimmed has no blanks at its ends. `mem_of_mem_trim`: nothing comes in
by trimming.
-/

namespace Agora.Text

variable {cs : List Char}

theorem mem_of_mem_trim {c : Char} (h : c ∈ trim cs) : c ∈ cs := by
  have hstart : c ∈ trimStart cs := (List.rdropWhile_prefix isBlank (trimStart cs)).subset h
  exact (List.dropWhile_sublist isBlank).subset hstart

/-- Removing blanks at the end brings none to the start, since the first character is kept or
nothing is. -/
theorem trimStart_trim (cs : List Char) : trimStart (trim cs) = trim cs := by
  have hprefix : trim cs <+: trimStart cs := List.rdropWhile_prefix isBlank (trimStart cs)
  obtain ⟨blanks, hblanks⟩ := hprefix
  unfold trimStart
  rw [List.dropWhile_eq_self_iff]
  intro hne hfirst
  have hstart : trimStart cs = trim cs ++ blanks := hblanks.symm
  have hkept : (trimStart cs).dropWhile isBlank = trimStart cs :=
    List.dropWhile_idempotent isBlank cs
  rw [List.dropWhile_eq_self_iff, hstart] at hkept
  have hpositive : 0 < (trim cs ++ blanks).length := by
    rw [List.length_append]
    omega
  refine hkept hpositive ?_
  rwa [List.getElem_append_left hne]

theorem trim_trim (cs : List Char) : trim (trim cs) = trim cs := by
  have hend : trimEnd (trim cs) = trim cs := List.rdropWhile_idempotent isBlank (trimStart cs)
  show trimEnd (trimStart (trim cs)) = trim cs
  rw [trimStart_trim, hend]

theorem trimmed_trimmed (s : String) : trimmed (trimmed s) = trimmed s := by
  unfold trimmed
  rw [String.toList_ofList, trim_trim]

end Agora.Text
