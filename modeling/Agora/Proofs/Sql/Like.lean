import Mathlib.Data.List.Forall2
import Agora.Feed.Statement

/-!
# Patterns

What SQL takes a pattern for, with the backslash as its escape character. `Like.read?` reads a
pattern mark by mark; `Like.Fits` says which texts fit the marks, for any notion of which
characters count as the same: equality for `LIKE`, a folding of cases for `ILIKE`. A run may stand
for any part of a text, so how a text is cut into the parts that the marks stand for is left open;
`fits_run` and `fits_literals` say what is left to be cut after a run and after a fragment.

Main result: `likePattern_fits`. The pattern of a fragment is one that can be read, and it fits
exactly the texts that hold the fragment in one piece.
-/

namespace Agora.Sql.Like

/-- What a place of a pattern stands for. -/
inductive Mark where
  /-- Any number of characters. -/
  | run
  /-- Any one character. -/
  | one
  /-- This character. -/
  | literal (c : Char)
deriving DecidableEq

/-- What a character stands for that is not escaped. -/
def Mark.of (c : Char) : Mark := if c = '%' then .run else if c = '_' then .one else .literal c

/-- The marks of a pattern. A backslash makes the next character stand for itself; a pattern that
ends with a backslash before nothing cannot be read. -/
def read? : List Char → Option (List Mark)
  | [] => some []
  | c :: rest =>
    if c = '\\' then
      match rest with
      | [] => none
      | d :: rest => (read? rest).map (.literal d :: ·)
    else (read? rest).map (Mark.of c :: ·)

/-- A text fits a list of marks if it falls into parts that the marks stand for, one after the
other. -/
inductive Fits (same : Char → Char → Prop) : List Mark → List Char → Prop
  | nil : Fits same [] []
  | run (part : List Char) {marks : List Mark} {text : List Char} (h : Fits same marks text) :
      Fits same (.run :: marks) (part ++ text)
  | one (c : Char) {marks : List Mark} {text : List Char} (h : Fits same marks text) :
      Fits same (.one :: marks) (c :: text)
  | literal {c d : Char} {marks : List Mark} {text : List Char} (hsame : same c d)
      (h : Fits same marks text) : Fits same (.literal c :: marks) (d :: text)

variable {same : Char → Char → Prop} {marks : List Mark} {text : List Char}

/-! ## Fitting -/

theorem fits_run :
    Fits same (.run :: marks) text ↔ ∃ part rest, text = part ++ rest ∧ Fits same marks rest := by
  constructor
  · intro h
    cases h with
    | run part h => exact ⟨part, _, rfl, h⟩
  · rintro ⟨part, rest, rfl, h⟩
    exact .run part h

/-- Characters that stand for themselves fit a part of the same length, character by character. -/
theorem fits_literals {fragment : List Char} :
    Fits same (fragment.map .literal ++ marks) text ↔
      ∃ part rest, text = part ++ rest ∧ List.Forall₂ same fragment part ∧
        Fits same marks rest := by
  induction fragment generalizing text with
  | nil =>
    constructor
    · intro h
      exact ⟨[], text, rfl, .nil, h⟩
    · rintro ⟨part, rest, rfl, hpart, h⟩
      cases hpart
      exact h
  | cons c fragment ih =>
    constructor
    · intro h
      cases h with
      | literal hsame h =>
        obtain ⟨part, rest, rfl, hpart, hrest⟩ := ih.mp h
        exact ⟨_ :: part, rest, rfl, .cons hsame hpart, hrest⟩
    · rintro ⟨part, rest, rfl, hpart, hrest⟩
      cases hpart with
      | cons hsame hpart => exact .literal hsame (ih.mpr ⟨_, rest, rfl, hpart, hrest⟩)

/-- Between two runs a fragment fits wherever it stands. -/
theorem fits_between_runs {fragment : List Char} :
    Fits same (.run :: (fragment.map .literal ++ [.run])) text ↔
      ∃ before part after, text = before ++ part ++ after ∧ List.Forall₂ same fragment part := by
  rw [fits_run]
  constructor
  · rintro ⟨before, _, rfl, h⟩
    obtain ⟨part, after, rfl, hpart, _⟩ := fits_literals.mp h
    exact ⟨before, part, after, (List.append_assoc _ _ _).symm, hpart⟩
  · rintro ⟨before, part, after, rfl, hpart⟩
    refine ⟨before, part ++ after, List.append_assoc _ _ _, fits_literals.mpr ?_⟩
    -- what comes after the fragment is what the second run stands for
    have hafter : Fits same [.run] (after ++ []) := .run after .nil
    rw [List.append_nil] at hafter
    exact ⟨part, after, rfl, hpart, hafter⟩

/-! ## Reading -/

theorem read?_escaped (c : Char) (rest : List Char) :
    read? ('\\' :: c :: rest) = (read? rest).map (.literal c :: ·) := rfl

theorem read?_of_ne {c : Char} (hc : c ≠ '\\') (rest : List Char) :
    read? (c :: rest) = (read? rest).map (Mark.of c :: ·) := by
  rw [read?.eq_def]
  exact if_neg hc

/-- Every character of an escaped fragment is read as standing for itself. -/
theorem read?_escapeFragment (fragment rest : List Char) :
    read? (Feed.escapeFragment fragment ++ rest) =
      (read? rest).map (fragment.map .literal ++ ·) := by
  induction fragment with
  | nil =>
    show read? rest = (read? rest).map id
    rw [Option.map_id_fun, id]
  | cons c fragment ih =>
    have hread : (read? (Feed.escapeFragment fragment ++ rest)).map (Mark.literal c :: ·) =
        (read? rest).map ((c :: fragment).map .literal ++ ·) := by
      rw [ih, Option.map_map]
      rfl
    rw [Feed.escapeFragment, ← hread]
    by_cases hmeaning : c = '\\' ∨ c = '%' ∨ c = '_'
    · rw [if_pos hmeaning]
      exact read?_escaped c _
    · obtain ⟨hescape, hrun, hone⟩ : c ≠ '\\' ∧ c ≠ '%' ∧ c ≠ '_' := by simpa using hmeaning
      have hmark : Mark.of c = .literal c := by rw [Mark.of, if_neg hrun, if_neg hone]
      rw [if_neg hmeaning, List.cons_append, read?_of_ne hescape, hmark]

theorem read?_likePattern (fragment : List Char) :
    read? (Feed.likePattern fragment) = some (.run :: (fragment.map .literal ++ [.run])) := by
  have hescaped : read? (Feed.escapeFragment fragment ++ ['%']) =
      some (fragment.map .literal ++ [.run]) := read?_escapeFragment fragment ['%']
  unfold Feed.likePattern
  rw [List.cons_append, read?_of_ne (by decide), hescaped]
  rfl

/-- A fragment's pattern can be read, and it fits the texts that hold the fragment in one piece and
no others, whichever characters count as the same. -/
theorem likePattern_fits (fragment : List Char) :
    ∃ marks, read? (Feed.likePattern fragment) = some marks ∧
      ∀ (same : Char → Char → Prop) (text : List Char), Fits same marks text ↔
        ∃ before part after, text = before ++ part ++ after ∧ List.Forall₂ same fragment part :=
  ⟨_, read?_likePattern fragment, fun _ _ => fits_between_runs⟩

example : String.ofList (Feed.likePattern "100%_\\".toList) = "%100\\%\\_\\\\%" := by decide

end Agora.Sql.Like
