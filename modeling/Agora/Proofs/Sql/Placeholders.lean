import Mathlib.Data.List.Forall2
import Agora.Proofs.Time.Rfc3339
import Agora.Sql.Statement

/-!
# Placeholders in a text

`holes` finds the placeholders of a text without knowing the statement that it comes from: every
dollar sign, with the digits after it and all that stands before it. In the text of a statement
whose pieces are `Plain` these are the places of its values, numbered in their order (`holes_text`,
`number_places`): no piece of text is taken for a placeholder or for more digits of one.

`Leads` says for which words each value of a statement is bound. In the text the placeholder of the
value then stands right after these words (`Leads.places`). Of the values themselves nothing stands
there (`text_eq_of_outline`).
-/

namespace Agora.Sql

open Decimal (IsDigit)
open Time.Rfc3339 (Stops stops_nil stops_cons takeWhile_digits)

/-! ## Finding placeholders -/

/-- A placeholder: the text before its dollar sign and the digits after it. -/
structure Hole where
  before : List Char
  number : List Char
deriving DecidableEq

/-- The placeholders of what follows `before`. -/
def holesFrom (before : List Char) : List Char → List Hole
  | [] => []
  | c :: rest =>
    if c = '$' then
      ⟨before, rest.takeWhile fun c => (Decimal.digit? c).isSome⟩ :: holesFrom (before ++ [c]) rest
    else holesFrom (before ++ [c]) rest

/-- The placeholders of a text, in the order in which they stand. -/
def holes (text : String) : List Hole := holesFrom [] text.toList

theorem holesFrom_append {cs : List Char} (hcs : '$' ∉ cs) (before rest : List Char) :
    holesFrom before (cs ++ rest) = holesFrom (before ++ cs) rest := by
  induction cs generalizing before with
  | nil => rw [List.nil_append, List.append_nil]
  | cons c cs ih =>
    obtain ⟨hc, hcs⟩ := not_or.mp (List.mem_cons.not.mp hcs)
    rw [List.cons_append, holesFrom, if_neg (Ne.symm hc), ih hcs, List.append_assoc]
    rfl

/-- There is a placeholder at every dollar sign and nowhere else. -/
theorem exists_mem_holesFrom {p : List Char → Prop} (before : List Char) {text : List Char} :
    (∃ hole ∈ holesFrom before text, p hole.before) ↔
      ∃ part rest, text = part ++ '$' :: rest ∧ p (before ++ part) := by
  induction text generalizing before with
  | nil => simp [holesFrom]
  | cons c text ih =>
    have hlater : (∃ hole ∈ holesFrom (before ++ [c]) text, p hole.before) ↔
        ∃ part rest, text = part ++ '$' :: rest ∧ p (before ++ c :: part) := by
      simpa using ih (before ++ [c])
    rw [holesFrom]
    by_cases hc : c = '$'
    · rw [if_pos hc, List.exists_mem_cons_iff, hlater]
      constructor
      · rintro (h | ⟨part, rest, rfl, h⟩)
        · exact ⟨[], text, by rw [hc, List.nil_append], by rwa [List.append_nil]⟩
        · exact ⟨c :: part, rest, rfl, h⟩
      · rintro ⟨part, rest, htext, h⟩
        cases part with
        | nil => exact Or.inl (by rwa [List.append_nil] at h)
        | cons d part =>
          obtain ⟨rfl, hrest⟩ := List.cons.inj htext
          exact Or.inr ⟨part, rest, hrest, h⟩
    · rw [if_neg hc, hlater]
      constructor
      · rintro ⟨part, rest, rfl, h⟩
        exact ⟨c :: part, rest, rfl, h⟩
      · rintro ⟨part, rest, htext, h⟩
        cases part with
        | nil => exact absurd (List.cons.inj htext).1 hc
        | cons d part =>
          obtain ⟨rfl, hrest⟩ := List.cons.inj htext
          exact ⟨part, rest, hrest, h⟩

/-- Words stand before a placeholder exactly if they occur with a dollar sign behind them. -/
theorem exists_hole_iff {words : List Char} {text : String} :
    (∃ hole ∈ holes text, words <:+ hole.before) ↔ words ++ ['$'] <:+: text.toList := by
  unfold holes
  rw [exists_mem_holesFrom (p := fun before => words <:+ before) []]
  constructor
  · rintro ⟨_, rest, htext, ⟨part, rfl⟩⟩
    exact ⟨part, rest, by rw [htext]; simp⟩
  · rintro ⟨part, rest, htext⟩
    exact ⟨part ++ words, rest, by rw [← htext]; simp, ⟨part, rfl⟩⟩

namespace Statement

variable {s s' : Statement} {n : Nat}

/-! ## The placeholders of a statement -/

/-- A text that holds no placeholder and cannot be taken for more digits of one. -/
def Plain (text : String) : Prop := '$' ∉ text.toList ∧ Stops text.toList

theorem not_isDigit_dollar : ¬IsDigit '$' := by simp [IsDigit]

theorem plain_ofList {c : Char} {cs : List Char} (hc : ¬('0' ≤ c ∧ c ≤ '9')) (hcs : '$' ∉ c :: cs) :
    Plain (String.ofList (c :: cs)) := by
  unfold Plain
  rw [String.toList_ofList]
  exact ⟨hcs, stops_cons hc _⟩

theorem suffix_ofList {cs ds : List Char} (h : cs <:+ ds) :
    (String.ofList cs).toList <:+ (String.ofList ds).toList := by
  rw [String.toList_ofList, String.toList_ofList]
  exact h

theorem suffix_append {text words : String} (h : words.toList <:+ text.toList) (before : String) :
    words.toList <:+ (before ++ text).toList := by
  rw [String.toList_append]
  exact h.trans (List.suffix_append _ _)

theorem Plain.append {a b : String} (ha : Plain a) (hb : Plain b) : Plain (a ++ b) := by
  unfold Plain
  rw [String.toList_append]
  constructor
  · exact List.not_mem_append ha.1 hb.1
  · cases hcs : a.toList with
    | nil => exact hb.2
    | cons c cs =>
      have hc := ha.2
      rw [hcs] at hc
      exact stops_cons (hc c rfl) _

/-- The placeholders that the values of a statement are given, behind `before` and from the number
`n` on. -/
def places (before : List Char) (n : Nat) : Statement → List Hole
  | [] => []
  | .text text :: rest => places (before ++ text.toList) n rest
  | .bind _ :: rest =>
    ⟨before, Decimal.ofNat n⟩ :: places (before ++ '$' :: Decimal.ofNat n) (n + 1) rest

theorem stops_textFrom (hs : ∀ text, .text text ∈ s → Plain text) : Stops (textFrom n s) := by
  induction s with
  | nil => exact stops_nil
  | cons piece rest ih =>
    have hrest := ih fun text htext => hs text (List.mem_cons_of_mem _ htext)
    cases piece with
    | bind value => exact stops_cons not_isDigit_dollar _
    | text text =>
      have htext := (hs text List.mem_cons_self).2
      rw [textFrom]
      cases hcs : text.toList with
      | nil => exact hrest
      | cons c cs =>
        rw [hcs] at htext
        exact stops_cons (htext c rfl) _

/-- The placeholders in the text of a statement are those of its values and no others. -/
theorem holesFrom_textFrom (hs : ∀ text, .text text ∈ s → Plain text) (before : List Char)
    (n : Nat) :
    holesFrom before (textFrom n s) = places before n s := by
  induction s generalizing before n with
  | nil => rfl
  | cons piece rest ih =>
    have hplain : ∀ text, .text text ∈ rest → Plain text :=
      fun text htext => hs text (List.mem_cons_of_mem _ htext)
    cases piece with
    | text text => rw [textFrom, holesFrom_append (hs text List.mem_cons_self).1, ih hplain, places]
    | bind value =>
      have hdigits : '$' ∉ Decimal.ofNat n :=
        fun h => not_isDigit_dollar (Decimal.isDigit_of_mem_ofNat h)
      rw [textFrom, places, List.cons_append, holesFrom, if_pos rfl,
        takeWhile_digits (fun c hc => Decimal.isDigit_of_mem_ofNat hc) (stops_textFrom hplain),
        holesFrom_append hdigits, ih hplain, List.append_assoc]
      rfl

theorem holes_text (hs : ∀ text, .text text ∈ s → Plain text) : holes s.text = places [] 1 s := by
  unfold holes text
  rw [String.toList_ofList, holesFrom_textFrom hs]

theorem number_places (before : List Char) (n : Nat) (s : Statement) :
    (places before n s).map (·.number) = (List.range' n s.binds.length).map Decimal.ofNat := by
  induction s generalizing before n with
  | nil => rfl
  | cons piece rest ih =>
    cases piece with
    | text text => rw [places, ih, binds]
    | bind value =>
      rw [places, List.map_cons, ih, binds, List.length_cons, List.range'_succ, List.map_cons]

/-! ## What does not stand in a text -/

/-- A statement without its values. -/
def outline (s : Statement) : List (Option String) :=
  s.map fun
    | .text text => some text
    | .bind _ => none

theorem outline_append (s s' : Statement) : (s ++ s').outline = s.outline ++ s'.outline :=
  List.map_append

/-- A clause for something that may be missing says no more than whether it is there, if it never
says more of what is there. -/
theorem outline_of_isSome {α : Type} (clause : Option α → Statement)
    (hclause : ∀ a b, (clause (some a)).outline = (clause (some b)).outline)
    {found found' : Option α}
    (h : found'.isSome = found.isSome) : (clause found').outline = (clause found).outline := by
  cases found with
  | none =>
    cases found' with
    | none => rfl
    | some a => cases h
  | some b =>
    cases found' with
    | none => cases h
    | some a => exact hclause a b

/-- Statements that differ in their values only have the same text. -/
theorem textFrom_eq_of_outline (h : s.outline = s'.outline) (n : Nat) :
    textFrom n s = textFrom n s' := by
  induction s generalizing n s' with
  | nil =>
    cases s' with
    | nil => rfl
    | cons _ _ => cases h
  | cons piece rest ih =>
    cases s' with
    | nil => cases h
    | cons piece' rest' =>
      obtain ⟨hpiece, hrest⟩ := List.cons.inj h
      cases piece with
      | text text =>
        cases piece' with
        | text text' =>
          cases hpiece
          rw [textFrom, textFrom, ih hrest]
        | bind value' => cases hpiece
      | bind value =>
        cases piece' with
        | text text' => cases hpiece
        | bind value' => rw [textFrom, textFrom, ih hrest]

theorem text_eq_of_outline (h : s.outline = s'.outline) : s.text = s'.text :=
  congrArg String.ofList (textFrom_eq_of_outline h 1)

/-! ## What values are bound for -/

/-- The values of a statement of plain texts, with what they are bound for: each stands right after
the words that say so. -/
inductive Leads {κ : Type} (words : κ → String) : Statement → List (κ × Value) → Prop
  | nil : Leads words [] []
  | text {s : Statement} {bound : List (κ × Value)} {text : String} (hplain : Plain text)
      (h : Leads words s bound) : Leads words (.text text :: s) bound
  | bind {s : Statement} {bound : List (κ × Value)} {text : String} {k : κ} {value : Value}
      (hplain : Plain text) (hwords : (words k).toList <:+ text.toList) (h : Leads words s bound) :
      Leads words (.text text :: .bind value :: s) ((k, value) :: bound)

namespace Leads

variable {κ : Type} {words : κ → String} {bound bound' : List (κ × Value)}

theorem append (h : Leads words s bound) (h' : Leads words s' bound') :
    Leads words (s ++ s') (bound ++ bound') := by
  induction h with
  | nil => exact h'
  | text hplain _ ih => exact .text hplain ih
  | bind hplain hwords _ ih => exact .bind hplain hwords ih

theorem plain (h : Leads words s bound) (text : String) (htext : .text text ∈ s) : Plain text := by
  induction h with
  | nil => cases htext
  | text hplain _ ih =>
    rcases List.mem_cons.mp htext with hfirst | hrest
    · cases hfirst
      exact hplain
    · exact ih hrest
  | bind hplain _ _ ih =>
    rcases List.mem_cons.mp htext with hfirst | hrest
    · cases hfirst
      exact hplain
    · exact ih (List.mem_of_ne_of_mem (by simp) hrest)

theorem binds_eq (h : Leads words s bound) : s.binds = bound.map Prod.snd := by
  induction h with
  | nil => rfl
  | text _ _ ih => exact ih
  | @bind _ _ _ _ value _ _ _ ih => exact congrArg (value :: ·) ih

/-- The placeholder of each value stands right after its words. -/
theorem places (h : Leads words s bound) (before : List Char) (n : Nat) :
    List.Forall₂ (fun pair hole => (words pair.1).toList <:+ hole.before) bound
      (s.places before n) := by
  induction h generalizing before n with
  | nil => exact .nil
  | text _ _ ih => exact ih _ _
  | bind _ hwords _ ih => exact .cons (hwords.trans (List.suffix_append _ _)) (ih _ _)

end Leads

end Statement

end Agora.Sql
