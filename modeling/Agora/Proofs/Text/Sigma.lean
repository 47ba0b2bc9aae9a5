import Mathlib.Data.List.Infix
import Agora.Proofs.Text.LowerCase

/-!
# The lower case of a part of a text

A text is lowered letter by letter, but for the capital sigma, whose small letter is told by the
nearest characters on both sides that are not passed over. `lowerWithin` lowers a part of a text
when all that is known of the rest is whether it ends cased before the part and begins cased after
it; `lower_append` says that the parts of a lowered text are lowered in this way.

Main result: `lower_infix_iff`. A fragment stays a part of a text that holds it when both are
lowered, whatever the text is, exactly if the neighbours inside of the fragment settle every sigma
of it (`SigmasSettled`). Where one of them does not, a single letter put before or after the
fragment turns that sigma into its other form (`exists_not_infix`), so that the text has one letter
less of the form that the fragment has (`not_infix_of_replaced`).
-/

namespace Agora.Text

variable {fragment left right : List Char} {before after : Bool}

/-! ## Neighbours -/

/-- The first character that is not passed over. -/
def neighbour? (cs : List Char) : Option Char := cs.find? fun c => !isIgnorable c

/-- Whether a text begins cased; of what follows it, this is known. -/
def beginsCased (after : Bool) (cs : List Char) : Bool := (neighbour? cs).elim after isCased

/-- Whether a text ends cased; of what stands before it, this is known. -/
def endsCased (before : Bool) (cs : List Char) : Bool := (neighbour? cs.reverse).elim before isCased

theorem beginsCased_append (after : Bool) (cs ds : List Char) :
    beginsCased after (cs ++ ds) = beginsCased (beginsCased after ds) cs := by
  unfold beginsCased neighbour?
  rw [List.find?_append]
  cases cs.find? fun c => !isIgnorable c with
  | none => rfl
  | some c => rfl

theorem endsCased_append (before : Bool) (cs ds : List Char) :
    endsCased before (cs ++ ds) = endsCased (endsCased before cs) ds := by
  unfold endsCased
  rw [List.reverse_append]
  exact beginsCased_append before ds.reverse cs.reverse

theorem endsCased_singleton (before : Bool) (c : Char) :
    endsCased before [c] = if isIgnorable c then before else isCased c := by
  unfold endsCased neighbour?
  rw [List.reverse_singleton, List.find?_singleton]
  cases isIgnorable c with
  | true => rfl
  | false => rfl

/-- Nothing cased follows the end of a text. -/
theorem startsCased_eq (cs : List Char) : startsCased cs = beginsCased false cs := by
  unfold startsCased beginsCased neighbour?
  rw [List.find?_not_eq_head?_dropWhile]
  cases cs.dropWhile isIgnorable with
  | nil => rfl
  | cons c rest => rfl

/-! ## Parts of a lowered text -/

/-- The small letter of a sigma between two neighbours of which it is known whether they are cased.
-/
def smallSigma (before after : Bool) : Char := if before && !after then 'ς' else 'σ'

/-- The lower case of a part of a text. -/
def lowerWithin (before after : Bool) : List Char → List Char
  | [] => []
  | c :: rest =>
    (if c = 'Σ' then [smallSigma before (beginsCased after rest)] else lowerChar c) ++
      lowerWithin (endsCased before [c]) after rest

/-- What is lowered first stands before the rest. -/
theorem lowerFrom_append (before : Bool) (cs ds : List Char) :
    lowerFrom before (cs ++ ds) =
      lowerWithin before (startsCased ds) cs ++ lowerFrom (endsCased before cs) ds := by
  induction cs generalizing before with
  | nil => rfl
  | cons c rest ih =>
    rw [List.cons_append, lowerFrom, lowerWithin, ← endsCased_singleton, ih, List.append_assoc,
      startsCased_eq (rest ++ ds), beginsCased_append, ← startsCased_eq ds, ← endsCased_append]
    rfl

theorem lowerFrom_eq (before : Bool) (cs : List Char) :
    lowerFrom before cs = lowerWithin before false cs := by
  have hall := lowerFrom_append before cs []
  rw [List.append_nil] at hall
  exact hall.trans (List.append_nil _)

theorem lower_append (cs part ds : List Char) :
    ∃ front back, lower (cs ++ (part ++ ds)) =
      front ++ (lowerWithin (endsCased false cs) (startsCased ds) part ++ back) := by
  refine ⟨lowerWithin false (startsCased (part ++ ds)) cs,
    lowerFrom (endsCased (endsCased false cs) part) ds, ?_⟩
  unfold lower
  rw [lowerFrom_append, lowerFrom_append]

theorem lowerWithin_append (before after : Bool) (cs ds : List Char) :
    lowerWithin before after (cs ++ ds) =
      lowerWithin before (beginsCased after ds) cs ++
        lowerWithin (endsCased before cs) after ds := by
  induction cs generalizing before with
  | nil => rfl
  | cons c rest ih =>
    rw [List.cons_append, lowerWithin, lowerWithin, ih, List.append_assoc, beginsCased_append,
      ← endsCased_append]
    rfl

/-! ## Settled sigmas -/

/-- The small letter of a sigma does not depend on what stands farther away than these neighbours,
either of which may be missing. -/
def Settles : Option Char → Option Char → Prop
  | some _, some _ => True
  | some c, none => isCased c = false
  | none, some c => isCased c = true
  | none, none => False

/-- The neighbours of every sigma of the fragment settle it. -/
def SigmasSettled (fragment : List Char) : Prop :=
  ∀ left right, fragment = left ++ 'Σ' :: right →
    Settles (neighbour? left.reverse) (neighbour? right)

theorem smallSigma_of_settles (h : Settles (neighbour? left.reverse) (neighbour? right))
    (before after : Bool) :
    smallSigma (endsCased before left) (beginsCased after right) =
      smallSigma (endsCased false left) (beginsCased false right) := by
  unfold endsCased beginsCased smallSigma
  cases hleft : neighbour? left.reverse with
  | none =>
    cases hright : neighbour? right with
    | none => simp [hleft, hright, Settles] at h
    | some d =>
      have hcased : isCased d = true := by simpa [hleft, hright, Settles] using h
      simp [hcased]
  | some c =>
    cases hright : neighbour? right with
    | none =>
      have hcased : isCased c = false := by simpa [hleft, hright, Settles] using h
      simp [hcased]
    | some d => rfl

/-- A fragment that settles its sigmas is lowered in the same way wherever it stands. The induction
moves letters from the fragment to `done`, since the neighbours before a sigma count. -/
theorem lowerWithin_of_settled (before after : Bool) (done : List Char)
    (h : ∀ left right, fragment = left ++ 'Σ' :: right →
      Settles (neighbour? (done ++ left).reverse) (neighbour? right)) :
    lowerWithin (endsCased before done) after fragment =
      lowerWithin (endsCased false done) false fragment := by
  induction fragment generalizing done with
  | nil => rfl
  | cons c rest ih =>
    have hrest := ih (done ++ [c]) fun left right heq => by
      have hsettled := h (c :: left) right (by rw [heq]; rfl)
      rwa [List.append_assoc]
    rw [lowerWithin, lowerWithin, ← endsCased_append, ← endsCased_append, hrest]
    by_cases hc : c = 'Σ'
    · subst hc
      have hsettled := h [] rest rfl
      rw [List.append_nil] at hsettled
      rw [if_pos rfl, if_pos rfl, smallSigma_of_settles hsettled]
    · rw [if_neg hc, if_neg hc]

theorem lowerWithin_eq_of_settled (h : SigmasSettled fragment) (before after : Bool) :
    lowerWithin before after fragment = lower fragment := by
  rw [lower, lowerFrom_eq]
  exact lowerWithin_of_settled before after [] h

/-! ## Sigmas that are not settled -/

theorem isCased_sigma : isCased 'Σ' = true := by decide +kernel

theorem isIgnorable_sigma : isIgnorable 'Σ' = false := by decide +kernel

/-- A sigma is never passed over. -/
theorem neighbour?_sigma (cs : List Char) : neighbour? ('Σ' :: cs) = some 'Σ' := by
  unfold neighbour?
  rw [List.find?_cons_of_pos (by rw [isIgnorable_sigma]; rfl)]

theorem sigma_not_mem_of_neighbour? {cs : List Char} (h : neighbour? cs = none) : 'Σ' ∉ cs := by
  intro hmem
  have hignored := List.find?_eq_none.mp h 'Σ' hmem
  rw [isIgnorable_sigma] at hignored
  exact hignored rfl

/-- Without a sigma nothing depends on what stands around. -/
theorem sigmasSettled_of_not_mem (h : 'Σ' ∉ fragment) : SigmasSettled fragment := by
  intro left right hfragment
  rw [hfragment] at h
  exact absurd (List.mem_append_right left List.mem_cons_self) h

theorem lowerWithin_of_not_mem (h : 'Σ' ∉ fragment) (before after : Bool) :
    lowerWithin before after fragment = lower fragment :=
  lowerWithin_eq_of_settled (sigmasSettled_of_not_mem h) before after

/-- What stands left of a sigma has a cased letter after it, and what stands right of it has one
before it. -/
theorem lowerWithin_sigma (before after : Bool) (left right : List Char) :
    lowerWithin before after (left ++ 'Σ' :: right) =
      lowerWithin before true left ++
        smallSigma (endsCased before left) (beginsCased after right) ::
          lowerWithin true after right := by
  have hleft : beginsCased after ('Σ' :: right) = true := by
    unfold beginsCased
    rw [neighbour?_sigma]
    exact isCased_sigma
  have hright : endsCased (endsCased before left) ['Σ'] = true := by
    rw [endsCased_singleton, isIgnorable_sigma]
    exact isCased_sigma
  rw [lowerWithin_append, hleft, lowerWithin, hright, if_pos rfl]
  rfl

/-- Where one letter takes the place of another in a text, which gets a further letter at one end,
there is one less of the letter that was replaced. -/
theorem not_infix_of_replaced {front back extra : List Char} {c d : Char} (hne : d ≠ c)
    (hextra : c ∉ extra) {text : List Char}
    (htext : text.Perm (extra ++ (front ++ d :: back))) : ¬front ++ c :: back <:+: text := by
  intro hinfix
  have hcount : (front ++ c :: back).count c ≤ text.count c := hinfix.sublist.count_le c
  rw [htext.count_eq c] at hcount
  simp only [List.count_append, List.count_cons_self, List.count_cons_of_ne hne,
    List.count_eq_zero_of_not_mem hextra] at hcount
  omega

theorem lowerWithin_letter (before after : Bool) : lowerWithin before after ['a'] = ['a'] := by
  rw [lowerWithin_of_not_mem (by decide)]
  exact lower_eq_self (List.forall_mem_singleton.mpr ⟨by decide, by decide⟩)

theorem lower_sigma (left right : List Char) :
    lower (left ++ 'Σ' :: right) = lowerWithin false true left ++
      smallSigma (endsCased false left) (beginsCased false right) ::
        lowerWithin true false right := by
  rw [lower, lowerFrom_eq, lowerWithin_sigma]

/-- A sigma that nothing comes before begins a word, and ends one after a letter. -/
theorem not_infix_after_letter (hleft : neighbour? left.reverse = none)
    (hright : beginsCased false right = false) :
    ¬lower (left ++ 'Σ' :: right) <:+: lower (['a'] ++ (left ++ 'Σ' :: right)) := by
  have hends : ∀ before, endsCased before left = before := by
    intro before
    unfold endsCased
    rw [hleft]
    rfl
  have hmem : 'Σ' ∉ left := fun hmem =>
    sigma_not_mem_of_neighbour? hleft (List.mem_reverse.mpr hmem)
  have htext : lower (['a'] ++ (left ++ 'Σ' :: right)) =
      ['a'] ++ (lowerWithin false true left ++ 'ς' :: lowerWithin true false right) := by
    rw [lower, lowerFrom_append, lowerWithin_letter, lowerFrom_eq,
      show endsCased false ['a'] = true by decide +kernel, lowerWithin_sigma, hends, hright,
      lowerWithin_of_not_mem hmem, lowerWithin_of_not_mem hmem]
    rfl
  rw [lower_sigma, hends, hright]
  exact not_infix_of_replaced (c := 'σ') (by decide) (by decide) (.of_eq htext)

/-- A sigma that something cased comes before and nothing comes after ends a word, and no more so
before a letter. -/
theorem not_infix_before_letter (hleft : endsCased false left = true)
    (hright : neighbour? right = none) :
    ¬lower (left ++ 'Σ' :: right) <:+: lower ((left ++ 'Σ' :: right) ++ ['a']) := by
  have hbegins : ∀ after, beginsCased after right = after := by
    intro after
    unfold beginsCased
    rw [hright]
    rfl
  have hmem : 'Σ' ∉ right := sigma_not_mem_of_neighbour? hright
  have htext : lower ((left ++ 'Σ' :: right) ++ ['a']) =
      (lowerWithin false true left ++ 'σ' :: lowerWithin true false right) ++ ['a'] := by
    rw [lower, lowerFrom_append, lowerFrom_eq _ ['a'], lowerWithin_letter,
      show startsCased ['a'] = true by decide +kernel, lowerWithin_sigma, hleft, hbegins,
      lowerWithin_of_not_mem hmem, lowerWithin_of_not_mem hmem]
    rfl
  rw [lower_sigma, hleft, hbegins]
  exact not_infix_of_replaced (c := 'ς') (by decide) (by decide)
    (.trans (.of_eq htext) List.perm_append_comm)

/-- A sigma that is not settled gets its other form by a letter before or after the fragment. -/
theorem exists_not_infix (h : ¬Settles (neighbour? left.reverse) (neighbour? right)) :
    ∃ text, left ++ 'Σ' :: right <:+: text ∧ ¬lower (left ++ 'Σ' :: right) <:+: lower text := by
  cases hleft : neighbour? left.reverse with
  | none =>
    have hbegins : beginsCased false right = false := by
      unfold beginsCased
      cases hright : neighbour? right with
      | none => rfl
      | some d => simpa [hleft, hright, Settles] using h
    exact ⟨_, (List.suffix_append ['a'] _).isInfix, not_infix_after_letter hleft hbegins⟩
  | some c =>
    have hcased : isCased c = true ∧ neighbour? right = none := by
      cases hright : neighbour? right with
      | none => simpa [hleft, hright, Settles] using h
      | some d => simp [hleft, hright, Settles] at h
    have hends : endsCased false left = true := by
      unfold endsCased
      rw [hleft]
      exact hcased.1
    exact ⟨_, (List.prefix_append _ ['a']).isInfix, not_infix_before_letter hends hcased.2⟩

/-- A fragment is found in every text that holds it, both lowered, exactly if its sigmas are
settled. -/
theorem lower_infix_iff :
    (∀ text, fragment <:+: text → lower fragment <:+: lower text) ↔ SigmasSettled fragment := by
  constructor
  · intro hfound left right hfragment
    by_contra hopen
    obtain ⟨text, hholds, hlost⟩ := exists_not_infix hopen
    subst hfragment
    exact hlost (hfound text hholds)
  · intro hsettled text hholds
    obtain ⟨cs, ds, rfl⟩ := hholds
    obtain ⟨front, back, htext⟩ := lower_append cs fragment ds
    refine ⟨front, back, ?_⟩
    rw [List.append_assoc, List.append_assoc, htext, lowerWithin_eq_of_settled hsettled]

end Agora.Text
