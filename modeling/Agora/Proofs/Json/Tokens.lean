import Agora.Proofs.Json.Strings

/-!
# The tokens of a document's text

Main result: `list_render`, the text of a document is read as the tokens that it is made of, and
what follows it as the tokens of what follows. Every token takes at least one symbol
(`length_head`), so that the limit on their number plays no part (`list_cons`). A number is the only
token that has no end of its own; whatever follows a document in a text ends it (`Ends`).
-/

namespace Agora.Json.Token

open Decimal (IsDigit)

/-! ## Numbers -/

/-- Nothing comes next that a number could go on with. -/
def Ends (rest : List Symbol) : Prop :=
  ∀ c, rest.head? = some (some c) → ¬IsDigit c ∧ c ≠ '.' ∧ c ≠ 'e' ∧ c ≠ 'E'

/-- A symbol is a digit. -/
def isDigit (s : Symbol) : Bool := s.any fun c => '0' ≤ c && c ≤ '9'

theorem isDigit_some {c : Char} : isDigit (some c) = true ↔ IsDigit c := by
  simp [isDigit, IsDigit]

theorem spanDigits_eq (cs : List Symbol) :
    spanDigits cs = ((cs.takeWhile isDigit).filterMap id, cs.dropWhile isDigit) := rfl

/-- The digits end where a number cannot go on. -/
theorem span_of_ends {rest : List Symbol} (h : Ends rest) :
    rest.takeWhile isDigit = [] ∧ rest.dropWhile isDigit = rest := by
  cases rest with
  | nil => exact ⟨rfl, rfl⟩
  | cons s rest =>
    have hs : ¬isDigit s = true := by
      intro hdigit
      cases s with
      | none => cases hdigit
      | some c => exact (h c rfl).1 (isDigit_some.mp hdigit)
    exact ⟨List.takeWhile_cons_of_neg hs, List.dropWhile_cons_of_neg hs⟩

theorem spanDigits_append {ds : List Char} {rest : List Symbol} (hds : ∀ c ∈ ds, IsDigit c)
    (hrest : Ends rest) : spanDigits (ds.map some ++ rest) = (ds, rest) := by
  have hall : ∀ s ∈ ds.map some, isDigit s = true := by
    intro s hs
    obtain ⟨c, hc, rfl⟩ := List.mem_map.mp hs
    exact isDigit_some.mpr (hds c hc)
  obtain ⟨htake, hdrop⟩ := span_of_ends hrest
  rw [spanDigits_eq, List.takeWhile_append_of_pos hall, List.dropWhile_append_of_pos hall, htake,
    hdrop, List.append_nil, List.filterMap_map, Function.id_comp, List.filterMap_some]

theorem fraction?_of_ends {rest : List Symbol} (h : Ends rest) :
    fraction? rest = some ([], rest) := by
  unfold fraction?
  split
  next => exact absurd rfl (h '.' rfl).2.1
  next => rfl

theorem power?_of_ends {rest : List Symbol} (h : Ends rest) : power? rest = some ([], rest) := by
  unfold power?
  split
  next => exact absurd rfl (h 'e' rfl).2.2.1
  next => exact absurd rfl (h 'E' rfl).2.2.2
  next => exact absurd rfl (h 'e' rfl).2.2.1
  next => exact absurd rfl (h 'E' rfl).2.2.2
  next => exact absurd rfl (h 'e' rfl).2.2.1
  next => exact absurd rfl (h 'E' rfl).2.2.2
  next => rfl

theorem magnitude?_ofNat (n : Nat) {rest : List Symbol} (hrest : Ends rest) :
    magnitude? ((Decimal.ofNat n).map some ++ rest) = some (Decimal.ofNat n, rest) := by
  have hdigits : digits? ((Decimal.ofNat n).map some ++ rest) = some (Decimal.ofNat n, rest) := by
    unfold digits?
    rw [spanDigits_append (fun c hc => Decimal.isDigit_of_mem_ofNat hc) hrest, if_neg]
    simpa using Decimal.ofNat_ne_nil n
  -- the digit of zero stands alone
  have hzero : ¬((Decimal.ofNat n).head? = some '0' ∧ 1 < (Decimal.ofNat n).length) := by
    rintro ⟨hhead, hlength⟩
    rw [Decimal.head?_ofNat hhead, Decimal.ofNat_of_lt (by decide)] at hlength
    simp at hlength
  unfold magnitude?
  rw [hdigits]
  simp only [Option.bind_eq_bind, Option.bind_some]
  rw [if_neg hzero, fraction?_of_ends hrest, Option.bind_some, power?_of_ends hrest]
  simp

/-! ## Every token takes at least one symbol -/

theorem length_of_digits? {cs rest : List Symbol} {ds : List Char}
    (h : digits? cs = some (ds, rest)) : rest.length < cs.length := by
  unfold digits? at h
  rw [spanDigits_eq] at h
  split at h
  next => cases h
  next hne =>
    obtain ⟨rfl, rfl⟩ := Prod.mk.inj (Option.some.inj h)
    cases cs with
    | nil => exact absurd rfl hne
    | cons s cs =>
      by_cases hs : isDigit s = true
      · rw [List.dropWhile_cons_of_pos hs]
        exact Nat.lt_succ_of_le (List.dropWhile_sublist _).length_le
      · -- without a first digit there is none
        rw [List.takeWhile_cons_of_neg hs] at hne
        exact absurd rfl hne

theorem length_of_fraction? {cs rest : List Symbol} {ds : List Char}
    (h : fraction? cs = some (ds, rest)) : rest.length ≤ cs.length := by
  unfold fraction? at h
  split at h
  next =>
    obtain ⟨⟨ds, rest⟩, hdigits, h⟩ := Option.map_eq_some_iff.mp h
    cases h
    have := length_of_digits? hdigits
    simp
    omega
  next =>
    cases h
    exact Nat.le_refl _

theorem length_of_power? {cs rest : List Symbol} {ds : List Char}
    (h : power? cs = some (ds, rest)) : rest.length ≤ cs.length := by
  unfold power? at h
  split at h
  case h_7 =>
    cases h
    exact Nat.le_refl _
  all_goals
    obtain ⟨⟨ds, rest⟩, hdigits, h⟩ := Option.map_eq_some_iff.mp h
    cases h
    have := length_of_digits? hdigits
    simp
    omega

theorem length_of_magnitude? {cs rest : List Symbol} {ds : List Char}
    (h : magnitude? cs = some (ds, rest)) : rest.length < cs.length := by
  unfold magnitude? at h
  obtain ⟨⟨before, cs₁⟩, hbefore, h⟩ := Option.bind_eq_some_iff.mp h
  have h₁ := length_of_digits? hbefore
  simp only at h
  split at h
  next => cases h
  next =>
    obtain ⟨⟨after, cs₂⟩, hafter, h⟩ := Option.bind_eq_some_iff.mp h
    obtain ⟨⟨power, cs₃⟩, hpower, h⟩ := Option.bind_eq_some_iff.mp h
    cases h
    have h₂ : cs₂.length ≤ cs₁.length := length_of_fraction? hafter
    have h₃ : cs₃.length ≤ cs₂.length := length_of_power? hpower
    show cs₃.length < cs.length
    omega

/-- One piece more is read up to the same place. -/
theorem pieces?_of_more {p : Piece} {cs rest : List Symbol} {ps : List Piece}
    (h : (do
      let (ps, rest) ← pieces? cs
      return (p :: ps, rest)) = some (ps, rest)) : ∃ ps, pieces? cs = some (ps, rest) := by
  obtain ⟨⟨ps, rest⟩, hpieces, h⟩ := Option.bind_eq_some_iff.mp h
  cases h
  exact ⟨ps, hpieces⟩

theorem length_of_pieces? {cs rest : List Symbol} {ps : List Piece}
    (h : pieces? cs = some (ps, rest)) : rest.length < cs.length := by
  fun_induction pieces? cs generalizing ps rest with
  | case1 => cases h
  | case2 cs =>
    cases h
    simp
  | case3 a b c d cs ih =>
    obtain ⟨n, hn, h⟩ := Option.bind_eq_some_iff.mp h
    obtain ⟨ps, hps⟩ := pieces?_of_more h
    have := ih hps
    simp
    omega
  | case4 c cs hu ih =>
    obtain ⟨d, hd, h⟩ := Option.bind_eq_some_iff.mp h
    obtain ⟨ps, hps⟩ := pieces?_of_more h
    have := ih hps
    simp
    omega
  | case5 => cases h
  | case6 c cs hquote hu hslash hplain ih =>
    obtain ⟨ps, hps⟩ := pieces?_of_more h
    have := ih hps
    simp
    omega
  | case7 cs ih =>
    obtain ⟨ps, hps⟩ := pieces?_of_more h
    have := ih hps
    simp
    omega

/-- A token takes at least one symbol. -/
theorem length_head {cs : List Symbol} (h : cs ≠ []) : (head cs).2.length < cs.length := by
  have hpos := List.length_pos_iff.mpr h
  unfold head
  split
  case h_10 cs =>
    split
    next hpieces =>
      have := length_of_pieces? hpieces
      simp
      omega
    next => exact hpos
  case h_11 cs =>
    split
    next hmagnitude =>
      have := length_of_magnitude? hmagnitude
      simp
      omega
    next => exact hpos
  case h_12 cs _ _ _ _ _ _ _ _ _ _ _ =>
    split
    next hmagnitude => exact length_of_magnitude? hmagnitude
    next => exact hpos
  all_goals
    -- brackets, signs and words
    simp
    try omega

/-- Limits that are not below the length of a text are none. -/
theorem listUpTo_eq {n m : Nat} {cs : List Symbol} (hn : cs.length ≤ n) (hm : cs.length ≤ m) :
    listUpTo n cs = listUpTo m cs := by
  induction n generalizing m cs with
  | zero =>
    obtain rfl := List.eq_nil_of_length_eq_zero (Nat.le_zero.mp hn)
    cases m with
    | zero => rfl
    | succ m => rfl
  | succ n ih =>
    cases m with
    | zero =>
      obtain rfl := List.eq_nil_of_length_eq_zero (Nat.le_zero.mp hm)
      rfl
    | succ m =>
      rw [listUpTo, listUpTo]
      have hblank := (List.dropWhile_sublist isBlank (l := cs)).length_le
      split
      next => rfl
      next hne =>
        have hlength := length_head hne
        have htail : listUpTo n (head (cs.dropWhile isBlank)).2 =
            listUpTo m (head (cs.dropWhile isBlank)).2 := ih (by omega) (by omega)
        rw [htail]

/-- The tokens of a text that does not start with a blank. -/
theorem list_cons {s : Symbol} (hs : isBlank s = false) (cs : List Symbol) :
    list (s :: cs) = (head (s :: cs)).1 :: list (head (s :: cs)).2 := by
  have hlength := length_head (List.cons_ne_nil s cs)
  unfold list
  rw [List.length_cons, listUpTo, List.dropWhile_cons_of_neg (by simp [hs])]
  simp only
  rw [List.length_cons] at hlength
  rw [listUpTo_eq (by omega) (Nat.le_refl _)]

/-! ## Single tokens -/

section

variable (cs : List Symbol)

@[simp] theorem list_openArr : list (some '[' :: cs) = .openArr :: list cs := list_cons rfl cs

@[simp] theorem list_closeArr : list (some ']' :: cs) = .closeArr :: list cs := list_cons rfl cs

@[simp] theorem list_openObj : list (some '\x7b' :: cs) = .openObj :: list cs := list_cons rfl cs

@[simp] theorem list_closeObj : list (some '\x7d' :: cs) = .closeObj :: list cs := list_cons rfl cs

@[simp] theorem list_comma : list (some ',' :: cs) = .comma :: list cs := list_cons rfl cs

@[simp] theorem list_colon : list (some ':' :: cs) = .colon :: list cs := list_cons rfl cs

theorem list_quote (s : String) :
    list ((quote s).map some ++ cs) = .str (some s) :: list cs := by
  obtain ⟨ps, htext, hpieces⟩ := pieces?_escape s.toList cs
  have hquote : (quote s).map some ++ cs =
      some '"' :: ((s.toList.flatMap escapeChar).map some ++ some '"' :: cs) := by
    simp [quote]
  rw [hquote, list_cons rfl, head, hpieces]
  simp only
  rw [htext, Option.map_some, String.ofList_toList]

theorem head_of_isDigit {c : Char} (h : IsDigit c) :
    head (some c :: cs) = match magnitude? (some c :: cs) with
      | some (ds, cs) => (.num ds, cs)
      | none => (.bad, []) := by
  unfold IsDigit at h
  unfold head
  split
  case h_12 => rfl
  -- no other token starts with a digit
  all_goals
    next heq =>
      cases heq
      simp at h

theorem list_ofNat (n : Nat) (h : Ends cs) :
    list ((Decimal.ofNat n).map some ++ cs) = .num (Decimal.ofNat n) :: list cs := by
  have hmagnitude := magnitude?_ofNat n h
  obtain ⟨c, ds, hn⟩ := List.exists_cons_of_ne_nil (Decimal.ofNat_ne_nil n)
  have hc : IsDigit c := by
    apply Decimal.isDigit_of_mem_ofNat (n := n)
    rw [hn]
    exact List.mem_cons_self
  have hblank : isBlank (some c) = false := by
    have hspace : c ≠ ' ' ∧ c ≠ '\t' ∧ c ≠ '\n' ∧ c ≠ '\r' := by
      refine ⟨?_, ?_, ?_, ?_⟩
      all_goals
        rintro rfl
        simp [IsDigit] at hc
    simpa [isBlank, and_assoc] using hspace
  rw [hn, List.map_cons, List.cons_append] at hmagnitude ⊢
  rw [list_cons hblank, head_of_isDigit _ hc, hmagnitude]

theorem list_ofInt (n : Int) (h : Ends cs) :
    list ((Decimal.ofInt n).map some ++ cs) = .num (Decimal.ofInt n) :: list cs := by
  unfold Decimal.ofInt
  split
  next =>
    rw [List.map_cons, List.cons_append, list_cons rfl, head, magnitude?_ofNat _ h]
  next => exact list_ofNat cs _ h

end

/-! ## Documents -/

/-- What cannot go on a number ends it. -/
theorem ends_cons {c : Char} (hc : ¬IsDigit c ∧ c ≠ '.' ∧ c ≠ 'e' ∧ c ≠ 'E') (cs : List Symbol) :
    Ends (some c :: cs) := by
  intro d hd
  cases hd
  exact hc

theorem ends_nil : Ends [] := by
  intro c hc
  cases hc

theorem ends_comma (cs : List Symbol) : Ends (some ',' :: cs) :=
  ends_cons (by simp [IsDigit]) cs

theorem ends_closeArr (cs : List Symbol) : Ends (some ']' :: cs) :=
  ends_cons (by simp [IsDigit]) cs

theorem ends_closeObj (cs : List Symbol) : Ends (some '\x7d' :: cs) :=
  ends_cons (by simp [IsDigit]) cs

mutual

/-- The tokens that a document is made of. -/
def tokens : Json → List Token
  | .null => [.null]
  | .bool b => [.bool b]
  | .int n => [.num (Decimal.ofInt n)]
  | .str s => [.str (some s)]
  | .arr items => .openArr :: (itemTokens items ++ [.closeArr])
  | .obj members => .openObj :: (memberTokens members ++ [.closeObj])

/-- The tokens of the items of an array, joined by commas. -/
def itemTokens : List Json → List Token
  | [] => []
  | [item] => tokens item
  | item :: rest => tokens item ++ .comma :: itemTokens rest

/-- The tokens of the members of an object, joined by commas. -/
def memberTokens : List (String × Json) → List Token
  | [] => []
  | [(name, value)] => .str (some name) :: .colon :: tokens value
  | (name, value) :: rest =>
    .str (some name) :: .colon :: (tokens value ++ .comma :: memberTokens rest)

end

mutual

theorem list_render (j : Json) {cs : List Symbol} (h : Ends cs) :
    list (j.render.map some ++ cs) = tokens j ++ list cs := by
  match j with
  | .null => exact list_cons rfl _
  | .bool true => exact list_cons rfl _
  | .bool false => exact list_cons rfl _
  | .int n =>
    rw [render, tokens, list_ofInt cs n h, List.singleton_append]
  | .str s =>
    rw [render, tokens, list_quote, List.singleton_append]
  | .arr items =>
    have hitems := list_renderItems items (ends_closeArr cs)
    simp only [render, tokens, List.map_cons, List.map_append, List.cons_append, List.append_assoc,
      List.map_nil, List.nil_append, list_openArr]
    rw [hitems, list_closeArr]
  | .obj members =>
    have hmembers := list_renderMembers members (ends_closeObj cs)
    simp only [render, tokens, List.map_cons, List.map_append, List.cons_append, List.append_assoc,
      List.map_nil, List.nil_append, list_openObj]
    rw [hmembers, list_closeObj]

theorem list_renderItems (items : List Json) {cs : List Symbol} (h : Ends cs) :
    list ((renderItems items).map some ++ cs) = itemTokens items ++ list cs := by
  match items with
  | [] => rfl
  | [item] =>
    rw [renderItems, itemTokens]
    exact list_render item h
  | item :: next :: rest =>
    have hrest := list_renderItems (next :: rest) h
    rw [renderItems, itemTokens]
    · simp only [List.map_cons, List.map_append, List.cons_append, List.append_assoc]
      rw [list_render item (ends_comma _), list_comma, hrest]
    · exact List.cons_ne_nil _ _
    · exact List.cons_ne_nil _ _

theorem list_renderMembers (members : List (String × Json)) {cs : List Symbol} (h : Ends cs) :
    list ((renderMembers members).map some ++ cs) = memberTokens members ++ list cs := by
  match members with
  | [] => rfl
  | [(name, value)] =>
    have hvalue := list_render value h
    simp only [renderMembers, memberTokens, List.map_cons, List.map_append, List.cons_append,
      List.append_assoc]
    rw [list_quote, list_colon, hvalue]
  | (name, value) :: next :: rest =>
    have hrest := list_renderMembers (next :: rest) h
    rw [renderMembers, memberTokens]
    · simp only [List.map_cons, List.map_append, List.cons_append, List.append_assoc]
      rw [list_quote, list_colon, list_render value (ends_comma _), list_comma, hrest]
    · exact List.cons_ne_nil _ _
    · exact List.cons_ne_nil _ _

end

end Agora.Json.Token
