import Mathlib.Data.List.Nodup
import Mathlib.Data.List.Perm.Basic
import Agora.Proofs.Text.Trim
import Agora.Tag

/-!
# Which tags a list of texts names

`Named` says what the tags are without saying how they are found: the trimmed texts that are not
empty, in the order of their first places among all of them. There is one such list only
(`Named.unique`), each of its members stands in it once and has no blanks at its ends, and it is
what `clean` gives (`named_clean`). Tags that were named once name themselves (`clean_of_proper`).
-/

namespace Agora.Tag

variable {texts tags : List String}

/-- The tags are those that the texts name. -/
structure Named (texts tags : List String) : Prop where
  members : ∀ tag, tag ∈ tags ↔ tag ≠ "" ∧ tag ∈ texts.map Text.trimmed
  /-- A tag stands before another one exactly if it was named before it. -/
  ordered : tags.Pairwise fun a b =>
    (texts.map Text.trimmed).idxOf a < (texts.map Text.trimmed).idxOf b

theorem Named.nodup (h : Named texts tags) : tags.Nodup := by
  refine h.ordered.imp ?_
  rintro a b hbefore rfl
  exact Nat.lt_irrefl _ hbefore

/-- No tag is empty or has blanks at its ends. -/
theorem Named.proper (h : Named texts tags) {tag : String} (htag : tag ∈ tags) :
    tag ≠ "" ∧ Text.trimmed tag = tag := by
  obtain ⟨hne, hmem⟩ := (h.members tag).mp htag
  obtain ⟨text, _, rfl⟩ := List.mem_map.mp hmem
  exact ⟨hne, Text.trimmed_trimmed text⟩

theorem Named.unique {tags' : List String} (h : Named texts tags) (h' : Named texts tags') :
    tags' = tags := by
  have hperm : tags'.Perm tags := (List.perm_ext_iff_of_nodup h'.nodup h.nodup).mpr
    fun tag => (h'.members tag).trans (h.members tag).symm
  refine hperm.eq_of_pairwise ?_ h'.ordered h.ordered
  intro a b _ _ hab hba
  exact absurd hab (Nat.lt_asymm hba)

/-! ## Leaving out what was named before -/

theorem mem_distinctFrom {seen : List String} {tag : String} :
    tag ∈ distinctFrom seen texts ↔ tag ∈ texts ∧ tag ∉ seen := by
  induction texts generalizing seen with
  | nil => simp [distinctFrom]
  | cons first rest ih =>
    rw [distinctFrom]
    split
    next hseen =>
      have hfirst : first ∈ seen := List.contains_iff_mem.mp hseen
      rw [ih, List.mem_cons]
      constructor
      · intro h
        exact ⟨Or.inr h.1, h.2⟩
      · intro h
        obtain ⟨rfl | hrest, hnew⟩ := h
        · exact absurd hfirst hnew
        · exact ⟨hrest, hnew⟩
    next hseen =>
      have hfirst : first ∉ seen := fun hmem => hseen (List.contains_iff_mem.mpr hmem)
      rw [List.mem_cons, ih, List.mem_cons, List.mem_cons]
      constructor
      · intro h
        obtain rfl | ⟨hrest, hnew⟩ := h
        · exact ⟨Or.inl rfl, hfirst⟩
        · exact ⟨Or.inr hrest, fun hmem => hnew (Or.inr hmem)⟩
      · intro h
        obtain ⟨hmem, hnew⟩ := h
        by_cases hsame : tag = first
        · exact Or.inl hsame
        · exact Or.inr ⟨hmem.resolve_left hsame, fun h => (h.elim hsame hnew)⟩

/-- What is kept stands in the order of the first places. -/
theorem distinctFrom_ordered (seen texts : List String) :
    (distinctFrom seen texts).Pairwise fun a b => texts.idxOf a < texts.idxOf b := by
  induction texts generalizing seen with
  | nil => exact .nil
  | cons first rest ih =>
    -- behind the first text places are one later
    have hlater : ∀ {seen}, first ∈ seen → (distinctFrom seen rest).Pairwise fun a b =>
        (first :: rest).idxOf a < (first :: rest).idxOf b := by
      intro seen hfirst
      refine (ih seen).imp_of_mem ?_
      intro a b ha hb hbefore
      have hne : ∀ {c}, c ∈ distinctFrom seen rest → first ≠ c := by
        rintro c hc rfl
        exact (mem_distinctFrom.mp hc).2 hfirst
      rw [List.idxOf_cons_ne rest (hne ha), List.idxOf_cons_ne rest (hne hb)]
      exact Nat.succ_lt_succ hbefore
    rw [distinctFrom]
    split
    next hseen => exact hlater (List.contains_iff_mem.mp hseen)
    next =>
      refine .cons ?_ (hlater List.mem_cons_self)
      intro b hb
      have hne : first ≠ b := by
        rintro rfl
        exact (mem_distinctFrom.mp hb).2 List.mem_cons_self
      rw [List.idxOf_cons_self, List.idxOf_cons_ne rest hne]
      exact Nat.succ_pos _

/-- Leaving out members of another kind keeps the order of first places. -/
theorem idxOf_lt_of_filter {p : String → Bool} {a b : String} (hb : p b = true)
    (h : (texts.filter p).idxOf a < (texts.filter p).idxOf b) : texts.idxOf a < texts.idxOf b := by
  induction texts with
  | nil => exact h
  | cons first rest ih =>
    by_cases hfirst : first = a
    · have hne : first ≠ b := by
        rintro rfl
        rw [hfirst] at h
        exact Nat.lt_irrefl _ h
      rw [hfirst, List.idxOf_cons_self, List.idxOf_cons_ne rest (hfirst ▸ hne)]
      exact Nat.succ_pos _
    · by_cases hp : p first = true
      · rw [List.filter_cons_of_pos hp, List.idxOf_cons_ne _ hfirst] at h
        have hne : first ≠ b := by
          rintro rfl
          rw [List.idxOf_cons_self] at h
          exact Nat.not_lt_zero _ h
        rw [List.idxOf_cons_ne _ hne] at h
        rw [List.idxOf_cons_ne _ hfirst, List.idxOf_cons_ne _ hne]
        exact Nat.succ_lt_succ (ih (Nat.lt_of_succ_lt_succ h))
      · have hne : first ≠ b := by
          rintro rfl
          exact hp hb
        rw [List.filter_cons_of_neg hp] at h
        rw [List.idxOf_cons_ne _ hfirst, List.idxOf_cons_ne _ hne]
        exact Nat.succ_lt_succ (ih h)

/-! ## Tags that are named -/

theorem named_clean (texts : List String) : Named texts (clean texts) where
  members := by
    intro tag
    unfold clean
    rw [mem_distinctFrom, List.mem_filter, decide_eq_true_eq]
    constructor
    · intro h
      exact ⟨h.1.2, h.1.1⟩
    · intro h
      exact ⟨⟨h.2, h.1⟩, List.not_mem_nil⟩
  ordered := by
    unfold clean
    refine (distinctFrom_ordered [] _).imp_of_mem ?_
    intro a b _ hb hbefore
    exact idxOf_lt_of_filter (List.mem_filter.mp (mem_distinctFrom.mp hb).1).2 hbefore

/-- Distinct tags without blanks at their ends name themselves. -/
theorem clean_of_proper (hnodup : tags.Nodup)
    (hproper : ∀ tag ∈ tags, tag ≠ "" ∧ Text.trimmed tag = tag) : clean tags = tags := by
  have hself : tags.map Text.trimmed = tags := by
    refine (List.map_congr_left ?_).trans (List.map_id tags)
    intro tag htag
    exact (hproper tag htag).2
  have hnamed : Named tags tags := by
    refine ⟨?members, ?ordered⟩
    case members =>
      intro tag
      rw [hself]
      exact ⟨fun htag => ⟨(hproper tag htag).1, htag⟩, fun h => h.2⟩
    case ordered =>
      rw [hself, List.pairwise_iff_getElem]
      intro i j hi hj hij
      rw [hnodup.idxOf_getElem i hi, hnodup.idxOf_getElem j hj]
      exact hij
  exact hnamed.unique (named_clean tags)

end Agora.Tag
