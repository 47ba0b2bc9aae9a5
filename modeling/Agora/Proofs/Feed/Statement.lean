import Agora.Feed.Statement
import Agora.Proofs.Sql.Placeholders

/-!
# What the statement for a feed asks the database

Main result: `composed_statement`. The text of the statement depends on the order and on which
filters there are, and on nothing that comes from a caller; its placeholders are numbered in order,
one for each value; and each value is the one that the words in front of its placeholder are about.

A `Slot` is a place in the text at which a value is wanted, known by these words. `leads_statement`
goes through the clauses once and says which values were bound for which slots; the placeholders and
the values of the statement are read off it.
-/

namespace Agora.Feed

open Sql (holes)
open Sql.Statement (Leads Plain plain_ofList suffix_ofList suffix_append outline outline_append
  outline_of_isSome)

/-! ## Slots -/

/-- A place at which a value is wanted. -/
inductive Slot where
  | author
  | follower
  | title
  | content
  | tags
  | earliest
  | latest
  | limit
  | offset
deriving DecidableEq

namespace Slot

/-- The words right before the placeholder. -/
def words : Slot → String
  | author => "p.user_id = "
  | follower => "f.follower_id = "
  | title => "p.title ILIKE "
  | content => "p.content ILIKE "
  | tags => "p.tags @> "
  | earliest => "p.created_at >= "
  | latest => "p.created_at <= "
  | limit => " LIMIT "
  | offset => " OFFSET "

/-- What the words are about, in a query of a caller; nothing if the query has no such filter. -/
def value? (q : Query) (caller : Int) : Slot → Option Sql.Value
  | author | follower => some (.int caller)
  | title | content =>
    q.search.map fun fragment => .text (String.ofList (likePattern fragment.toList))
  | tags => if q.tags = [] then none else some (.texts q.tags)
  | earliest => q.earliest.map .time
  | latest => q.latest.map .time
  | limit => some (.int q.limit)
  | offset => some (.int q.offset)

/-- All slots, in the order in which they stand in a text. -/
def all : List Slot := [author, follower, title, content, tags, earliest, latest, limit, offset]

theorem mem_all (slot : Slot) : slot ∈ all := by cases slot <;> decide

/-- No slot's words end with those of another one. -/
theorem eq_of_words {a b : Slot} (h : a.words.toList <:+ b.words.toList) : a = b := by
  apply Decidable.byContradiction
  intro hne
  revert h
  unfold words
  cases a <;> cases b <;> first
    | exact absurd rfl hne
    | (rw [String.toList_ofList, String.toList_ofList]; decide)

/-- At one place in a text the words of one slot can stand at most. -/
theorem eq_of_suffix {a b : Slot} {text : List Char} (ha : a.words.toList <:+ text)
    (hb : b.words.toList <:+ text) : a = b := by
  rcases List.suffix_or_suffix_of_suffix ha hb with h | h
  · exact eq_of_words h
  · exact (eq_of_words h).symm

end Slot

namespace Query

variable {q q' : Query} {caller caller' : Int}

/-! ## Shapes -/

/-- What the text of a statement may depend on. -/
structure Shape where
  sort : Order
  search : Bool
  tags : Bool
  earliest : Bool
  latest : Bool
deriving DecidableEq

/-- The order, and which filters there are. -/
def shape (q : Query) : Shape where
  sort := q.sort
  search := q.search.isSome
  tags := !q.tags.isEmpty
  earliest := q.earliest.isSome
  latest := q.latest.isSome

theorem outline_statement (h : q'.shape = q.shape) :
    outline (q'.statement caller') = outline (q.statement caller) := by
  simp only [shape, Shape.mk.injEq] at h
  obtain ⟨hsort, hsearch, htags, hearliest, hlatest⟩ := h
  have hselect : outline (selectClause caller') = outline (selectClause caller) := rfl
  have htags : outline (tagClause q'.tags) = outline (tagClause q.tags) := by
    unfold tagClause
    rw [Bool.not_inj htags]
    split
    next => rfl
    next => rfl
  have hpage : outline (pageClause q'.sort q'.limit q'.offset) =
      outline (pageClause q.sort q.limit q.offset) := by
    rw [hsort]
    rfl
  unfold statement
  simp only [outline_append]
  rw [hselect, outline_of_isSome searchClause (fun _ _ => rfl) hsearch, htags,
    outline_of_isSome earliestClause (fun _ _ => rfl) hearliest,
    outline_of_isSome latestClause (fun _ _ => rfl) hlatest, hpage]

/-! ## Values and their slots -/

/-- The values that are wanted for some of the slots, with the slots. -/
def wanted (q : Query) (caller : Int) (slots : List Slot) : List (Slot × Sql.Value) :=
  slots.filterMap fun slot => (slot.value? q caller).map fun value => (slot, value)

theorem leads_selectClause :
    Leads Slot.words (selectClause caller) (q.wanted caller [.author, .follower]) := by
  refine .bind (.append (.append (.append ?_ ?_) ?_) ?_) (suffix_append ?_ _)
    (.bind ?_ ?_ (.text ?_ .nil))
  · exact plain_ofList (by decide) (by decide)
  · exact plain_ofList (by decide) (by decide)
  · exact plain_ofList (by decide) (by decide)
  · exact plain_ofList (by decide) (by decide)
  · exact suffix_ofList (by decide)
  · exact plain_ofList (by decide) (by decide)
  · exact suffix_ofList (by decide)
  · exact plain_ofList (by decide) (by decide)

theorem leads_searchClause :
    Leads Slot.words (searchClause q.search) (q.wanted caller [.title, .content]) := by
  unfold wanted
  simp only [List.filterMap_cons, List.filterMap_nil, Slot.value?]
  cases q.search with
  | none => exact .nil
  | some fragment =>
    refine .bind ?_ ?_ (.bind ?_ ?_ (.text ?_ .nil))
    · exact plain_ofList (by decide) (by decide)
    · exact suffix_ofList (by decide)
    · exact plain_ofList (by decide) (by decide)
    · exact suffix_ofList (by decide)
    · exact plain_ofList (by decide) (by decide)

theorem leads_tagClause : Leads Slot.words (tagClause q.tags) (q.wanted caller [.tags]) := by
  unfold wanted tagClause
  simp only [List.filterMap_cons, List.filterMap_nil, Slot.value?]
  cases q.tags with
  | nil => exact .nil
  | cons tag tags =>
    exact .bind (plain_ofList (by decide) (by decide)) (suffix_ofList (by decide)) .nil

theorem leads_earliestClause :
    Leads Slot.words (earliestClause q.earliest) (q.wanted caller [.earliest]) := by
  unfold wanted
  simp only [List.filterMap_cons, List.filterMap_nil, Slot.value?]
  cases q.earliest with
  | none => exact .nil
  | some bound =>
    exact .bind (plain_ofList (by decide) (by decide)) (suffix_ofList (by decide)) .nil

theorem leads_latestClause :
    Leads Slot.words (latestClause q.latest) (q.wanted caller [.latest]) := by
  unfold wanted
  simp only [List.filterMap_cons, List.filterMap_nil, Slot.value?]
  cases q.latest with
  | none => exact .nil
  | some bound =>
    exact .bind (plain_ofList (by decide) (by decide)) (suffix_ofList (by decide)) .nil

theorem plain_keyword (sort : Order) : Plain sort.keyword := by
  cases sort with
  | ascending => exact plain_ofList (by decide) (by decide)
  | descending => exact plain_ofList (by decide) (by decide)

theorem leads_pageClause :
    Leads Slot.words (pageClause q.sort q.limit q.offset) (q.wanted caller [.limit, .offset]) := by
  refine .bind (.append (.append (.append (.append ?_ (plain_keyword _)) ?_) (plain_keyword _)) ?_)
    (suffix_append ?_ _) (.bind ?_ ?_ .nil)
  · exact plain_ofList (by decide) (by decide)
  · exact plain_ofList (by decide) (by decide)
  · exact plain_ofList (by decide) (by decide)
  · exact suffix_ofList (by decide)
  · exact plain_ofList (by decide) (by decide)
  · exact suffix_ofList (by decide)

theorem wanted_append (slots slots' : List Slot) :
    q.wanted caller (slots ++ slots') = q.wanted caller slots ++ q.wanted caller slots' :=
  List.filterMap_append

/-- Each value is bound for the slot that wants it, and no slot that wants one is passed over. -/
theorem leads_statement : Leads Slot.words (q.statement caller) (q.wanted caller Slot.all) := by
  have hall : Slot.all = [.author, .follower] ++ [.title, .content] ++ [.tags] ++ [.earliest] ++
      [.latest] ++ [.limit, .offset] := rfl
  rw [hall]
  simp only [wanted_append]
  exact ((((leads_selectClause.append leads_searchClause).append leads_tagClause).append
    leads_earliestClause).append leads_latestClause).append leads_pageClause

/-! ## The statement as a whole -/

/-- The slots that want a value, in the order in which they stand in the text. -/
def slots (q : Query) (caller : Int) : List Slot :=
  Slot.all.filter fun slot => (slot.value? q caller).isSome

theorem exists_of_forall₂ {α β : Type} {r : α → β → Prop} {as : List α} {bs : List β}
    (h : List.Forall₂ r as bs) {a : α} (ha : a ∈ as) : ∃ b ∈ bs, r a b := by
  induction h with
  | nil => cases ha
  | @cons first b rest bs hfirst _ ih =>
    rcases List.mem_cons.mp ha with rfl | ha
    · exact ⟨b, List.mem_cons_self, hfirst⟩
    · obtain ⟨found, hfound, hrelated⟩ := ih ha
      exact ⟨found, List.mem_cons_of_mem _ hfound, hrelated⟩

theorem value?_of_mem_wanted {pair : Slot × Sql.Value} (h : pair ∈ q.wanted caller Slot.all) :
    pair.1.value? q caller = some pair.2 := by
  obtain ⟨slot, -, hpair⟩ := List.mem_filterMap.mp h
  obtain ⟨value, hvalue, rfl⟩ := Option.map_eq_some_iff.mp hpair
  exact hvalue

theorem map_fst_wanted (part : List Slot) :
    (q.wanted caller part).map Prod.fst =
      part.filter fun slot => (slot.value? q caller).isSome := by
  induction part with
  | nil => rfl
  | cons slot rest ih =>
    unfold wanted at ih ⊢
    rw [List.filterMap_cons, List.filter_cons]
    cases slot.value? q caller with
    | none => exact ih
    | some value => exact congrArg (slot :: ·) ih

/-- What the statement for a feed is: a text that a caller has no part in, and values that are each
what the words in front of its placeholder are about. -/
structure Composed (q : Query) (caller : Int) : Prop where
  /-- The text is that of every query of the same shape, whoever the caller. -/
  shaped : ∀ (q' : Query) (caller' : Int), q'.shape = q.shape →
    (q'.statement caller').text = (q.statement caller).text
  /-- The placeholders have the numbers from 1 to the number of values, in this order. -/
  numbered : (holes (q.statement caller).text).map (·.number) =
    (List.range' 1 (q.statement caller).binds.length).map Decimal.ofNat
  /-- The placeholders are those of the slots that want a value: in front of each stand the words of
  its slot, and those of no other. -/
  placed : List.Forall₂ (fun slot hole => ∀ other : Slot, other.words.toList <:+ hole.before ↔
    other = slot) (q.slots caller) (holes (q.statement caller).text)
  /-- The values are those that these slots want. -/
  bound : List.Forall₂ (fun slot value => slot.value? q caller = some value) (q.slots caller)
    (q.statement caller).binds
  /-- The words of a slot, with a placeholder behind them, are in the text exactly if it wants a
  value. -/
  present : ∀ slot : Slot, slot.words.toList ++ ['$'] <:+: (q.statement caller).text.toList ↔
    (slot.value? q caller).isSome

theorem bound_statement (q : Query) (caller : Int) :
    List.Forall₂ (fun slot value => slot.value? q caller = some value) (q.slots caller)
      (q.statement caller).binds := by
  rw [slots, ← map_fst_wanted, leads_statement.binds_eq, List.forall₂_map_left_iff,
    List.forall₂_map_right_iff, List.forall₂_same]
  intro pair hpair
  exact value?_of_mem_wanted hpair

theorem placed_statement (q : Query) (caller : Int) :
    List.Forall₂ (fun slot hole => ∀ other : Slot, other.words.toList <:+ hole.before ↔
      other = slot) (q.slots caller) (holes (q.statement caller).text) := by
  rw [slots, ← map_fst_wanted, List.forall₂_map_left_iff,
    Sql.Statement.holes_text leads_statement.plain]
  apply (leads_statement.places [] 1).imp
  intro pair hole hwords other
  constructor
  · intro hother
    exact Slot.eq_of_suffix hother hwords
  · rintro rfl
    exact hwords

theorem composed_statement (q : Query) (caller : Int) : Composed q caller where
  shaped q' caller' h := Sql.Statement.text_eq_of_outline (outline_statement h)
  numbered := by
    rw [Sql.Statement.holes_text leads_statement.plain, Sql.Statement.number_places]
  placed := placed_statement q caller
  bound := bound_statement q caller
  present slot := by
    have hslot : slot ∈ q.slots caller ↔ (slot.value? q caller).isSome := by
      simp [slots, Slot.mem_all]
    rw [← Sql.exists_hole_iff, ← hslot]
    constructor
    · rintro ⟨hole, hhole, hwords⟩
      obtain ⟨found, hfound, hplaced⟩ := exists_of_forall₂ (placed_statement q caller).flip hhole
      rwa [(hplaced slot).mp hwords]
    · intro hmem
      obtain ⟨hole, hhole, hplaced⟩ := exists_of_forall₂ (placed_statement q caller) hmem
      exact ⟨hole, hhole, (hplaced slot).mpr rfl⟩

end Query

end Agora.Feed
