import Mathlib.Data.List.Forall2
import Mathlib.Data.List.Nodup
import Mathlib.Data.List.Perm.Basic
import Agora.Proofs.Store.Integrity

/-!
# The list behind a feed

`Listing` says what a reader's feed is a page of, without saying how it is found: a list with every
post that is `Wanted`, each once, by time and id. If ids are distinct there is exactly one such
list, namely `selected` (`listing_selected`, `Listing.unique`), and in the other order it is its
reverse (`Listing.reverse`).

If moreover every post has its author, a feed is the page of that list which the query asks for,
item by item (`feed_shows`), and the pages of one size, one after the other, are the beginning of
the list (`pages_show`). The authors are needed: `feed` leaves out a post without an author only
after its page was cut out of the list.
-/

namespace Agora

/-- One post comes before another by the times at which they were made, and by ids if these are
equal. -/
def Post.Precedes (a b : Post) : Prop :=
  a.createdAt < b.createdAt ∨ a.createdAt = b.createdAt ∧ a.id < b.id

/-- Times are compared by their ticks. -/
theorem Post.precedes_iff {a b : Post} :
    a.Precedes b ↔ a.createdAt.ticks < b.createdAt.ticks ∨
      a.createdAt.ticks = b.createdAt.ticks ∧ a.id < b.id := by
  rw [Time.Instant.ticks_inj]
  rfl

theorem Post.Precedes.asymm {a b : Post} (h : a.Precedes b) : ¬b.Precedes a := by
  rw [precedes_iff] at h ⊢
  omega

namespace Store

variable {s : Store} {reader : Int} {q : Feed.Query} {posts : List Post}

/-! ## What is asked for -/

/-- What makes a post one that a query of a reader asks for. -/
structure Wanted (s : Store) (reader : Int) (q : Feed.Query) (p : Post) : Prop where
  /-- It is the reader's own, or by somebody the reader follows. -/
  author : p.userId = reader ∨ ⟨reader, p.userId⟩ ∈ s.follows
  tags : ∀ tag ∈ q.tags, tag ∈ p.tags
  /-- Both bounds include the time that they name. -/
  earliest : ∀ t, q.earliest = some t → t ≤ p.createdAt
  latest : ∀ t, q.latest = some t → p.createdAt ≤ t
  found : ∀ fragment, q.search = some fragment →
    finds fragment p.title = true ∨ finds fragment p.content = true

/-- The posts stand in the order that a query asks for. -/
def InOrder : Feed.Order → List Post → Prop
  | .ascending => List.Pairwise Post.Precedes
  | .descending => List.Pairwise fun a b => b.Precedes a

/-- All posts that a query of a reader asks for, each once, in the order of the query. -/
structure Listing (s : Store) (reader : Int) (q : Feed.Query) (posts : List Post) : Prop where
  members : ∀ p, p ∈ posts ↔ p ∈ s.posts ∧ s.Wanted reader q p
  once : posts.Nodup
  ordered : InOrder q.sort posts

/-- What a feed shows of a post: the post, who wrote it, and how many comments it has. -/
structure Shows (s : Store) (p : Post) (i : FeedItem) : Prop where
  post : i.post = p
  author : ∃ u ∈ s.users, u.id = p.userId ∧ i.author = ⟨u.username, u.email⟩
  comments : i.commentsCount = (s.commentsOf p.id).length

/-! ## The one listing -/

/-- The filters of a feed are the conditions on a post. -/
theorem wanted_iff {p : Post} :
    (s.concerns reader p && passes q p) = true ↔ s.Wanted reader q p := by
  unfold concerns passes isFollowing
  simp only [Bool.and_eq_true, Bool.or_eq_true, decide_eq_true_eq, List.contains_iff_mem,
    List.all_eq_true, Option.all_eq_true]
  constructor
  · rintro ⟨hauthor, ⟨⟨hfound, htags⟩, hearliest⟩, hlatest⟩
    exact ⟨hauthor, htags, hearliest, hlatest, hfound⟩
  · rintro ⟨hauthor, htags, hearliest, hlatest, hfound⟩
    exact ⟨hauthor, ⟨⟨hfound, htags⟩, hearliest⟩, hlatest⟩

/-- Readers get their own posts, if nothing but tags is asked for. -/
theorem wanted_own {p : Post} (htags : ∀ tag ∈ q.tags, tag ∈ p.tags) (hsearch : q.search = none)
    (hearliest : q.earliest = none) (hlatest : q.latest = none) : s.Wanted p.userId q p := by
  refine ⟨Or.inl rfl, htags, ?earliest, ?latest, ?found⟩
  case earliest =>
    intro t ht
    rw [hearliest] at ht
    cases ht
  case latest =>
    intro t ht
    rw [hlatest] at ht
    cases ht
  case found =>
    intro fragment hfragment
    rw [hsearch] at hfragment
    cases hfragment

/-- The order does not tell apart two rows of one time and one id. -/
theorem isEarlier_iff {time time' : Time.Instant} {id id' : Int} :
    isEarlier (time, id) (time', id') = true ↔
      time.ticks < time'.ticks ∨ time.ticks = time'.ticks ∧ id ≤ id' := by
  unfold isEarlier
  rw [Time.Instant.ticks_inj]
  simp only [Bool.or_eq_true, Bool.and_eq_true, decide_eq_true_eq]
  rfl

/-- The order by which posts are sorted. -/
def sortsBefore (a b : Post) : Bool := isEarlier (a.createdAt, a.id) (b.createdAt, b.id)

theorem sortsBefore_iff {a b : Post} :
    sortsBefore a b = true ↔ a.createdAt.ticks < b.createdAt.ticks ∨
      a.createdAt.ticks = b.createdAt.ticks ∧ a.id ≤ b.id := isEarlier_iff

theorem sorted_pairwise (posts : List Post) :
    (posts.mergeSort sortsBefore).Pairwise fun a b => sortsBefore a b = true := by
  refine List.pairwise_mergeSort ?trans ?total posts
  case trans =>
    intro a b c hab hbc
    rw [sortsBefore_iff] at hab hbc ⊢
    omega
  case total =>
    intro a b
    rw [Bool.or_eq_true, sortsBefore_iff, sortsBefore_iff]
    omega

/-- Sorting puts posts into ascending order if their ids are distinct. -/
theorem sorted_precedes (hunique : (posts.map (·.id)).Nodup) :
    (posts.mergeSort sortsBefore).Pairwise Post.Precedes := by
  have hdistinct : (posts.mergeSort sortsBefore).Pairwise fun a b => a.id ≠ b.id :=
    List.pairwise_map.mp (((List.mergeSort_perm posts _).map _).nodup_iff.mpr hunique)
  refine (sorted_pairwise posts).imp₂ ?_ hdistinct
  intro a b hbefore hne
  rw [sortsBefore_iff] at hbefore
  rw [Post.precedes_iff]
  omega

/-- What a feed is cut out of, by the order of its query. -/
theorem selected_eq (s : Store) (reader : Int) (q : Feed.Query) :
    s.selected reader q =
      let sorted :=
        (s.posts.filter fun p => s.concerns reader p && passes q p).mergeSort sortsBefore
      match q.sort with
      | .ascending => sorted
      | .descending => sorted.reverse := rfl

/-- The posts that a feed is cut out of are those that are wanted. -/
theorem mem_selected {p : Post} :
    p ∈ s.selected reader q ↔ p ∈ s.posts ∧ s.Wanted reader q p := by
  rw [selected_eq, ← wanted_iff,
    ← List.mem_filter (p := fun p => s.concerns reader p && passes q p)]
  cases q.sort with
  | ascending => exact List.mem_mergeSort
  | descending => exact List.mem_reverse.trans List.mem_mergeSort

/-- Between a time and itself there are the posts that were made then. -/
theorem mem_selected_at {t : Time.Instant} {p : Post} :
    p ∈ s.selected reader { q with earliest := some t, latest := some t } ↔
      p ∈ s.selected reader { q with earliest := none, latest := none } ∧ p.createdAt = t := by
  rw [mem_selected, mem_selected]
  constructor
  · intro h
    obtain ⟨hp, hwanted⟩ := h
    have hearliest : t.ticks ≤ p.createdAt.ticks := hwanted.earliest t rfl
    have hlatest : p.createdAt.ticks ≤ t.ticks := hwanted.latest t rfl
    refine ⟨⟨hp, hwanted.author, hwanted.tags, ?_, ?_, hwanted.found⟩, ?_⟩
    · intro _ hnone
      cases hnone
    · intro _ hnone
      cases hnone
    · rw [← Time.Instant.ticks_inj]
      omega
  · intro h
    obtain ⟨⟨hp, hwanted⟩, rfl⟩ := h
    refine ⟨hp, hwanted.author, hwanted.tags, ?_, ?_, hwanted.found⟩
    · intro t ht
      cases ht
      exact Int.le_refl _
    · intro t ht
      cases ht
      exact Int.le_refl _

/-- The list that a feed is cut out of is a listing. -/
theorem listing_selected (hunique : (s.posts.map (·.id)).Nodup) (reader : Int) (q : Feed.Query) :
    s.Listing reader q (s.selected reader q) := by
  have hkept : ((s.posts.filter fun p => s.concerns reader p && passes q p).map (·.id)).Nodup :=
    hunique.sublist (List.filter_sublist.map _)
  refine ⟨fun p => mem_selected, ?once, ?ordered⟩
  case once =>
    have honce := (List.mergeSort_perm _ sortsBefore).nodup_iff.mpr (List.Nodup.of_map _ hkept)
    rw [selected_eq]
    cases q.sort with
    | ascending => exact honce
    | descending => exact List.nodup_reverse.mpr honce
  case ordered =>
    have hordered := sorted_precedes hkept
    rw [selected_eq]
    cases q.sort with
    | ascending => exact hordered
    | descending => exact List.pairwise_reverse.mpr hordered

/-- What a query asks for, in its order, is one list only. -/
theorem Listing.unique {posts' : List Post} (h : s.Listing reader q posts)
    (h' : s.Listing reader q posts') : posts' = posts := by
  have hperm : posts'.Perm posts :=
    (List.perm_ext_iff_of_nodup h'.once h.once).mpr fun p => (h'.members p).trans (h.members p).symm
  have hordered := h.ordered
  have hordered' := h'.ordered
  unfold InOrder at hordered hordered'
  cases hsort : q.sort with
  | ascending =>
    rw [hsort] at hordered hordered'
    exact hperm.eq_of_pairwise (fun _ _ _ _ hab hba => absurd hba hab.asymm) hordered' hordered
  | descending =>
    rw [hsort] at hordered hordered'
    exact hperm.eq_of_pairwise (fun _ _ _ _ hab hba => absurd hba hab.asymm) hordered' hordered

/-- The listing in the other order. -/
theorem Listing.reverse (h : s.Listing reader q posts) {order : Feed.Order} (hne : order ≠ q.sort) :
    s.Listing reader { q with sort := order } posts.reverse := by
  refine ⟨?members, List.nodup_reverse.mpr h.once, ?ordered⟩
  case members =>
    intro p
    rw [List.mem_reverse, h.members]
    constructor
    · rintro ⟨hp, hauthor, htags, hearliest, hlatest, hfound⟩
      exact ⟨hp, hauthor, htags, hearliest, hlatest, hfound⟩
    · rintro ⟨hp, hauthor, htags, hearliest, hlatest, hfound⟩
      exact ⟨hp, hauthor, htags, hearliest, hlatest, hfound⟩
  case ordered =>
    have hordered := h.ordered
    unfold InOrder at hordered ⊢
    cases order with
    | ascending =>
      cases hsort : q.sort with
      | ascending => exact absurd hsort.symm hne
      | descending =>
        rw [hsort] at hordered
        exact List.pairwise_reverse.mpr hordered
    | descending =>
      cases hsort : q.sort with
      | ascending =>
        rw [hsort] at hordered
        exact List.pairwise_reverse.mpr hordered
      | descending => exact absurd hsort.symm hne

/-! ## Items -/

/-- The comments of a post are the rows that name it. -/
theorem length_commentsOf (s : Store) (postId : Int) :
    (s.commentsOf postId).length = (s.comments.filter (·.postId = postId)).length := by
  unfold commentsOf
  rw [List.length_mergeSort]

/-- A post that has its author is shown. -/
theorem feedItem?_shows {p : Post} (hauthor : ∃ u ∈ s.users, u.id = p.userId) :
    ∃ i, s.feedItem? p = some i ∧ s.Shows p i := by
  have hsome : (s.user? p.userId).isSome = true := by
    unfold user?
    simpa [List.find?_isSome] using hauthor
  obtain ⟨author, huser⟩ := Option.isSome_iff_exists.mp hsome
  obtain ⟨hmem, hid⟩ := mem_of_user? huser
  unfold feedItem?
  rw [huser]
  refine ⟨_, rfl, rfl, ⟨author, hmem, hid, rfl⟩, ?_⟩
  rw [length_commentsOf]

/-- Posts that have their authors are all shown, in the order in which they stand. -/
theorem filterMap_feedItem?_shows (h : ∀ p ∈ posts, ∃ u ∈ s.users, u.id = p.userId) :
    List.Forall₂ s.Shows posts (posts.filterMap s.feedItem?) := by
  induction posts with
  | nil => exact .nil
  | cons p rest ih =>
    obtain ⟨hp, hrest⟩ := List.forall_mem_cons.mp h
    obtain ⟨i, hi, hshows⟩ := feedItem?_shows hp
    rw [List.filterMap_cons_some hi]
    exact .cons hshows (ih hrest)

/-! ## Pages -/

/-- Parts of one length, one after the other, are the beginning of a list. -/
theorem flatMap_parts {α : Type} (l : List α) (length n : Nat) :
    ((List.range n).flatMap fun k => (l.drop (k * length)).take length) = l.take (n * length) := by
  induction n with
  | zero => simp
  | succ n ih =>
    rw [List.range_succ, List.flatMap_append, ih, List.flatMap_singleton, Nat.add_mul, Nat.one_mul,
      List.take_add]

@[simp] theorem extent_natCast (n length : Nat) : extent n length = n := by
  unfold extent
  rw [if_neg (by omega), Int.toNat_natCast]

theorem extent_of_nonneg {n : Int} (h : 0 ≤ n) (length : Nat) : extent n length = n.toNat := by
  unfold extent
  rw [if_neg (by omega)]

theorem extent_of_neg {n : Int} (h : n < 0) (length : Nat) : extent n length = length := by
  unfold extent
  rw [if_pos h]

/-- What the numbers of a query cut out of a list. -/
def cut (q : Feed.Query) (posts : List Post) : List Post :=
  (posts.drop (extent q.offset posts.length)).take (extent q.limit posts.length)

theorem feed_eq (s : Store) (reader : Int) (q : Feed.Query) :
    s.feed reader q = (cut q (s.selected reader q)).filterMap s.feedItem? := rfl

theorem cut_of_nonneg (hoffset : 0 ≤ q.offset) (hlimit : 0 ≤ q.limit) (posts : List Post) :
    cut q posts = (posts.drop q.offset.toNat).take q.limit.toNat := by
  unfold cut
  rw [extent_of_nonneg hoffset, extent_of_nonneg hlimit]

/-- Nothing stands behind a negative offset. -/
theorem cut_of_offset_neg (hoffset : q.offset < 0) (posts : List Post) : cut q posts = [] := by
  unfold cut
  rw [extent_of_neg hoffset, List.drop_length, List.take_nil]

/-- A negative limit is none. -/
theorem cut_of_limit_neg (hoffset : 0 ≤ q.offset) (hlimit : q.limit < 0) (posts : List Post) :
    cut q posts = posts.drop q.offset.toNat := by
  unfold cut
  rw [extent_of_nonneg hoffset, extent_of_neg hlimit]
  exact List.take_of_length_le (by rw [List.length_drop]; omega)

/-- A post that is asked for and has its author is shown on some page. -/
theorem exists_page {p : Post} (hp : p ∈ s.selected reader q) (hlimit : 1 ≤ q.limit)
    (hauthor : ∃ u ∈ s.users, u.id = p.userId) :
    ∃ k : Nat, ∃ i ∈ s.feed reader { q with offset := k }, s.Shows p i := by
  obtain ⟨before, after, hlist⟩ := List.append_of_mem hp
  obtain ⟨i, hi, hshows⟩ := feedItem?_shows hauthor
  obtain ⟨limit, hq⟩ : ∃ limit : Nat, q.limit = ↑(limit + 1) := ⟨q.limit.toNat - 1, by omega⟩
  refine ⟨before.length, i, ?_, hshows⟩
  show i ∈ (((s.selected reader q).drop (extent before.length _)).take (extent q.limit _)).filterMap
    s.feedItem?
  rw [hlist, hq, extent_natCast, extent_natCast, List.drop_left, List.take_succ_cons]
  exact List.mem_filterMap.mpr ⟨p, List.mem_cons_self, hi⟩

section

variable (hauthors : ∀ p ∈ s.posts, ∃ u ∈ s.users, u.id = p.userId)

include hauthors

theorem feed_shows (h : s.Listing reader q (s.selected reader q)) :
    List.Forall₂ s.Shows (cut q (s.selected reader q)) (s.feed reader q) := by
  refine filterMap_feedItem?_shows ?_
  intro p hp
  exact hauthors p ((h.members p).mp (List.mem_of_mem_drop (List.mem_of_mem_take hp))).1

/-- The first `n` pages of a size show the beginning of the list. -/
theorem pages_show (h : s.Listing reader q (s.selected reader q)) (limit n : Nat) :
    List.Forall₂ s.Shows ((s.selected reader q).take (n * limit))
      ((List.range n).flatMap fun k =>
        s.feed reader { q with limit := limit, offset := ↑(k * limit) }) := by
  have hpages : ((List.range n).flatMap fun k =>
      s.feed reader { q with limit := limit, offset := ↑(k * limit) }) =
        ((s.selected reader q).take (n * limit)).filterMap s.feedItem? := by
    rw [← flatMap_parts, List.filterMap_flatMap]
    simp only [feed_eq, cut, extent_natCast]
    rfl
  rw [hpages]
  refine filterMap_feedItem?_shows ?_
  intro p hp
  exact hauthors p ((h.members p).mp (List.mem_of_mem_take hp)).1

end

end Store

end Agora
