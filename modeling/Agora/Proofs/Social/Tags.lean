import Agora.Proofs.Feed.Query
import Agora.Proofs.Social.Feed
import Agora.Proofs.Social.Sequential

/-!
# Tags that are stored and tags that are asked for

Main result: `tags_kept`. The tags of a new post are those that its draft names (`Tag.Named`), and a
feed that is asked for them, joined by commas, is asked for the same tags in the same order exactly
if none has a comma in it. So the author finds the post by all of its tags that have none.
-/

namespace Agora.Social

open Feed (Params)

variable {x y : Exchange World Call} {caller : User} {draft : PostDraft} {p : Post}

/-! ## Posts that are made -/

/-- A new post stands in the tables behind the others, and its author is there. -/
structure Stored (s s' : Store) (caller : User) (p : Post) : Prop where
  posts : s'.posts = s.posts ++ [p]
  author : p.userId = caller.id ∧ ∃ u ∈ s'.users, u.id = caller.id

theorem stored_of_createPost (h : createPost caller draft x = (.ok p, y)) :
    Stored x.world.store y.world.store caller p ∧ p.tags = Tag.clean draft.tags := by
  unfold createPost at h
  obtain ⟨_, _, hr, _⟩ | ⟨_, _, h⟩ := Agora.Action.ofExcept_bind_eq h
  · cases hr
  obtain ⟨_, _, hr, _⟩ | ⟨_, _, h⟩ := Agora.Action.ofExcept_bind_eq h
  · cases hr
  obtain ⟨store, hrow, hworld⟩ := writeStore_ok h
  obtain ⟨hcaller, _, huser, hstore⟩ := Store.createPost_ok hrow
  have htags : p.tags = Tag.clean draft.tags := by
    rw [(Prod.mk.inj (Store.createPost_row hrow)).1]
  rw [hworld, hstore]
  exact ⟨⟨rfl, huser, Store.exists_of_user?_isSome hcaller⟩, htags⟩

/-- A draft with a fit title and a fit content makes a post if its author is there, the clock can be
read and nothing goes wrong. -/
theorem createPost_of_fit (hfaults : x.faults = []) (hfree : x.world.poisoned = false)
    (hclock : 0 ≤ x.world.now.second) (hcaller : (x.world.store.user? caller.id).isSome)
    (htitle : ∀ e, ¬Unfit "title" draft.title 100 e)
    (hcontent : ∀ e, ¬Unfit "content" draft.content 1000 e) :
    ∃ p y, createPost caller draft x = (.ok p, y) := by
  have hauthor : ¬(x.world.store.user? caller.id).isNone := by
    rw [Option.isNone_iff_eq_none]
    exact Option.isSome_iff_ne_none.mp hcaller
  let change := fun (w : World) (s : Store) => s.createPost w.now (PostDraft.row caller draft)
  have hrow : change x.world x.world.store =
      .ok (x.world.store.addPost (PostDraft.row caller draft) x.world.now) :=
    (if_neg hauthor).trans (if_neg (Int.not_lt.mpr hclock))
  unfold createPost
  rw [show checkTitle draft.title = .ok () from checkText_eq_ok.mpr htitle,
    show checkContent draft.content = .ok () from checkText_eq_ok.mpr hcontent]
  have hwrite := write_run (c := Call.createPost (PostDraft.row caller draft))
    (f := ServiceError.ofFailure) change hfaults
  rw [World.onStore_of_free hfree, hrow] at hwrite
  exact ⟨_, _, hwrite⟩

/-! ## Tags -/

/-- The tags that have no comma in them. -/
def commaFree (tags : List String) : List String := tags.filter fun tag => ',' ∉ tag.toList

theorem readTags_commaFree {tags : List String} (hnodup : tags.Nodup)
    (hproper : ∀ tag ∈ tags, tag ≠ "" ∧ Text.trimmed tag = tag) :
    Params.readTags (some (",".intercalate (commaFree tags))) = commaFree tags := by
  refine Params.readTags_join (hnodup.filter _) ?_ ?_
  · intro tag htag
    exact hproper tag (List.mem_of_mem_filter htag)
  · intro tag htag
    exact of_decide_eq_true (List.mem_filter.mp htag).2

/-- What comes of the texts that a draft has for its tags. -/
structure TagsKept (texts : List String) : Prop where
  /-- A fit draft makes a post ... -/
  made : ∀ (caller : User) (draft : PostDraft) (x : Exchange World Call), draft.tags = texts →
    (∀ e, ¬Unfit "title" draft.title 100 e) → (∀ e, ¬Unfit "content" draft.content 1000 e) →
      (x.world.store.user? caller.id).isSome → x.faults = [] → x.world.poisoned = false →
        0 ≤ x.world.now.second → ∃ p y, createPost caller draft x = (.ok p, y)
  /-- ... and every post that is made has the tags that the texts name. -/
  stored : ∀ (caller : User) (draft : PostDraft) (x y : Exchange World Call) (p : Post),
    draft.tags = texts → createPost caller draft x = (.ok p, y) →
      Stored x.world.store y.world.store caller p ∧ p.tags = Tag.clean texts
  named : Tag.Named texts (Tag.clean texts)
  once : (Tag.clean texts).Nodup
  proper : ∀ tag ∈ Tag.clean texts, tag ≠ "" ∧ Text.trimmed tag = tag
  /-- Joined by commas they are read as the same tags, unless one has a comma. -/
  readBack : ∀ (params : Params) (q : Feed.Query), params.query = .ok q →
    (({ params with tags := some (",".intercalate (Tag.clean texts)) } : Params).query =
        .ok { q with tags := Tag.clean texts } ↔
      ∀ tag ∈ Tag.clean texts, ',' ∉ tag.toList)
  /-- By those without one its author finds a post that has them, on some page. -/
  found : ∀ (s : Store) (p : Post), p ∈ s.posts → p.tags = Tag.clean texts →
    ∀ (params : Params) (q : Feed.Query), params.query = .ok q →
      params.tags = some (",".intercalate (commaFree p.tags)) → q.search = none →
        q.earliest = none → q.latest = none →
          p ∈ s.selected p.userId q ∧ ((∃ u ∈ s.users, u.id = p.userId) →
            ∃ k : Nat, ∃ i ∈ s.feed p.userId { q with offset := k }, s.Shows p i)

theorem tags_kept (texts : List String) : TagsKept texts := by
  have hnamed := Tag.named_clean texts
  have hproper : ∀ tag ∈ Tag.clean texts, tag ≠ "" ∧ Text.trimmed tag = tag :=
    fun tag => hnamed.proper
  refine ⟨?made, ?stored, hnamed, hnamed.nodup, hproper, ?readBack, ?found⟩
  case made =>
    intro caller draft x _ htitle hcontent hcaller hfaults hfree hclock
    exact createPost_of_fit hfaults hfree hclock hcaller htitle hcontent
  case stored =>
    intro caller draft x y p hdraft h
    rw [← hdraft]
    exact stored_of_createPost h
  case readBack =>
    intro params q hquery
    rw [Params.query_tags hquery, Except.ok.injEq]
    constructor
    · intro h tag htag
      have hread : Params.readTags _ = Tag.clean texts := congrArg Feed.Query.tags h
      rw [← hread] at htag
      exact Params.comma_not_mem_of_mem_readTags htag
    · intro hcomma
      rw [Params.readTags_join hnamed.nodup hproper hcomma]
  case found =>
    intro s p hp htags params q hquery hparams hsearch hearliest hlatest
    have hasked : q.tags = commaFree p.tags := by
      rw [← Params.readTags_eq.mpr (Params.query_eq_ok.mp hquery).tags, hparams, htags]
      exact readTags_commaFree hnamed.nodup hproper
    have hhas : ∀ tag ∈ q.tags, tag ∈ p.tags := by
      intro tag htag
      rw [hasked] at htag
      exact List.mem_of_mem_filter htag
    have hwanted : s.Wanted p.userId q p := Store.wanted_own hhas hsearch hearliest hlatest
    have hselected : p ∈ s.selected p.userId q := Store.mem_selected.mpr ⟨hp, hwanted⟩
    exact ⟨hselected, Store.exists_page hselected (Params.one_le_limit hquery)⟩

end Agora.Social
