import Agora.Proofs.Feed.Query
import Agora.Proofs.Store.Feed
import Agora.Proofs.Text.Sigma

/-!
# Posts that a search misses

A search compares lower cases, and the lower case of a sigma depends on what stands around it. So a
post may have what is searched for, letter for letter, and not be found.

Main result: `search_literal`. A fragment finds all posts that have it exactly if the neighbours of
every sigma of it stand in the fragment itself (`Text.SigmasSettled`); without a capital sigma there
is nothing to settle. `odyssey_missed` is a title that is not found by its first letters.
-/

namespace Agora

/-- The post has the fragment in its title or its content, letter for letter. -/
def Post.Has (p : Post) (fragment : String) : Prop :=
  fragment.toList <:+: p.title.toList ∨ fragment.toList <:+: p.content.toList

instance (p : Post) (fragment : String) : Decidable (p.Has fragment) :=
  inferInstanceAs (Decidable (_ ∨ _))

namespace Store

variable {s : Store} {reader : Int} {q : Feed.Query} {p : Post} {fragment text : String}

theorem finds_iff :
    finds fragment text = true ↔ Text.lower fragment.toList <:+: Text.lower text.toList := by
  unfold finds
  exact Text.contains_iff

/-- A search leaves those posts in a feed that it finds. -/
theorem mem_selected_search :
    p ∈ s.selected reader { q with search := some fragment } ↔
      p ∈ s.selected reader { q with search := none } ∧
        (finds fragment p.title = true ∨ finds fragment p.content = true) := by
  rw [mem_selected, mem_selected]
  constructor
  · intro h
    obtain ⟨hp, hwanted⟩ := h
    refine ⟨⟨hp, hwanted.author, hwanted.tags, hwanted.earliest, hwanted.latest, ?_⟩,
      hwanted.found fragment rfl⟩
    intro _ hnone
    cases hnone
  · intro h
    obtain ⟨⟨hp, hwanted⟩, hfound⟩ := h
    refine ⟨hp, hwanted.author, hwanted.tags, hwanted.earliest, hwanted.latest, ?_⟩
    intro _ hsome
    cases hsome
    exact hfound

/-- A search for the fragment hides no post that has it. -/
def HidesNone (fragment : String) : Prop :=
  ∀ (s : Store) (reader : Int) (q : Feed.Query) (p : Post),
    p ∈ s.selected reader { q with search := none } → p.Has fragment →
      p ∈ s.selected reader { q with search := some fragment }

/-- A post is missed only where a sigma of the fragment has another lower case in the post. -/
theorem hidesNone_iff : HidesNone fragment ↔ Text.SigmasSettled fragment.toList := by
  rw [← Text.lower_infix_iff]
  constructor
  · intro hnone text htext
    -- a post that has the text and nothing else
    let p : Post := {
      id := 1, title := String.ofList text, content := String.ofList text, userId := 1, tags := []
      version := 0, createdAt := ⟨0, 0, by decide⟩, updatedAt := ⟨0, 0, by decide⟩ }
    have hp : p ∈ ({ roles := [], posts := [p] } : Store).selected 1 {} := by
      refine mem_selected.mpr ⟨List.mem_singleton_self p, Or.inl rfl, ?_, ?_, ?_, ?_⟩
      · intro tag htag
        cases htag
      all_goals
        intro _ hsome
        cases hsome
    have hhas : p.Has fragment := by
      left
      show fragment.toList <:+: (String.ofList text).toList
      rwa [String.toList_ofList]
    have hfound := (mem_selected_search.mp (hnone _ _ {} p hp hhas)).2
    have htitle : finds fragment (String.ofList text) = true := hfound.elim id id
    rwa [finds_iff, String.toList_ofList] at htitle
  · intro hlower s reader q p hp hhas
    refine mem_selected_search.mpr ⟨hp, ?_⟩
    rw [finds_iff, finds_iff]
    exact hhas.imp (hlower _) (hlower _)

/-- What is known of a search for a fragment. -/
structure LiteralSearch (fragment : String) : Prop where
  /-- A fragment of 1 to 100 characters can be added to whatever else is asked for. -/
  asked : 1 ≤ fragment.length → fragment.length ≤ 100 → ∀ (params : Feed.Params) (q : Feed.Query),
    params.query = .ok q → ({ params with search := some fragment } : Feed.Params).query =
      .ok { q with search := some fragment }
  /-- It finds a post by its lower case, in the title or in the content. -/
  narrowed : ∀ (s : Store) (reader : Int) (q : Feed.Query) (p : Post),
    p ∈ s.selected reader { q with search := some fragment } ↔
      p ∈ s.selected reader { q with search := none } ∧
        (finds fragment p.title = true ∨ finds fragment p.content = true)
  hidesNone : HidesNone fragment ↔ Text.SigmasSettled fragment.toList
  plain : 'Σ' ∉ fragment.toList → HidesNone fragment

theorem search_literal (fragment : String) : LiteralSearch fragment where
  asked := by
    intro hleast hmost params q hquery
    have hyields := Feed.Params.query_eq_ok.mp hquery
    have hne : fragment ≠ "" := by
      intro hempty
      rw [hempty] at hleast
      exact absurd hleast (by decide)
    have hsearch : Feed.Params.SearchStands (some fragment) (some fragment) :=
      Or.inr ⟨fragment, ⟨rfl, hne⟩, hmost, rfl⟩
    exact Feed.Params.query_eq_ok.mpr { hyields with search := hsearch }
  narrowed := fun s reader q p => mem_selected_search
  hidesNone := hidesNone_iff
  plain := fun h => hidesNone_iff.mpr (Text.sigmasSettled_of_not_mem h)

/-- A post in whose title the first sigma does not end the word. -/
def odyssey : Post where
  id := 102
  title := "ΟΔΥΣΣΕΙΑ"
  content := "Homer"
  userId := 101
  tags := []
  version := 0
  createdAt := ⟨1704096000, 0, by decide⟩
  updatedAt := ⟨1704096000, 0, by decide⟩

/-- The sigma at the end of what is searched for ends its word, the one in the title does not. -/
theorem odyssey_missed :
    ¬∀ fragment : String, 1 ≤ fragment.length → fragment.length ≤ 100 → HidesNone fragment := by
  intro hall
  have hp : odyssey ∈ ({ roles := seededRoles, posts := [odyssey] } : Store).selected 101 {} :=
    mem_selected.mpr ⟨List.mem_singleton_self _, wanted_iff.mp (by decide)⟩
  have hkept := hall "ΟΔΥΣ" (by decide) (by decide) _ _ {} odyssey hp (by decide)
  have hfound := (mem_selected_search.mp hkept).2
  revert hfound
  decide +kernel

end Store

end Agora
