import Agora.Proofs.Exchange.Time
import Agora.Proofs.Social.Integrity
import Agora.Proofs.Store.Feed

/-!
# Feeds and their pages

Main result: `feed_paged`. In tables whose ids are distinct and whose posts have their authors there
is one list behind the feeds of a reader with the same filters and order: every feed is a page of
it, and the pages of one size, one after the other, are the whole list.

`Store.Listing` says what that list is. Here its feeds are those that the service answers, and the
comments that an item counts are those that the service answers with the post.
-/

namespace Agora.Social

variable {x : Exchange World Call}

/-! ## Answers where nothing goes wrong -/

/-- A post is loaded if it is there. Nothing is loaded from tables that are locked. -/
theorem loadPost_of_spares {id : Int} (hpost : x.Spares (Call.postById id)) :
    loadPost id x = (match x.world.tables?.map (·.post? id) with
      | some (some p) => .ok p
      | some none => .error (.refused (postNotFound id))
      | none => .error .abandoned, x.log (Call.postById id)) := by
  unfold loadPost
  rw [Agora.Action.bind_run, Agora.Action.mapError_apply, Exchange.lookup_of_spares hpost]
  generalize x.world.tables?.map (·.post? id) = found
  match found with
  | some (some p) => rfl
  | some none => rfl
  | none => rfl

theorem loadPost_of_no_faults (hfaults : x.faults = []) {s : Store}
    (htables : x.world.tables? = some s) (id : Int) :
    loadPost id x = (match s.post? id with
      | some p => .ok p
      | none => .error (.refused (postNotFound id)), x.log (Call.postById id)) := by
  rw [loadPost_of_spares (Exchange.spares_of_no_faults hfaults), htables, Option.map_some]
  cases s.post? id <;> rfl

/-- A post that is there is answered with its comments. -/
theorem getPost_of_spares {p : Post} {id : Int} {s : Store} (hpost : x.Spares (Call.postById id))
    (hcomments : (x.log (Call.postById id)).Spares (Call.commentsByPost id))
    (htables : x.world.tables? = some s) (hfound : s.post? id = some p) :
    (getPost id x).1 = .ok ⟨p, s.commentsOf id⟩ := by
  have hlogged : (x.log (Call.postById id)).world.tables? = some s := htables
  unfold getPost
  rw [Agora.Action.bind_run, loadPost_of_spares hpost, htables, Option.map_some, hfound]
  simp only
  rw [Agora.Action.bind_run, Agora.Action.mapError_apply, Exchange.read_of_spares hcomments,
    hlogged]
  rfl

theorem getPost_of_no_faults (hfaults : x.faults = []) {p : Post} {id : Int} {s : Store}
    (htables : x.world.tables? = some s) (hfound : s.post? id = some p) :
    (getPost id x).1 = .ok ⟨p, s.commentsOf id⟩ :=
  getPost_of_spares (Exchange.spares_of_no_faults hfaults)
    (Exchange.spares_of_no_faults (Exchange.log_no_faults hfaults)) htables hfound

/-- A feed is answered as the tables have it. -/
theorem feed_of_no_faults (hfaults : x.faults = []) {caller : User} {params : Feed.Params}
    {q : Feed.Query} {s : Store} (htables : x.world.tables? = some s)
    (hquery : params.query = .ok q) :
    (Social.feed caller params x).1 = .ok (s.feed caller.id q) := by
  have hfeed : x.Spares (Call.feed caller.id) := Exchange.spares_of_no_faults hfaults
  unfold Social.feed
  rw [hquery]
  simp only
  rw [Agora.Action.mapError_apply, Exchange.read_of_spares hfeed, htables]
  rfl

/-! ## The list behind a feed -/

/-- A list of posts as the one that a reader's feeds are pages of. -/
structure Paged (s : Store) (reader : Int) (q : Feed.Query) (posts : List Post) : Prop where
  listing : s.Listing reader q posts
  /-- No other list has what the query asks for, in its order. -/
  unique : ∀ posts', s.Listing reader q posts' → posts' = posts
  /-- The feed shows the posts from the offset on, as many as the limit allows. -/
  page : 0 ≤ q.offset → 0 ≤ q.limit →
    List.Forall₂ s.Shows ((posts.drop q.offset.toNat).take q.limit.toNat) (s.feed reader q)
  /-- Numbers below zero, which no parameters stand for, are taken for ones beyond every list. -/
  beyond : (q.offset < 0 → s.feed reader q = []) ∧
    (0 ≤ q.offset → q.limit < 0 →
      List.Forall₂ s.Shows (posts.drop q.offset.toNat) (s.feed reader q))
  /-- This is the feed that the service answers ... -/
  answered : ∀ (caller : User) (params : Feed.Params) (x : Exchange World Call),
    caller.id = reader → params.query = .ok q → x.world.tables? = some s → x.faults = [] →
      (Social.feed caller params x).1 = .ok (s.feed reader q)
  /-- ... and the comments that it counts are those that come with a post. -/
  opened : ∀ p ∈ posts, ∀ x : Exchange World Call, x.world.tables? = some s → x.faults = [] →
    (getPost p.id x).1 = .ok ⟨p, s.commentsOf p.id⟩
  /-- Pages of one size, one after the other, show every post once. -/
  pages : ∀ limit n : Nat, 1 ≤ limit → posts.length ≤ n * limit →
    List.Forall₂ s.Shows posts
      ((List.range n).flatMap fun k =>
        s.feed reader { q with limit := limit, offset := ↑(k * limit) })
  /-- The other order has the same posts the other way round. -/
  reversed : ∀ order, order ≠ q.sort →
    s.Listing reader { q with sort := order } posts.reverse

theorem feed_paged {s : Store} (hunique : s.ids.Nodup)
    (hauthors : ∀ p ∈ s.posts, ∃ u ∈ s.users, u.id = p.userId) (reader : Int) (q : Feed.Query) :
    ∃ posts, Paged s reader q posts := by
  have hposts := Store.posts_nodup_of_ids hunique
  have hlisting := Store.listing_selected hposts reader q
  have hshows := Store.feed_shows hauthors hlisting
  refine ⟨s.selected reader q, hlisting, fun _ => hlisting.unique, ?page, ⟨?offset, ?limit⟩,
    ?answered, ?opened, ?pages, fun _ => hlisting.reverse⟩
  case page =>
    intro hoffset hlimit
    rwa [Store.cut_of_nonneg hoffset hlimit] at hshows
  case offset =>
    intro hoffset
    rw [Store.feed_eq, Store.cut_of_offset_neg hoffset]
    rfl
  case limit =>
    intro hoffset hlimit
    rwa [Store.cut_of_limit_neg hoffset hlimit] at hshows
  case answered =>
    rintro caller params x rfl hquery htables hfaults
    exact feed_of_no_faults hfaults htables hquery
  case opened =>
    intro p hp x htables hfaults
    have hfound := Store.post?_of_mem_of_nodup hposts ((hlisting.members p).mp hp).1
    exact getPost_of_no_faults hfaults htables hfound
  case pages =>
    intro limit n _ hlength
    have hpages := Store.pages_show hauthors hlisting limit n
    rwa [List.take_of_length_le hlength] at hpages

/-! ## One feed -/

/-- A user, and posts of one time by it and by another one, whom it follows. -/
def sampleTables : Store where
  roles := Store.seededRoles
  users := [memberNamed 101 "ada", memberNamed 102 "bob"]
  posts := [(103, 102), (104, 101), (105, 102)].map fun (id, userId) =>
    { id, title := "Hello", content := "First.", userId, tags := [], version := 0
      createdAt := noon, updatedAt := noon }
  comments := [⟨106, 104, 102, "bob", "Welcome.", noon⟩]
  follows := [⟨101, 102⟩]
  lastId := 106

/-- Of three posts of one time the second page of one post shows the middle one. -/
theorem feed_paged_sampleTables :
    sampleTables.ids.Nodup ∧
      (∀ p ∈ sampleTables.posts, ∃ u ∈ sampleTables.users, u.id = p.userId) ∧
      (∃ posts, Paged sampleTables 101 { limit := 1, offset := 1 } posts) ∧
      (sampleTables.feed 101 { limit := 1, offset := 1 }).map
        (fun i => (i.post.id, i.commentsCount)) = [(104, 1)] := by
  have hunique : sampleTables.ids.Nodup := by decide
  have hauthors : ∀ p ∈ sampleTables.posts, ∃ u ∈ sampleTables.users, u.id = p.userId := by decide
  refine ⟨hunique, hauthors, feed_paged hunique hauthors 101 { limit := 1, offset := 1 }, ?_⟩
  -- the posts stand in the order of the feed already
  unfold Store.feed
  rw [Store.selected_eq, List.mergeSort_of_pairwise (by decide)]
  decide

end Agora.Social
