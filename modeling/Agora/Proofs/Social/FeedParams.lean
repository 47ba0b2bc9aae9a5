import Agora.Proofs.Feed.Query
import Agora.Proofs.Social.Feed
import Agora.Proofs.Time.Spelling

/-!
# What parameters do to a feed

Two results. `params_read`: parameters are accepted exactly if limit, offset, order and search stand
for something, the query is what they stand for, and a refusal names the first that does not, before
anything was asked of the tables. `bounds_spelled`: a bound is the instant that its text spells, at
whatever offset and in whatever form, so the feed depends on the instant only, and one instant as
both bounds leaves the posts that were made at it.
-/

namespace Agora.Social

open Feed (Params)

/-! ## Accepted parameters -/

/-- What comes of the parameters of a feed. -/
structure ParamsRead (p : Params) : Prop where
  accepted : (∃ q, p.query = .ok q) ↔ p.Acceptable
  read : ∀ q, p.query = .ok q ↔ p.Yields q
  refused : ∀ e, p.query = .error e ↔ p.FirstOffender e
  /-- Tags and bounds are never the reason. -/
  free : ∀ tags earliest latest e,
    ({ p with tags, earliest, latest } : Params).query = .error e ↔ p.query = .error e
  /-- A refusal is the whole answer: no call is made. -/
  answered : ∀ e, p.query = .error e → ∀ (caller : User) (x : Exchange World Call),
    Social.feed caller p x = (.error (.refused (.validation e.message)), x)

theorem params_read (p : Params) : ParamsRead p where
  accepted := Params.exists_query
  read := fun q => Params.query_eq_ok
  refused := fun e => Params.query_eq_error
  free := by
    intro tags earliest latest e
    rw [Params.query_free]
    cases p.query with
    | ok q => simp [Except.map]
    | error e => simp [Except.map]
  answered := by
    intro e he caller x
    unfold Social.feed
    rw [he]
    rfl

/-! ## Bounds in time -/

open Time in
/-- What comes of an instant that is given as a bound. -/
structure BoundsSpelled (t : Instant) : Prop where
  /-- Wherever the local year has four digits, the instant is spelled with any separator, and with
  any text of its fraction and of the offset. -/
  spelled : ∀ (minutes : Int) (date : Date), IsDay ((t.second + minutes * 60) / 86400) date →
    0 ≤ date.year → date.year ≤ 9999 →
      ∀ separator, separator = 'T' ∨ separator = 't' ∨ separator = ' ' →
        ∀ fraction, Rfc3339.FractionText (t.nano % 1000000000) fraction →
          ∀ offset, Rfc3339.OffsetText (minutes * 60) offset →
            ∃ day time, t.Spells (day ++ separator :: (time ++ (fraction ++ offset)))
  /-- Every offset of whole minutes below a day has a text, and there is a date at it. -/
  offsets : ∀ minutes : Int, -1439 ≤ minutes → minutes ≤ 1439 →
    (∃ offset, Rfc3339.OffsetText (minutes * 60) offset) ∧
      ∃ date, IsDay ((t.second + minutes * 60) / 86400) date
  /-- The fraction can have any number of zeros at its end. -/
  zeros : ∀ k, ∃ ds, ds.length = 9 + k ∧
    Rfc3339.FractionText (t.nano % 1000000000) ('.' :: ds)
  earliest : ∀ (text : String) (p : Params) (q : Feed.Query), t.Spells text.toList →
    p.query = .ok q →
      ({ p with earliest := some text } : Params).query = .ok { q with earliest := some t }
  latest : ∀ (text : String) (p : Params) (q : Feed.Query), t.Spells text.toList →
    p.query = .ok q →
      ({ p with latest := some text } : Params).query = .ok { q with latest := some t }
  /-- Two texts of the instant give the same feed, or the same refusal. -/
  same : ∀ (text text' : String) (caller : User) (p : Params), t.Spells text.toList →
    t.Spells text'.toList →
      Social.feed caller { p with earliest := some text } =
          Social.feed caller { p with earliest := some text' } ∧
        Social.feed caller { p with latest := some text } =
          Social.feed caller { p with latest := some text' }
  /-- As both bounds they leave what was made at the instant, of all that is asked for else. -/
  exactly : ∀ (text text' : String) (p : Params) (q : Feed.Query), t.Spells text.toList →
    t.Spells text'.toList → p.query = .ok q →
      ∃ q', ({ p with earliest := some text, latest := some text' } : Params).query = .ok q' ∧
        ∀ (s : Store) (reader : Int) (post : Post), post ∈ s.selected reader q' ↔
          post ∈ s.selected reader { q with earliest := none, latest := none } ∧
            post.createdAt = t

/-- A bound is read as the instant that it spells. -/
theorem readBound_of_spells {t : Time.Instant} {text : String} (h : t.Spells text.toList) :
    Params.readBound (some text) = some t := by
  have hread := Time.Instant.read?_of_spells h
  have hne : text ≠ "" := by
    intro hempty
    rw [hempty] at hread
    cases hread
  unfold Params.readBound
  rw [Params.present_eq_some.mpr ⟨rfl, hne⟩]
  exact hread

/-- Parameters matter by their query only. -/
theorem feed_congr {p p' : Params} (h : p.query = p'.query) (caller : User) :
    Social.feed caller p = Social.feed caller p' := by
  unfold Social.feed
  rw [h]

theorem bounds_spelled (t : Time.Instant) : BoundsSpelled t where
  spelled := by
    intro minutes date hdate hyear hfour separator hseparator fraction hfraction offset hoffset
    exact Time.Instant.exists_spells hdate ⟨hyear, hfour⟩ hseparator hfraction hoffset
  offsets := fun _ hfirst hlast =>
    ⟨Time.Rfc3339.exists_offsetText hfirst hlast, Time.exists_isDay _⟩
  zeros := by
    intro k
    have hnano : t.nano % 1000000000 < 1000000000 := Nat.mod_lt _ (by decide)
    refine ⟨_, ?_, Time.Rfc3339.fractionText_zeros hnano k⟩
    rw [List.length_append, Decimal.length_padded, List.length_replicate]
  earliest := by
    intro text p q htext hquery
    have hbounds := Params.query_bounds hquery (some text) p.latest
    rwa [readBound_of_spells htext,
      Params.readBound_eq.mpr (Params.query_eq_ok.mp hquery).latest] at hbounds
  latest := by
    intro text p q htext hquery
    have hbounds := Params.query_bounds hquery p.earliest (some text)
    rwa [readBound_of_spells htext,
      Params.readBound_eq.mpr (Params.query_eq_ok.mp hquery).earliest] at hbounds
  same := by
    intro text text' caller p htext htext'
    have hbound : Params.readBound (some text) = Params.readBound (some text') := by
      rw [readBound_of_spells htext, readBound_of_spells htext']
    have hearliest := Params.query_free p p.tags (some text) p.latest
    have hlatest := Params.query_free p p.tags p.earliest (some text)
    rw [hbound, ← Params.query_free] at hearliest hlatest
    exact ⟨feed_congr hearliest caller, feed_congr hlatest caller⟩
  exactly := by
    intro text text' p q htext htext' hquery
    refine ⟨_, Params.query_bounds hquery (some text) (some text'), ?_⟩
    intro s reader post
    rw [readBound_of_spells htext, readBound_of_spells htext']
    exact Store.mem_selected_at

end Agora.Social
