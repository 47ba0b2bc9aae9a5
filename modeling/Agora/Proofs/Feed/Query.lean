import Agora.Feed.Query
import Agora.Proofs.Decimal.Numeral
import Agora.Proofs.Result
import Agora.Proofs.Tag
import Agora.Proofs.Text.Split

/-!
# Which parameters are accepted, and as what

For each parameter one relation says what it stands for, from the text as it came: `LimitStands`,
`OffsetStands`, `SortStands` and `SearchStands`, of which a text may stand for nothing, and
`TagsStand` and `BoundStands`, for which every text stands for something. Main results:
`query_eq_ok`, the query is what the parameters stand for, and `query_eq_error`, the first parameter
that stands for nothing is reported (`FirstOffender`). So there is a query exactly if the first four
stand for something (`exists_query`).
-/

namespace Agora.Feed

namespace Params

/-! ## What parameters stand for -/

/-- A parameter that is not there, or has an empty text. -/
def Absent (text : Option String) : Prop := text = none ∨ text = some ""

/-- A parameter that is there, with a text that is not empty. -/
def Given (text : Option String) (s : String) : Prop := text = some s ∧ s ≠ ""

/-- What holds of a parameter, if it is absent and if it is given. -/
def Stands (text : Option String) (absent : Prop) (given : String → Prop) : Prop :=
  Absent text ∧ absent ∨ ∃ s, Given text s ∧ given s

/-- A number of a range in decimal digits, blanks around it left out. -/
def NumberStands (absent least most : Int) (text : Option String) (n : Int) : Prop :=
  Stands text (n = absent) fun s =>
    Decimal.Numeral (Text.trim s.toList) n ∧ least ≤ n ∧ n ≤ most

/-- A number from 1 to 100, or 5. -/
def LimitStands : Option String → Int → Prop := NumberStands 5 1 100

/-- A number below 2^63, or zero. -/
def OffsetStands : Option String → Int → Prop := NumberStands 0 0 9223372036854775807

/-- One of two words, or the latest first. -/
def SortStands (text : Option String) (order : Order) : Prop :=
  Stands text (order = .descending) fun s =>
    s = "asc" ∧ order = .ascending ∨ s = "desc" ∧ order = .descending

/-- A text of at most 100 characters as it is, or none. -/
def SearchStands (text search : Option String) : Prop :=
  Stands text (search = none) fun s => s.length ≤ 100 ∧ search = some s

/-- The tags that are named between the commas. -/
def TagsStand (text : Option String) (tags : List String) : Prop :=
  Stands text (tags = []) fun s => Tag.Named ((s.toList.splitOn ',').map String.ofList) tags

/-- The instant that the text names, if it names one. -/
def BoundStands (text : Option String) (bound : Option Time.Instant) : Prop :=
  Stands text (bound = none) fun s => bound = Time.Instant.read? s.toList

/-- A query has what the parameters stand for. -/
structure Yields (p : Params) (q : Query) : Prop where
  limit : LimitStands p.limit q.limit
  offset : OffsetStands p.offset q.offset
  sort : SortStands p.sort q.sort
  search : SearchStands p.search q.search
  tags : TagsStand p.tags q.tags
  earliest : BoundStands p.earliest q.earliest
  latest : BoundStands p.latest q.latest

/-- Each of the four parameters that can be wrong stands for something. -/
structure Acceptable (p : Params) : Prop where
  limit : ∃ n, LimitStands p.limit n
  offset : ∃ n, OffsetStands p.offset n
  sort : ∃ order, SortStands p.sort order
  search : ∃ search, SearchStands p.search search

/-- What is wrong with the first parameter that stands for nothing; its text is kept as it came. -/
inductive FirstOffender (p : Params) : QueryError → Prop
  | limit {s : String} (hgiven : p.limit = some s) (h : ¬∃ n, LimitStands p.limit n) :
      FirstOffender p (.invalidLimit s)
  | offset {s : String} (hlimit : ∃ n, LimitStands p.limit n) (hgiven : p.offset = some s)
      (h : ¬∃ n, OffsetStands p.offset n) : FirstOffender p (.invalidOffset s)
  | sort {s : String} (hlimit : ∃ n, LimitStands p.limit n)
      (hoffset : ∃ n, OffsetStands p.offset n) (hgiven : p.sort = some s)
      (h : ¬∃ order, SortStands p.sort order) : FirstOffender p (.invalidSort s)
  | search (hlimit : ∃ n, LimitStands p.limit n) (hoffset : ∃ n, OffsetStands p.offset n)
      (hsort : ∃ order, SortStands p.sort order) (h : ¬∃ search, SearchStands p.search search) :
      FirstOffender p .searchTooLong

variable {text : Option String} {s : String} {p : Params}

/-! ## Absent or given -/

theorem present_eq_none : present text = none ↔ Absent text := by
  unfold present Absent
  rw [Option.filter_eq_none_iff]
  cases text with
  | none => simp
  | some s => simp

theorem present_eq_some : present text = some s ↔ Given text s := by
  unfold present Given
  rw [Option.filter_eq_some_iff, decide_eq_true_eq]

/-- Every parameter is absent or given. -/
theorem absent_or_given (text : Option String) : Absent text ∨ ∃ s, Given text s := by
  cases hpresent : present text with
  | none => exact Or.inl (present_eq_none.mp hpresent)
  | some s => exact Or.inr ⟨s, present_eq_some.mp hpresent⟩

theorem Given.not_absent (h : Given text s) : ¬Absent text := by
  intro habsent
  rw [← present_eq_none, present_eq_some.mpr h] at habsent
  cases habsent

section

variable {absent : Prop} {given : String → Prop}

theorem Absent.stands_iff (h : Absent text) : Stands text absent given ↔ absent := by
  constructor
  · intro hstands
    obtain ⟨_, habsent⟩ | ⟨s, hgiven, _⟩ := hstands
    · exact habsent
    · exact absurd h hgiven.not_absent
  · intro habsent
    exact Or.inl ⟨h, habsent⟩

theorem Given.stands_iff (h : Given text s) : Stands text absent given ↔ given s := by
  constructor
  · intro hstands
    obtain ⟨habsent, _⟩ | ⟨s', hgiven, hs'⟩ := hstands
    · exact absurd habsent h.not_absent
    · rwa [Option.some.inj (h.1.symm.trans hgiven.1)]
  · intro hs
    exact Or.inr ⟨s, h, hs⟩

end

/-! ## Reading one parameter -/

/-- How limit and offset are read. -/
def readNumber (absent least most : Int) (wrong : String → QueryError) (text : Option String) :
    Except QueryError Int :=
  match present text with
  | none => .ok absent
  | some s =>
    match Decimal.int64? (Text.trim s.toList) with
    | some n => if least ≤ n ∧ n ≤ most then .ok n else .error (wrong s)
    | none => .error (wrong s)

/-- No number beyond the range of offsets is ever read. -/
theorem readOffset_eq (text : Option String) :
    readOffset text = readNumber 0 0 9223372036854775807 .invalidOffset text := by
  unfold readOffset readNumber
  cases present text with
  | none => rfl
  | some s =>
    dsimp only
    cases hread : Decimal.int64? (Text.trim s.toList) with
    | none => rfl
    | some n =>
      have hfits := (Decimal.int64?_eq_some.mp hread).2.2
      dsimp only
      by_cases hn : 0 ≤ n
      · rw [if_pos hn, if_pos ⟨hn, hfits⟩]
      · rw [if_neg hn, if_neg fun h => hn h.1]

theorem readNumber_eq_ok {absent least most : Int} {wrong : String → QueryError}
    (hleast : 0 ≤ least) (hmost : most ≤ 9223372036854775807) {n : Int} :
    readNumber absent least most wrong text = .ok n ↔ NumberStands absent least most text n := by
  unfold readNumber NumberStands
  obtain habsent | ⟨s, hgiven⟩ := absent_or_given text
  · rw [habsent.stands_iff, present_eq_none.mpr habsent, Except.ok.injEq, eq_comm]
  · rw [hgiven.stands_iff, present_eq_some.mpr hgiven]
    dsimp only
    constructor
    · intro h
      split at h
      next k hread =>
        split at h
        next hrange =>
          rw [← Except.ok.inj h]
          exact ⟨(Decimal.int64?_eq_some.mp hread).1, hrange⟩
        next => cases h
      next => cases h
    · intro h
      obtain ⟨hnumeral, hrange⟩ := h
      have hfits : Decimal.FitsInt64 n := ⟨by omega, by omega⟩
      rw [Decimal.int64?_eq_some.mpr ⟨hnumeral, hfits⟩]
      dsimp only
      rw [if_pos hrange]

theorem readLimit_eq_ok {n : Int} : readLimit text = .ok n ↔ LimitStands text n :=
  readNumber_eq_ok (by decide) (by decide)

theorem readOffset_eq_ok {n : Int} : readOffset text = .ok n ↔ OffsetStands text n := by
  rw [readOffset_eq]
  exact readNumber_eq_ok (Int.le_refl _) (Int.le_refl _)

theorem readSort_eq_ok {order : Order} : readSort text = .ok order ↔ SortStands text order := by
  unfold readSort SortStands
  obtain habsent | ⟨s, hgiven⟩ := absent_or_given text
  · rw [habsent.stands_iff, present_eq_none.mpr habsent, Except.ok.injEq, eq_comm]
  · rw [hgiven.stands_iff, present_eq_some.mpr hgiven]
    dsimp only
    by_cases hasc : s = "asc"
    · simp [hasc, eq_comm]
    · by_cases hdesc : s = "desc"
      · simp [hdesc, eq_comm]
      · simp [hasc, hdesc]

theorem readSearch_eq_ok {search : Option String} :
    readSearch text = .ok search ↔ SearchStands text search := by
  unfold readSearch SearchStands longestSearch
  obtain habsent | ⟨s, hgiven⟩ := absent_or_given text
  · rw [habsent.stands_iff, present_eq_none.mpr habsent, Except.ok.injEq, eq_comm]
  · rw [hgiven.stands_iff, present_eq_some.mpr hgiven]
    dsimp only
    by_cases hlong : 100 < s.length
    · rw [if_pos hlong]
      constructor
      · intro h
        cases h
      · intro h
        exact absurd h.1 (Nat.not_le.mpr hlong)
    · rw [if_neg hlong, Except.ok.injEq, eq_comm]
      exact (and_iff_right (Nat.not_lt.mp hlong)).symm

theorem readTags_eq {tags : List String} : readTags text = tags ↔ TagsStand text tags := by
  unfold readTags TagsStand
  obtain habsent | ⟨s, hgiven⟩ := absent_or_given text
  · rw [habsent.stands_iff, present_eq_none.mpr habsent, eq_comm]
  · rw [hgiven.stands_iff, present_eq_some.mpr hgiven]
    dsimp only
    have hnamed := Tag.named_clean ((s.toList.splitOn ',').map String.ofList)
    rw [Text.splitOn_eq]
    constructor
    · intro h
      rwa [h] at hnamed
    · intro h
      exact h.unique hnamed

theorem readBound_eq {bound : Option Time.Instant} :
    readBound text = bound ↔ BoundStands text bound := by
  unfold readBound BoundStands
  obtain habsent | ⟨s, hgiven⟩ := absent_or_given text
  · rw [habsent.stands_iff, present_eq_none.mpr habsent, eq_comm]
    rfl
  · rw [hgiven.stands_iff, present_eq_some.mpr hgiven, eq_comm]
    rfl

/-! ## Errors -/

/-- An error comes with the text of its parameter, which stands for nothing. -/
theorem eq_error_iff {α : Type} {read : Except QueryError α} {stands : α → Prop}
    {wrong : String → QueryError} (hok : ∀ a, read = .ok a ↔ stands a)
    (herror : ∀ e, read = .error e → ∃ s, text = some s ∧ e = wrong s) {e : QueryError} :
    read = .error e ↔ ∃ s, text = some s ∧ (¬∃ a, stands a) ∧ e = wrong s := by
  constructor
  · intro h
    obtain ⟨s, htext, he⟩ := herror e h
    refine ⟨s, htext, ?_, he⟩
    intro hstands
    obtain ⟨a, ha⟩ := hstands
    rw [(hok a).mpr ha] at h
    cases h
  · intro h
    obtain ⟨s, htext, hnone, rfl⟩ := h
    cases hread : read with
    | ok a => exact absurd ⟨a, (hok a).mp hread⟩ hnone
    | error e =>
      obtain ⟨s', htext', rfl⟩ := herror e hread
      rw [Option.some.inj (htext.symm.trans htext')]

theorem readNumber_eq_error {absent least most : Int} {wrong : String → QueryError}
    (hleast : 0 ≤ least) (hmost : most ≤ 9223372036854775807) {e : QueryError} :
    readNumber absent least most wrong text = .error e ↔
      ∃ s, text = some s ∧ (¬∃ n, NumberStands absent least most text n) ∧ e = wrong s := by
  refine eq_error_iff (fun n => readNumber_eq_ok hleast hmost) ?_
  intro e h
  unfold readNumber at h
  split at h
  next => cases h
  next s hpresent =>
    refine ⟨s, (present_eq_some.mp hpresent).1, ?_⟩
    split at h
    next =>
      split at h
      next => cases h
      next => exact (Except.error.inj h).symm
    next => exact (Except.error.inj h).symm

theorem readLimit_eq_error {e : QueryError} :
    readLimit text = .error e ↔
      ∃ s, text = some s ∧ (¬∃ n, LimitStands text n) ∧ e = .invalidLimit s :=
  readNumber_eq_error (by decide) (by decide)

theorem readOffset_eq_error {e : QueryError} :
    readOffset text = .error e ↔
      ∃ s, text = some s ∧ (¬∃ n, OffsetStands text n) ∧ e = .invalidOffset s := by
  rw [readOffset_eq]
  exact readNumber_eq_error (Int.le_refl _) (Int.le_refl _)

theorem readSort_eq_error {e : QueryError} :
    readSort text = .error e ↔
      ∃ s, text = some s ∧ (¬∃ order, SortStands text order) ∧ e = .invalidSort s := by
  refine eq_error_iff (fun order => readSort_eq_ok) ?_
  intro e h
  unfold readSort at h
  split at h
  next => cases h
  next s hpresent =>
    refine ⟨s, (present_eq_some.mp hpresent).1, ?_⟩
    split at h
    next => cases h
    next =>
      split at h
      next => cases h
      next => exact (Except.error.inj h).symm

theorem readSearch_eq_error {e : QueryError} :
    readSearch text = .error e ↔ (¬∃ search, SearchStands text search) ∧ e = .searchTooLong := by
  have hread : readSearch text = .error e ↔
      ∃ s, text = some s ∧ (¬∃ search, SearchStands text search) ∧ e = .searchTooLong := by
    refine eq_error_iff (fun search => readSearch_eq_ok) ?_
    intro e h
    unfold readSearch at h
    split at h
    next => cases h
    next s hpresent =>
      refine ⟨s, (present_eq_some.mp hpresent).1, ?_⟩
      split at h
      next => exact (Except.error.inj h).symm
      next => cases h
  rw [hread]
  constructor
  · intro h
    obtain ⟨_, _, h⟩ := h
    exact h
  · intro h
    obtain habsent | ⟨s, hgiven⟩ := absent_or_given text
    · exact absurd ⟨none, habsent.stands_iff.mpr rfl⟩ h.1
    · exact ⟨s, hgiven.1, h⟩

/-! ## The query -/

theorem query_eq_ok {q : Query} : p.query = .ok q ↔ p.Yields q := by
  unfold query
  simp only [Result.bind_eq_ok, readLimit_eq_ok, readOffset_eq_ok, readSort_eq_ok,
    readSearch_eq_ok]
  constructor
  · intro h
    obtain ⟨limit, hlimit, offset, hoffset, sort, hsort, search, hsearch, hq⟩ := h
    cases hq
    exact ⟨hlimit, hoffset, hsort, hsearch, readTags_eq.mp rfl, readBound_eq.mp rfl,
      readBound_eq.mp rfl⟩
  · intro h
    refine ⟨_, h.limit, _, h.offset, _, h.sort, _, h.search, ?_⟩
    rw [readTags_eq.mpr h.tags, readBound_eq.mpr h.earliest, readBound_eq.mpr h.latest]
    rfl

/-- Neither tags nor bounds keep parameters from being accepted. -/
theorem exists_query : (∃ q, p.query = .ok q) ↔ p.Acceptable := by
  constructor
  · intro h
    obtain ⟨q, hq⟩ := h
    have hyields := query_eq_ok.mp hq
    exact ⟨⟨_, hyields.limit⟩, ⟨_, hyields.offset⟩, ⟨_, hyields.sort⟩, ⟨_, hyields.search⟩⟩
  · intro h
    obtain ⟨⟨limit, hlimit⟩, ⟨offset, hoffset⟩, ⟨sort, hsort⟩, ⟨search, hsearch⟩⟩ := h
    exact ⟨{ limit, offset, sort, search, tags := readTags p.tags, earliest := readBound p.earliest
             latest := readBound p.latest },
      query_eq_ok.mpr ⟨hlimit, hoffset, hsort, hsearch, readTags_eq.mp rfl, readBound_eq.mp rfl,
        readBound_eq.mp rfl⟩⟩

theorem query_eq_error {e : QueryError} : p.query = .error e ↔ p.FirstOffender e := by
  unfold query
  simp only [Result.bind_eq_error, readLimit_eq_ok, readOffset_eq_ok, readSort_eq_ok,
    readSearch_eq_ok, readLimit_eq_error, readOffset_eq_error, readSort_eq_error,
    readSearch_eq_error]
  constructor
  · intro h
    obtain ⟨s, hgiven, hnone, rfl⟩ | ⟨limit, hlimit, h⟩ := h
    · exact .limit hgiven hnone
    obtain ⟨s, hgiven, hnone, rfl⟩ | ⟨offset, hoffset, h⟩ := h
    · exact .offset ⟨limit, hlimit⟩ hgiven hnone
    obtain ⟨s, hgiven, hnone, rfl⟩ | ⟨sort, hsort, h⟩ := h
    · exact .sort ⟨limit, hlimit⟩ ⟨offset, hoffset⟩ hgiven hnone
    obtain ⟨hnone, rfl⟩ | ⟨search, hsearch, h⟩ := h
    · exact .search ⟨limit, hlimit⟩ ⟨offset, hoffset⟩ ⟨sort, hsort⟩ hnone
    · cases h
  · intro h
    cases h with
    | limit hgiven hnone => exact Or.inl ⟨_, hgiven, hnone, rfl⟩
    | offset hlimit hgiven hnone =>
      obtain ⟨limit, hlimit⟩ := hlimit
      exact Or.inr ⟨limit, hlimit, Or.inl ⟨_, hgiven, hnone, rfl⟩⟩
    | sort hlimit hoffset hgiven hnone =>
      obtain ⟨limit, hlimit⟩ := hlimit
      obtain ⟨offset, hoffset⟩ := hoffset
      exact Or.inr ⟨limit, hlimit, Or.inr ⟨offset, hoffset, Or.inl ⟨_, hgiven, hnone, rfl⟩⟩⟩
    | search hlimit hoffset hsort hnone =>
      obtain ⟨limit, hlimit⟩ := hlimit
      obtain ⟨offset, hoffset⟩ := hoffset
      obtain ⟨sort, hsort⟩ := hsort
      exact Or.inr ⟨limit, hlimit, Or.inr ⟨offset, hoffset, Or.inr ⟨sort, hsort,
        Or.inl ⟨hnone, rfl⟩⟩⟩⟩

/-- Tags and bounds are read each on its own, and none of them is ever wrong. -/
theorem query_free (p : Params) (tags earliest latest : Option String) :
    ({ p with tags, earliest, latest } : Params).query = p.query.map fun q =>
      { q with
        tags := readTags tags, earliest := readBound earliest, latest := readBound latest } := by
  unfold query
  cases readLimit p.limit with
  | error e => rfl
  | ok limit =>
    cases readOffset p.offset with
    | error e => rfl
    | ok offset =>
      cases readSort p.sort with
      | error e => rfl
      | ok sort =>
        cases readSearch p.search with
        | error e => rfl
        | ok search => rfl

/-- Other bounds make another query in its bounds only. -/
theorem query_bounds {q : Query} (hquery : p.query = .ok q) (earliest latest : Option String) :
    ({ p with earliest, latest } : Params).query =
      .ok { q with earliest := readBound earliest, latest := readBound latest } := by
  have hfree := query_free p p.tags earliest latest
  rw [hquery, readTags_eq.mpr (query_eq_ok.mp hquery).tags] at hfree
  exact hfree

theorem query_tags {q : Query} (hquery : p.query = .ok q) (tags : Option String) :
    ({ p with tags } : Params).query = .ok { q with tags := readTags tags } := by
  have hfree := query_free p tags p.earliest p.latest
  rw [hquery, readBound_eq.mpr (query_eq_ok.mp hquery).earliest,
    readBound_eq.mpr (query_eq_ok.mp hquery).latest] at hfree
  exact hfree

/-- A page has room for one item at least. -/
theorem one_le_limit {q : Query} (hquery : p.query = .ok q) : 1 ≤ q.limit := by
  obtain ⟨_, hfive⟩ | ⟨_, _, _, hleast, _⟩ := (query_eq_ok.mp hquery).limit
  · rw [hfive]
    decide
  · exact hleast

/-! ## Tags joined by commas -/

/-- Tags without commas come back from their join. -/
theorem readTags_join {tags : List String} (hnodup : tags.Nodup)
    (hproper : ∀ tag ∈ tags, tag ≠ "" ∧ Text.trimmed tag = tag)
    (hcomma : ∀ tag ∈ tags, ',' ∉ tag.toList) : readTags (some (",".intercalate tags)) = tags := by
  cases tags with
  | nil => rfl
  | cons first rest =>
    have hparts : Text.splitOn ',' (",".intercalate (first :: rest)) = first :: rest :=
      Text.splitOn_join rfl (List.cons_ne_nil first rest) hcomma
    have hne : ",".intercalate (first :: rest) ≠ "" := by
      intro hempty
      rw [hempty] at hparts
      have hfirst : "" = first := (List.cons.inj hparts).1
      exact (hproper first List.mem_cons_self).1 hfirst.symm
    unfold readTags
    rw [present_eq_some.mpr ⟨rfl, hne⟩]
    show Tag.clean (Text.splitOn ',' (",".intercalate (first :: rest))) = first :: rest
    rw [hparts, Tag.clean_of_proper hnodup hproper]

/-- No tag that is read has a comma in it. -/
theorem comma_not_mem_of_mem_readTags {tag : String} (htag : tag ∈ readTags text) :
    ',' ∉ tag.toList := by
  have hstand : TagsStand text (readTags text) := readTags_eq.mp rfl
  obtain ⟨_, hnone⟩ | ⟨s, _, hnamed⟩ := hstand
  · rw [hnone] at htag
    cases htag
  · obtain ⟨_, hmem⟩ := (hnamed.members tag).mp htag
    obtain ⟨part, hpart, rfl⟩ := List.mem_map.mp hmem
    obtain ⟨cs, hcs, rfl⟩ := List.mem_map.mp hpart
    rw [← Text.splitAt_eq_splitOn] at hcs
    intro hcomma
    rw [Text.toList_trimmed, String.toList_ofList] at hcomma
    exact Text.separator_not_mem hcs (Text.mem_of_mem_trim hcomma)

end Params

end Agora.Feed
