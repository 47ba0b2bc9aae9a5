import Agora.Proofs.Social.Integrity
import Agora.Proofs.Social.Overlap

/-!
# One update for each version

Main results: `Hub.run_versioned`, on what versions guarantee however operations overlap, and
`Hub.run_omissions`, on what they do not.

A commit is taken if it names the version that is stored, and that counts up. So the versions that
the successful updates of a post were made for are 0, 1, 2 and so on, each of them once, and the one
that is stored is their number. `Tallied` is the invariant that says so; one event keeps it
(`Tallied.moves`), and so does any number of them (`Hub.run_tallied`).

An update may also be given up: by a clock that cannot be read, or since there is no version after
the one that it names. It may have raised the version by then; but it leaves the tables locked, so
that nothing is added to the tally any more. Otherwise nothing is ever given up (`Hub.run_free`).

The version that an update names is not compared with the one that it loaded, and what it does not
mention it writes back as it was loaded. If it names a version that is yet to come, a change that
was made in between is lost (`omitted_field_overwritten`). If it names one that had been reached,
there was none.
-/

namespace Agora.Social

variable {h h' : Hub} {c : Closing} {job : Job} {id : Int} {edit : PostEdit}

/-! ## Updates that are finished -/

/-- The update went through: the version it names was stored under its id, and the next one is now,
with what it does not mention as it was loaded. -/
structure Closing.Won (c : Closing) (id : Int) (edit : PostEdit) (l p q : Post) : Prop where
  loaded : c.job.loaded.post? id = some l
  before : c.before.post? id = some p
  became : l.Becomes p
  current : p.version = edit.version
  /-- There is a next version. -/
  next : p.version ≠ Int32.maxValue
  written : ∃ now,
    q = Store.revised now (edit.title.getD l.title) (edit.content.getD l.content) p
  after : c.after.post? id = some q
  others : ∀ i, i ≠ id → c.after.post? i = c.before.post? i
  answered : c.result = .ok (.post q)

theorem Closing.Won.raised {l p q : Post} (hwon : c.Won id edit l p q) :
    q.version.toInt = p.version.toInt + 1 := by
  obtain ⟨now, hwritten⟩ := hwon.written
  rw [hwritten]
  exact Store.toInt_succ hwon.next

/-- The update was refused: the version it names was not stored under its id, and nothing is
changed. -/
structure Closing.Lost (c : Closing) (id : Int) (edit : PostEdit) : Prop where
  stale : ∀ p, c.before.post? id = some p → p.version ≠ edit.version
  left : c.after = c.before
  answered :
    c.result =
      .error (.refused (.conflict ("post " ++ Decimal.text id ++ " was modified concurrently")))

/-- The update broke down in its change: the version it names was stored under its id, and there its
title and its content are now, with the next version if there is one. -/
structure Closing.Broke (c : Closing) (id : Int) (edit : PostEdit) (l p q : Post) : Prop where
  loaded : c.job.loaded.post? id = some l
  before : c.before.post? id = some p
  current : p.version = edit.version
  written : q = Store.rewritten (edit.title.getD l.title) (edit.content.getD l.content) p ∨
    q = Store.raised (edit.title.getD l.title) (edit.content.getD l.content) p
  /-- There was no next version, or none was written. -/
  raised : q.version = p.version ∧ p.version = Int32.maxValue ∨
    q.version.toInt = p.version.toInt + 1
  after : c.after.post? id = some q
  others : ∀ i, i ≠ id → c.after.post? i = c.before.post? i

/-- The update was given up: it broke down, or the tables were locked already. -/
structure Closing.GivenUp (c : Closing) (id : Int) (edit : PostEdit) : Prop where
  answered : c.result = .error .abandoned
  left : c.after = c.before ∨ ∃ l p q, c.Broke id edit l p q

/-- There are no other ways in which an update is finished. -/
def Closing.Decided (c : Closing) : Prop :=
  ∀ id edit, c.job.op = .update id edit →
    (∃ l p q, c.Won id edit l p q) ∨ c.Lost id edit ∨ c.GivenUp id edit

/-- A job that can be finished on the tables as they are now. -/
structure Job.Ready (job : Job) (now : Store) : Prop where
  numbered : job.loaded.Numbered
  later : Store.Later job.loaded now
  prepared : Prepared job.loaded job.op job.plan

theorem Job.Ready.trans {s s' : Store} (hready : job.Ready s) (hlater : Store.Later s s') :
    job.Ready s' :=
  { hready with later := hready.later.trans hlater }

/-- All that can become of an update on the tables of a world. -/
inductive Finished (c : Closing) (id : Int) (edit : PostEdit) (w after : World) : Prop
  | won {l p q : Post} (hfree : w.poisoned = false) (h : c.Won id edit l p q)
  | lost (h : c.Lost id edit)
  | locked (hlocked : w.poisoned = true) (hanswer : c.result = .error .abandoned)
      (hleft : c.after = c.before)
  | broke {l p q : Post} (hfree : w.poisoned = false) (hlocks : after.poisoned = true)
      (hanswer : c.result = .error .abandoned) (h : c.Broke id edit l p q)

theorem Finished.decided {w after : World} (h : Finished c id edit w after) :
    (∃ l p q, c.Won id edit l p q) ∨ c.Lost id edit ∨ c.GivenUp id edit := by
  cases h with
  | won _ h => exact Or.inl ⟨_, _, _, h⟩
  | lost h => exact Or.inr (Or.inl h)
  | locked _ hanswer hleft => exact Or.inr (Or.inr ⟨hanswer, Or.inl hleft⟩)
  | broke _ _ hanswer h => exact Or.inr (Or.inr ⟨hanswer, Or.inr ⟨_, _, _, h⟩⟩)

/-- An update is finished in one of these ways. -/
theorem finished_of_update {w : World} {result : Except (Stop ServiceError) Answer}
    {x : Exchange World Call} (hs : w.store.Numbered) (hready : job.Ready w.store)
    (hop : job.op = .update id edit) (hfinish : job.plan.finish (Hub.calm w) = (result, x)) :
    Finished ⟨job, w.store, result, x.world.store⟩ id edit w x.world := by
  have hprepared := hready.prepared
  rw [hop] at hprepared
  obtain ⟨l, commit, hplan, hloaded, hedit⟩ := hprepared
  have hl : l.id = id := Store.id_of_post? hloaded
  rw [hplan, finish_commit, Commit.eq_of_ofEdit hedit, hl] at hfinish
  simp only at hfinish
  split at hfinish
  next q world hended =>
    obtain ⟨rfl, rfl⟩ := Prod.mk.inj hfinish
    obtain ⟨hfree, store, hrow, rfl⟩ := World.onStore_eq_ok hended
    obtain ⟨p, hfound, hversion, hnext, hwritten, hleft⟩ := Store.updatePost_current hs hrow
    -- the post that was loaded is the one that was found, at an earlier time
    obtain ⟨l', hloaded', hbecame⟩ := hready.later.post id p
      (hl ▸ hready.numbered.post_le (List.mem_of_find?_eq_some hloaded)) hfound
    rw [hloaded] at hloaded'
    cases hloaded'
    obtain ⟨_, hf, rfl⟩ := Store.updatePost_ok hrow
    refine .won hfree ⟨hloaded, hfound, hbecame, hversion, hnext, ⟨w.now, hwritten⟩, hleft, ?_, rfl⟩
    intro i hi
    exact (Store.post?_editPost hf i).resolve_right fun ⟨_, _, hid, _⟩ => hi hid
  next e hended =>
    obtain ⟨rfl, rfl⟩ := Prod.mk.inj hfinish
    obtain ⟨rfl, hstale⟩ := Store.updatePost_stale (World.onStore_eq_error hended).2
    exact .lost ⟨hstale, rfl, rfl⟩
  next world hended =>
    obtain ⟨rfl, rfl⟩ := Prod.mk.inj hfinish
    obtain ⟨hlocked, rfl⟩ | ⟨hfree, store, hrow, rfl⟩ := World.onStore_eq_broken hended
    · exact .locked hlocked rfl rfl
    obtain ⟨p, q, hfound, hversion, hleft, hcause⟩ := Store.updatePost_breaks hs hrow
    obtain ⟨_, hf, rfl, _⟩ := Store.updatePost_broken hrow
    refine .broke hfree rfl rfl ⟨hloaded, hfound, hversion, ?written, ?raised, hleft, ?others⟩
    case written => exact hcause.imp And.right fun h => h.2.2
    case raised =>
      obtain ⟨hlast, rfl⟩ | ⟨_, hnext, rfl⟩ := hcause
      · exact Or.inl ⟨rfl, hversion.trans hlast⟩
      · exact Or.inr (Store.toInt_succ (hversion ▸ hnext))
    case others =>
      intro i hi
      exact (Store.post?_editPost hf i).resolve_right fun ⟨_, _, hid, _⟩ => hi hid

/-! ## The tally -/

/-- The version that an update of the post was made for, if it went through. -/
def Closing.won? (id : Int) (c : Closing) : Option Int :=
  match c.job.op, c.result with
  | .update i edit, .ok _ => if i = id then some edit.version.toInt else none
  | _, _ => none

/-- The versions that the successful updates of a post were made for, in the order in which they
went through. -/
def Hub.wins (h : Hub) (id : Int) : List Int := h.closings.filterMap (·.won? id)

/-- The version of a post is the number of its successful updates; only that it may be one higher in
locked tables. -/
def Hub.Counts (h : Hub) (id : Int) (p : Post) : Prop :=
  p.version.toInt = (h.wins id).length ∨
    h.world.poisoned = true ∧ p.version.toInt = (h.wins id).length + 1

theorem Hub.Counts.of_free {p : Post} (hcounts : h.Counts id p) (hfree : h.world.poisoned = false) :
    p.version.toInt = (h.wins id).length := by
  obtain hexact | ⟨hlocked, _⟩ := hcounts
  · exact hexact
  · rw [hfree] at hlocked
    cases hlocked

/-- The first versions, from 0 on. -/
def versionsBelow (n : Nat) : List Int := (List.range n).map Int.ofNat

/-- What holds of versions at any time. -/
structure Tallied (h : Hub) : Prop where
  numbered : h.world.store.Numbered
  /-- A post has the version that as many updates as were successful lead to, or the next one if an
  update was given up. -/
  counted : ∀ id p, h.world.store.post? id = some p → h.Counts id p
  /-- There were no successful updates of what is still to be made. -/
  unmade : ∀ id, h.world.store.lastId < id → h.wins id = []
  inOrder : ∀ id, h.wins id = versionsBelow (h.wins id).length
  ready : ∀ job ∈ h.jobs, job.Ready h.world.store
  decided : ∀ c ∈ h.closings, c.Decided

theorem versionsBelow_succ (n : Nat) : versionsBelow (n + 1) = versionsBelow n ++ [(n : Int)] := by
  unfold versionsBelow
  rw [List.range_succ, List.map_append, List.map_singleton]
  rfl

theorem versionsBelow_nodup (n : Nat) : (versionsBelow n).Nodup := by
  unfold versionsBelow
  exact List.nodup_range.map fun _ _ => Int.ofNat.inj

theorem tallied_start (cache : Option (List (Int × User))) (now : Time.Instant) :
    Tallied (Hub.start cache now) where
  numbered := Store.numbered_seeded
  counted := by
    intro id p hp
    cases hp
  unmade := fun _ _ => rfl
  inOrder := fun _ => rfl
  ready := by
    intro job hjob
    cases hjob
  decided := by
    intro c hc
    cases hc

/-! ### One event -/

theorem Hub.wins_snoc (hclosings : h'.closings = h.closings ++ [c]) (id : Int) :
    h'.wins id = h.wins id ++ (c.won? id).toList := by
  unfold Hub.wins
  rw [hclosings, List.filterMap_append, List.filterMap_cons, List.filterMap_nil]
  cases c.won? id <;> rfl

theorem won?_of_won {l p q : Post} (hop : c.job.op = .update id edit) (hwon : c.Won id edit l p q)
    (i : Int) : c.won? i = if id = i then some edit.version.toInt else none := by
  unfold Closing.won?
  rw [hop, hwon.answered]

theorem won?_of_error {e : Stop ServiceError} (hresult : c.result = .error e) (i : Int) :
    c.won? i = none := by
  unfold Closing.won?
  split
  next hok =>
    rw [hresult] at hok
    cases hok
  next => rfl

theorem won?_of_not_update (hop : ∀ id edit, c.job.op ≠ .update id edit) (i : Int) :
    c.won? i = none := by
  unfold Closing.won?
  split
  next hupdate _ => exact absurd hupdate (hop _ _)
  next => rfl

theorem not_commit_of_not_update {loaded : Store} {op : Operation} {plan : Plan}
    (hprepared : Prepared loaded op plan) (hop : ∀ id edit, op ≠ .update id edit) :
    ∀ commit, plan ≠ .commit commit := by
  cases op with
  | update id edit => exact absurd rfl (hop id edit)
  | _ => exact hprepared

/-- What finishes no update successfully keeps the tally, if the versions are counted afterwards. -/
theorem Tallied.keep (ht : Tallied h) (hmoves : h.Moves h') (hwins : ∀ id, h'.wins id = h.wins id)
    (hcounted : ∀ id p, h'.world.store.post? id = some p → h'.Counts id p)
    (hjobs : ∀ job ∈ h'.jobs, job ∈ h.jobs ∨
      (job.loaded = h.world.store ∧ Prepared job.loaded job.op job.plan))
    (hclosings : ∀ c ∈ h'.closings, c ∈ h.closings ∨ c.Decided) : Tallied h' := by
  refine ⟨ht.numbered.of_counts hmoves.counts, hcounted, ?unmade, ?inOrder, ?ready, ?decided⟩
  case unmade =>
    intro id hid
    rw [hwins id]
    exact ht.unmade id (Int.lt_of_le_of_lt hmoves.later.counter hid)
  case inOrder =>
    intro id
    rw [hwins id]
    exact ht.inOrder id
  case ready =>
    intro job hjob
    rcases hjobs job hjob with hold | ⟨hloaded, hprepared⟩
    · -- what was loaded earlier may be older now, but never by more than revisions
      exact (ht.ready job hold).trans hmoves.later
    · exact ⟨hloaded ▸ ht.numbered, hloaded ▸ hmoves.later, hprepared⟩
  case decided =>
    intro c hc
    rcases hclosings c hc with hold | hnew
    · exact ht.decided c hold
    · exact hnew

/-- Versions are still counted after a move that revises no post. -/
theorem Tallied.counts_of_unrevised (ht : Tallied h) (hmoves : h.Moves h')
    (hposts : Store.Unrevised h.world.store h'.world.store) (hwins : ∀ id, h'.wins id = h.wins id)
    {p : Post} (hp : h'.world.store.post? id = some p) : h'.Counts id p := by
  unfold Hub.Counts
  rw [hwins id]
  rcases hposts id p hp with hold | ⟨hid, hversion⟩
  · exact (ht.counted id p hold).imp_right fun h => ⟨(hmoves.locked h.1).1, h.2⟩
  · -- a new post has version 0, and nobody can have updated it yet
    have hnew : h.world.store.lastId < id := by
      unfold Store.nextId at hid
      omega
    rw [ht.unmade id hnew, hversion]
    exact Or.inl rfl

/-- They are if an update breaks down, since it leaves the tables locked. -/
theorem Tallied.counts_of_broke {l p q : Post} (ht : Tallied h) (hbroke : c.Broke id edit l p q)
    (hbefore : c.before = h.world.store) (hafter : c.after = h'.world.store)
    (hfree : h.world.poisoned = false) (hlocks : h'.world.poisoned = true)
    (hwins : ∀ id, h'.wins id = h.wins id) {i : Int} {r : Post}
    (hr : h'.world.store.post? i = some r) : h'.Counts i r := by
  rw [← hafter] at hr
  unfold Hub.Counts
  rw [hwins i]
  by_cases hi : i = id
  · subst hi
    obtain rfl := Option.some.inj (hr.symm.trans hbroke.after)
    have hexact := (ht.counted i p (hbefore ▸ hbroke.before)).of_free hfree
    obtain ⟨hsame, _⟩ | hnext := hbroke.raised
    · rw [hsame]
      exact Or.inl hexact
    · exact Or.inr ⟨hlocks, by rw [hnext, hexact]⟩
  · rw [hbroke.others i hi, hbefore] at hr
    exact Or.inl ((ht.counted i r hr).of_free hfree)

/-- A successful update adds its version to the tally of its post, and to no other. -/
theorem Tallied.win {l p q : Post} (ht : Tallied h) (hmoves : h.Moves h')
    (hfree : h.world.poisoned = false) (hop : c.job.op = .update id edit)
    (hwon : c.Won id edit l p q) (hbefore : c.before = h.world.store)
    (hafter : c.after = h'.world.store) (hjobs : ∀ job ∈ h'.jobs, job ∈ h.jobs)
    (hclosings : h'.closings = h.closings ++ [c]) : Tallied h' := by
  have hfound : h.world.store.post? id = some p := hbefore ▸ hwon.before
  -- the version that is added to the tally is the number of those that stand in it
  have hversion : edit.version.toInt = (h.wins id).length := by
    rw [← hwon.current]
    exact (ht.counted id p hfound).of_free hfree
  have hwins : h'.wins id = h.wins id ++ [edit.version.toInt] := by
    rw [Hub.wins_snoc hclosings, won?_of_won hop hwon, if_pos rfl]
    rfl
  have hothers : ∀ i, i ≠ id → h'.wins i = h.wins i := by
    intro i hi
    rw [Hub.wins_snoc hclosings, won?_of_won hop hwon, if_neg (Ne.symm hi)]
    exact List.append_nil _
  refine ⟨ht.numbered.of_counts hmoves.counts, ?counted, ?unmade, ?inOrder, ?ready, ?decided⟩
  case counted =>
    intro i r hr
    rw [← hafter] at hr
    refine Or.inl ?_
    by_cases hi : i = id
    · subst hi
      rw [hwon.after] at hr
      cases hr
      rw [hwins, List.length_append, List.length_singleton, hwon.raised, hwon.current, hversion]
      rfl
    · rw [hwon.others i hi, hbefore] at hr
      rw [hothers i hi]
      exact (ht.counted i r hr).of_free hfree
  case unmade =>
    intro i hi
    have hold : h.world.store.lastId < i := Int.lt_of_le_of_lt hmoves.later.counter hi
    -- the post that was updated had its id from the counter, so it is another one
    have hle := ht.numbered.post_le (List.mem_of_find?_eq_some hfound)
    rw [Store.id_of_post? hfound] at hle
    rw [hothers i (by omega)]
    exact ht.unmade i hold
  case inOrder =>
    intro i
    by_cases hi : i = id
    · rw [hi, hwins, List.length_append, List.length_singleton, versionsBelow_succ, ← hversion,
        ← ht.inOrder id]
    · rw [hothers i hi]
      exact ht.inOrder i
  case ready => exact fun job hjob => (ht.ready job (hjobs job hjob)).trans hmoves.later
  case decided =>
    intro d hd
    rw [hclosings] at hd
    rcases List.mem_append.mp hd with hold | hnew
    · exact ht.decided d hold
    · rw [List.mem_singleton.mp hnew]
      intro i e hie
      rw [hop] at hie
      cases hie
      exact Or.inl ⟨l, p, q, hwon⟩

/-- Any one event keeps the tally. -/
theorem Tallied.moves (ht : Tallied h) (hmoves : h.Moves h') : Tallied h' := by
  have hmoved := hmoves
  cases hmoves with
  | prepares hstore _ hjobs =>
    have hposts : Store.Unrevised h.world.store _ := .of_posts (congrArg Store.posts hstore)
    exact ht.keep hmoved (fun _ => rfl)
      (fun _ _ => ht.counts_of_unrevised hmoved hposts fun _ => rfl) hjobs (fun _ => Or.inl)
  | plants _ _ _ hposts =>
    exact ht.keep hmoved (fun _ => rfl)
      (fun _ _ => ht.counts_of_unrevised hmoved hposts fun _ => rfl) (fun _ => Or.inl)
      (fun _ => Or.inl)
  | @finishes job result x jobs hjob hfinish hjobs =>
    have hready := ht.ready job hjob
    let c : Closing := { job, before := h.world.store, result, after := x.world.store }
    -- whatever is closed without success in an update is only one more closing
    have hclosed (hnone : ∀ i, c.won? i = none) (hdecided : c.Decided)
        (hcounted : (∀ id, Hub.wins ⟨x.world, jobs, h.closings ++ [c]⟩ id = h.wins id) →
          ∀ id p, x.world.store.post? id = some p →
            Hub.Counts ⟨x.world, jobs, h.closings ++ [c]⟩ id p) :
        Tallied ⟨x.world, jobs, h.closings ++ [c]⟩ := by
      have hwins : ∀ id, Hub.wins ⟨x.world, jobs, h.closings ++ [c]⟩ id = h.wins id := by
        intro i
        rw [Hub.wins_snoc (h := h) rfl, hnone i]
        exact List.append_nil _
      refine ht.keep hmoved hwins (hcounted hwins) (fun j hj => Or.inl (hjobs j hj)) ?_
      intro d hd
      rcases List.mem_append.mp hd with hold | hnew
      · exact Or.inl hold
      · rw [List.mem_singleton.mp hnew]
        exact Or.inr hdecided
    -- as long as no post is revised, the versions are counted as before
    have hsame (hposts : Store.Unrevised h.world.store x.world.store)
        (hwins : ∀ id, Hub.wins ⟨x.world, jobs, h.closings ++ [c]⟩ id = h.wins id) :
        ∀ id p, x.world.store.post? id = some p →
          Hub.Counts ⟨x.world, jobs, h.closings ++ [c]⟩ id p :=
      fun _ _ => ht.counts_of_unrevised hmoved hposts hwins
    by_cases hop : ∃ id edit, job.op = .update id edit
    · obtain ⟨id, edit, hop⟩ := hop
      have hfinished : Finished c id edit h.world x.world :=
        finished_of_update ht.numbered hready hop hfinish
      have hdecided : c.Decided := by
        intro i e hie
        cases hop.symm.trans hie
        exact hfinished.decided
      cases hfinished with
      | won hfree hwon => exact ht.win hmoved hfree hop hwon rfl rfl hjobs rfl
      | lost hlost =>
        exact hclosed (won?_of_error hlost.answered) hdecided
          (hsame (.of_posts (congrArg Store.posts hlost.left)))
      | locked _ hanswer hleft =>
        exact hclosed (won?_of_error hanswer) hdecided
          (hsame (.of_posts (congrArg Store.posts hleft)))
      | broke hfree hlocks hanswer hbroke =>
        have hafter : c.after = (⟨x.world, jobs, h.closings ++ [c]⟩ : Hub).world.store := rfl
        exact hclosed (won?_of_error hanswer) hdecided fun hwins _ _ =>
          ht.counts_of_broke hbroke rfl hafter hfree hlocks hwins
    · have hother : ∀ id edit, job.op ≠ .update id edit := fun id edit hie => hop ⟨id, edit, hie⟩
      refine hclosed (won?_of_not_update hother) (fun id edit hie => absurd hie (hother id edit))
        (hsame ?_)
      rcases finish_cases hfinish (not_commit_of_not_update hready.prepared hother) with
        hsame | ⟨store, _, _, hposts, hworld⟩
      · exact .of_posts (congrArg (fun w : World => w.store.posts) hsame)
      · rw [hworld]
        exact hposts

/-- Versions tally after any events. -/
theorem Hub.run_tallied (ht : Tallied h) (events : List Event) : Tallied (h.run events) := by
  induction events generalizing h with
  | nil => exact ht
  | cons event rest ih => exact ih (ht.moves (h.moves event))

/-! ## When nothing is given up -/

/-- Nothing happens by which an operation could break down: the clock can be read at any time, users
are added with roles that there are, and no post reaches the last version. -/
structure Hub.Steady (h : Hub) (events : List Event) : Prop where
  now : 0 ≤ h.world.now.second
  clock : ∀ now, Event.setClock now ∈ events → 0 ≤ now.second
  roles : ∀ username roleName, Event.addUser username roleName ∈ events →
    h.world.store.role? roleName ≠ none
  room : ∀ id, ((h.run events).wins id).length < 2147483647

theorem Hub.wins_le_run (h : Hub) (events : List Event) (id : Int) :
    (h.wins id).length ≤ ((h.run events).wins id).length := by
  induction events generalizing h with
  | nil => exact Nat.le_refl _
  | cons event rest ih =>
    refine Nat.le_trans ?_ (ih (h.step event))
    obtain ⟨made, hclosings⟩ := (h.moves event).closings
    unfold Hub.wins
    rw [hclosings, List.filterMap_append, List.length_append]
    exact Nat.le_add_right _ _

/-- As long as it is counted to less than the last version, no post has it. -/
theorem Tallied.ne_last (ht : Tallied h) (hfree : h.world.poisoned = false)
    (hroom : ∀ id, (h.wins id).length < 2147483647) :
    ∀ p ∈ h.world.store.posts, p.version ≠ Int32.maxValue := by
  intro p hp hlast
  have hexact := (ht.counted p.id p (ht.numbered.post?_of_mem hp)).of_free hfree
  have hroom := hroom p.id
  rw [hlast, Int32.toInt_maxValue] at hexact
  omega

/-- Then nothing is ever given up, and the tables are never locked. -/
theorem Hub.run_free (ht : Tallied h) (hfree : h.world.poisoned = false) {events : List Event}
    (hsteady : h.Steady events) :
    (h.run events).world.poisoned = false ∧
      ∀ c ∈ (h.run events).closings, c ∈ h.closings ∨ c.result ≠ .error .abandoned := by
  induction events generalizing h with
  | nil => exact ⟨hfree, fun c hc => Or.inl hc⟩
  | cons event rest ih =>
    have hroom : ∀ id, (h.wins id).length < 2147483647 :=
      fun id => Nat.lt_of_le_of_lt (h.wins_le_run (event :: rest) id) (hsteady.room id)
    have hready : h.world.Ready := ⟨hsteady.now, ht.ne_last hfree hroom⟩
    obtain ⟨hafter, hanswered⟩ := h.step_free hfree hready
      fun username roleName hevent => hsteady.roles username roleName (hevent ▸ List.mem_cons_self)
    have hrest : (h.step event).Steady rest := by
      refine ⟨?now, ?clock, ?roles, hsteady.room⟩
      case now =>
        rw [(h.step_keeps event).1]
        split
        next now => exact hsteady.clock now List.mem_cons_self
        next => exact hsteady.now
      case clock => exact fun now hmem => hsteady.clock now (List.mem_cons_of_mem _ hmem)
      case roles =>
        intro username roleName hmem
        rw [Store.role?, (h.step_keeps event).2]
        exact hsteady.roles username roleName (List.mem_cons_of_mem _ hmem)
    -- what is closed later is answered as well, and nothing that was closed is taken back
    obtain ⟨hend, hclosings⟩ := ih (ht.moves (h.moves event)) hafter hrest
    refine ⟨hend, fun c hc => ?_⟩
    obtain hold | hnew := hclosings c hc
    · exact hanswered c hold
    · exact Or.inr hnew

/-! ## What versions guarantee -/

/-- What versions guarantee after events that happened one after the other, from a hub on. -/
structure Hub.Versioned (h : Hub) (events : List Event) : Prop where
  /-- An update goes through on the version that it names, which it raises by one, or it is answered
  with a conflict and changes nothing, or it is given up. -/
  decided : ∀ c ∈ (h.run events).closings, c.Decided
  /-- Of the updates that name one version of a post one goes through at most. -/
  single : ∀ id, ((h.run events).wins id).Nodup
  /-- The version of a post is the number of its successful updates, as long as none was given up.
  -/
  counted : ∀ p ∈ (h.run events).world.store.posts, (h.run events).Counts p.id p
  /-- Whatever a post is at one time, it keeps its author, its tags and its time of creation, and
  no other post ever has its id. -/
  lasting : ∀ earlier later, events = earlier ++ later →
    ∀ p ∈ (h.run earlier).world.store.posts, ∀ q ∈ (h.run events).world.store.posts,
      q.id = p.id → p.SameOrigin q
  /-- Without a reason nothing is given up, and the version is the number. -/
  free : h.Steady events →
    (h.run events).world.poisoned = false ∧
      (∀ c ∈ (h.run events).closings, c.result ≠ .error .abandoned) ∧
      ∀ p ∈ (h.run events).world.store.posts,
        p.version.toInt = ((h.run events).wins p.id).length

theorem Hub.sameOrigin_of_run (ht : Tallied h) (events : List Event) {p q : Post}
    (hp : p ∈ h.world.store.posts) (hq : q ∈ (h.run events).world.store.posts)
    (hid : q.id = p.id) : p.SameOrigin q := by
  have hfound := (Hub.run_tallied ht events).numbered.post?_of_mem hq
  obtain ⟨p', hp', hbecame⟩ := (h.run_later events).post q.id q
    (hid ▸ ht.numbered.post_le hp) hfound
  rw [hid, ht.numbered.post?_of_mem hp] at hp'
  cases hp'
  exact hbecame.origin

/-- However operations overlap, for each version of a post one update goes through at most, and the
version counts those that did. -/
theorem Hub.run_versioned (cache : Option (List (Int × User))) (now : Time.Instant)
    (events : List Event) : (Hub.start cache now).Versioned events where
  decided := (Hub.run_tallied (tallied_start cache now) events).decided
  single := by
    intro id
    rw [(Hub.run_tallied (tallied_start cache now) events).inOrder id]
    exact versionsBelow_nodup _
  counted := by
    intro p hp
    have ht := Hub.run_tallied (tallied_start cache now) events
    exact ht.counted p.id p (ht.numbered.post?_of_mem hp)
  lasting := by
    rintro earlier later rfl p hp q hq hid
    have ht := Hub.run_tallied (tallied_start cache now) earlier
    refine Hub.sameOrigin_of_run ht later hp ?_ hid
    unfold Hub.run at hq ⊢
    rwa [List.foldl_append] at hq
  free := by
    intro hsteady
    have ht := Hub.run_tallied (tallied_start cache now) events
    obtain ⟨hfree, hclosings⟩ := Hub.run_free (tallied_start cache now) rfl hsteady
    refine ⟨hfree, fun c hc => ?_, fun p hp => ?_⟩
    · exact (hclosings c hc).resolve_left (List.not_mem_nil)
    · exact (ht.counted p.id p (ht.numbered.post?_of_mem hp)).of_free hfree

/-- Two changes of one post, of which the second overtakes the first. -/
def overlappingEdits (first second : PostEdit) : List Event :=
  let ada := memberNamed 101 "ada"
  [.addUser "ada" "user",
    .addPost { userId := 101, title := "t", content := "old", tags := [] } noon,
    .prepare ada (.update 102 first),
    .prepare ada (.update 102 second),
    .finish 1,
    .finish 0]

/-- Of two changes that were made for the same version the first to be finished goes through. -/
example :
    let events := overlappingEdits { title := some "u", content := none, version := 0 }
      { title := none, content := some "new", version := 0 }
    let h := (Hub.start none noon).run events
    h.wins 102 = [0] ∧ h.closings.map (·.result.isOk) = [true, false] := by
  decide +kernel

/-! ## What versions do not guarantee -/

/-- An update that goes through leaves a field that it does not mention as it was right before. -/
def Closing.KeepsOmitted (c : Closing) : Prop :=
  ∀ id edit answer p q, c.job.op = .update id edit → c.result = .ok answer →
    c.before.post? id = some p → c.after.post? id = some q →
      (edit.title = none → q.title = p.title) ∧ (edit.content = none → q.content = p.content)

/-- An update that goes through writes a field that it does not mention as it was when the post was
loaded. -/
def Closing.WritesBack (c : Closing) : Prop :=
  ∀ id edit answer, c.job.op = .update id edit → c.result = .ok answer →
    ∃ l q, c.job.loaded.post? id = some l ∧ c.after.post? id = some q ∧
      (edit.title = none → q.title = l.title) ∧ (edit.content = none → q.content = l.content)

/-- The version that an update names had been reached when the post was loaded. -/
def Closing.Observed (c : Closing) : Prop :=
  ∀ id edit l, c.job.op = .update id edit → c.job.loaded.post? id = some l →
    edit.version.toInt ≤ l.version.toInt

/-- What becomes of the fields that updates do not mention. -/
structure Hub.Omissions (h : Hub) : Prop where
  writesBack : ∀ c ∈ h.closings, c.WritesBack
  /-- Who names a version that was observed overwrites nothing else. -/
  keeps : ∀ c ∈ h.closings, c.Observed → c.KeepsOmitted

theorem won_of_ok {answer : Answer} (hc : c.Decided) (hop : c.job.op = .update id edit)
    (hok : c.result = .ok answer) : ∃ l p q, c.Won id edit l p q := by
  obtain hwon | hlost | hgiven := hc id edit hop
  · exact hwon
  · cases hok.symm.trans hlost.answered
  · cases hok.symm.trans hgiven.answered

theorem Closing.Won.omitted {l p q : Post} (hwon : c.Won id edit l p q) :
    (edit.title = none → q.title = l.title) ∧ (edit.content = none → q.content = l.content) := by
  obtain ⟨now, hwritten⟩ := hwon.written
  rw [hwritten]
  constructor
  · intro hnone
    rw [hnone]
    rfl
  · intro hnone
    rw [hnone]
    rfl

/-- A post that was loaded at the version which is updated is the post that is updated. -/
theorem Closing.Won.unchanged {l p q : Post} (hwon : c.Won id edit l p q)
    (hversion : edit.version.toInt ≤ l.version.toInt) : p = l := by
  rcases hwon.became.version with hsame | hless | hlast
  · exact hsame
  · rw [hwon.current] at hless
    exact absurd hversion (Int.not_le.mpr hless)
  · exact absurd hlast hwon.next

/-- However operations overlap, what an update does not mention is written back as it was loaded,
which loses nothing if the version that it names had been reached by then. -/
theorem Hub.run_omissions (cache : Option (List (Int × User))) (now : Time.Instant)
    (events : List Event) : ((Hub.start cache now).run events).Omissions where
  writesBack := by
    intro c hc id edit answer hop hok
    have hdecided := (Hub.run_tallied (tallied_start cache now) events).decided c hc
    obtain ⟨l, p, q, hwon⟩ := won_of_ok hdecided hop hok
    exact ⟨l, q, hwon.loaded, hwon.after, hwon.omitted⟩
  keeps := by
    intro c hc hobserved id edit answer p q hop hok hp hq
    have hdecided := (Hub.run_tallied (tallied_start cache now) events).decided c hc
    obtain ⟨l, p', q', hwon⟩ := won_of_ok hdecided hop hok
    have hsame : p' = l := hwon.unchanged (hobserved id edit l hop hwon.loaded)
    cases hp.symm.trans hwon.before
    cases hq.symm.trans hwon.after
    rw [hsame]
    exact hwon.omitted

/-- Who names a version that was not observed may overwrite what it does not mention. Here the title
is changed at version 1, which the post does not have when it is loaded, but has when the change is
written, by a change of the content that is lost with it. -/
theorem omitted_field_overwritten :
    ¬∀ cache now events, ∀ c ∈ ((Hub.start cache now).run events).closings, c.KeepsOmitted := by
  intro hkeeps
  let events := overlappingEdits { title := some "u", content := none, version := 1 }
    { title := none, content := some "new", version := 0 }
  have hcount : 1 < ((Hub.start none noon).run events).closings.length := by decide +kernel
  have hkept := hkeeps none noon events _ (List.getElem_mem hcount) 102 _ _ _ _ rfl rfl rfl rfl
  -- what was loaded stands where the other change stood right before
  have hcontent : "old" = "new" := hkept.2 rfl
  exact absurd hcontent (by decide)

end Agora.Social
