import Agora.Proofs.Sql.Session

/-!
# Transactions that commit only what is complete

A `Plan` is a transaction of a common kind: its first statement has to give a row, something is read
from that row, and the statements that follow are about what was read. Main result: `Plan.whole`.
Against every script of replies a plan commits only after all its statements were served, sends
nothing of its own after the first one that was not, and answers well exactly if it was committed.

`Course` lists the ways in which such a transaction can go, one constructor for each place where it
can end. `Plan.course` shows that there are no others; what is promised is then read off the list.
-/

namespace Agora.Sql

open Session Dialogue

variable {α β : Type}

/-- Runs statements one after the other. -/
def Dialogue.changedAll : List Statement → Dialogue Unit
  | [] => return ()
  | statement :: rest => do
    let _ ← changed statement
    changedAll rest

/-- A transaction that needs a row first, and then changes what belongs to it. -/
structure Plan (α β : Type) where
  first : Statement
  /-- How it ends if there is no row. -/
  missing : Stop
  read : Row → Dialogue α
  rest : α → List Statement
  result : α → β
  silent : ∀ row, Silent (read row)
  missing_error : missing.error? = some .notFound

namespace Plan

/-- What is done between the start and the end of the transaction. -/
def body (p : Plan α β) : Dialogue β := do
  let row ← demand p.first p.missing
  let a ← p.read row
  changedAll (p.rest a)
  return p.result a

def dialogue (p : Plan α β) : Dialogue β := transaction p.body

end Plan

/-- The statements were sent one after the other, and none of them was refused. -/
structure Served (statements : List Statement) (turns : List Turn) : Prop where
  commands : turns.map (·.command) = statements.map .run
  replies : ∀ t ∈ turns, ∃ answer, t.reply = .ok answer

theorem served_nil : Served [] [] := ⟨rfl, fun _ h => by cases h⟩

theorem Served.cons {statements : List Statement} {turns : List Turn}
    (h : Served statements turns) (statement : Statement) (answer : Answer) :
    Served (statement :: statements) (⟨.run statement, .ok answer⟩ :: turns) where
  commands := by
    rw [List.map_cons, List.map_cons, h.commands]
  replies := List.forall_mem_cons.mpr ⟨⟨answer, rfl⟩, h.replies⟩

/-- The ways in which a plan can go: what is said and heard, what is said at the end without being
answered, and the result. -/
inductive Course (p : Plan α β) : List Turn → List Command → Except Stop β → Prop
  | unbegun {cause : DriverError} :
      Course p [⟨.begin, .error cause⟩] [] (.error (.driver cause))
  | refused {b : Answer} {cause : DriverError} :
      Course p [⟨.begin, .ok b⟩, ⟨.run p.first, .error cause⟩] [.rollback]
        (.error (.driver cause))
  | missing {b answer : Answer} (hrow : answer.firstRow? = none) :
      Course p [⟨.begin, .ok b⟩, ⟨.run p.first, .ok answer⟩] [.rollback] (.error p.missing)
  | unreadable {b answer : Answer} {row : Row} {column : String}
      (hrow : answer.firstRow? = some row)
      (hread : found (p.read row) = .error (.unreadable column)) :
      Course p [⟨.begin, .ok b⟩, ⟨.run p.first, .ok answer⟩] [.rollback]
        (.error (.unreadable column))
  | stopped {b answer : Answer} {row : Row} {a : α} {before later : List Statement}
      {statement : Statement} {done : List Turn} {cause : DriverError}
      (hrow : answer.firstRow? = some row) (hread : found (p.read row) = .ok a)
      (hrest : p.rest a = before ++ statement :: later) (hdone : Served before done) :
      Course p (⟨.begin, .ok b⟩ :: ⟨.run p.first, .ok answer⟩ ::
        (done ++ [⟨.run statement, .error cause⟩])) [.rollback] (.error (.driver cause))
  | uncommitted {b answer : Answer} {row : Row} {a : α} {done : List Turn} {cause : DriverError}
      (hrow : answer.firstRow? = some row) (hread : found (p.read row) = .ok a)
      (hdone : Served (p.rest a) done) :
      Course p (⟨.begin, .ok b⟩ :: ⟨.run p.first, .ok answer⟩ ::
        (done ++ [⟨.commit, .error cause⟩])) [.rollback] (.error (.driver cause))
  | committed {b answer c : Answer} {row : Row} {a : α} {done : List Turn}
      (hrow : answer.firstRow? = some row) (hread : found (p.read row) = .ok a)
      (hdone : Served (p.rest a) done) :
      Course p (⟨.begin, .ok b⟩ :: ⟨.run p.first, .ok answer⟩ :: (done ++ [⟨.commit, .ok c⟩])) []
        (.ok (p.result a))

/-! ## There are no other ways -/

variable {s : Session} {p : Plan α β}

/-- Statements in a row are all served, or the first one that is not ends them. -/
theorem changedAll_run (hopen : s.isOpen = true) (statements : List Statement) :
    ∃ turns z, Spoke s turns z ∧
      ((Served statements turns ∧ changedAll statements s = (.ok (), z)) ∨
        ∃ before statement later done cause, statements = before ++ statement :: later ∧
          Served before done ∧ turns = done ++ [⟨.run statement, .error cause⟩] ∧
          changedAll statements s = (.error (.driver cause), z)) := by
  -- the session is generalized, since every statement leaves another one
  induction statements generalizing s with
  | nil => exact ⟨[], s, .refl s, Or.inl ⟨served_nil, rfl⟩⟩
  | cons statement rest ih =>
    unfold changedAll
    rw [bind_run]
    obtain ⟨cause, hreply, hrun⟩ | ⟨answer, count, hreply, hrun⟩ := changed_run hopen statement
    · have hspoke := Spoke.single s (.run statement)
      rw [hreply] at hspoke
      rw [hrun]
      exact ⟨_, _, hspoke, Or.inr ⟨[], statement, rest, [], cause, rfl, served_nil, rfl, rfl⟩⟩
    · rw [hrun]
      obtain ⟨turns, z, hspoke, ⟨hall, hz⟩ | ⟨before, failing, later, done, cause, hsplit, hdone,
        hturns, hz⟩⟩ := ih (s := s.after (.run statement)) hopen
      · have hall' := hall.cons statement answer
        rw [← hreply] at hall'
        exact ⟨_, z, .turn _ hspoke, Or.inl ⟨hall', hz⟩⟩
      · have hdone' := hdone.cons statement answer
        rw [← hreply] at hdone'
        refine ⟨_, z, .turn _ hspoke, Or.inr ⟨statement :: before, failing, later,
          ⟨.run statement, s.reply⟩ :: done, cause, ?_, hdone', ?_, hz⟩⟩
        · rw [hsplit]
          rfl
        · rw [hturns]
          rfl

/-- A transaction on an open session, told by what its body does. -/
theorem transaction_run {body : Dialogue β} (hopen : s.isOpen = true)
    (hbody : (body (s.after .begin)).2.isOpen = true) :
    transaction body s = match s.reply with
      | .error cause => (.error (.driver cause), s.after .begin)
      | .ok _ => match body (s.after .begin) with
        | (.error stop, z) => (.error stop, z.rolledBack)
        | (.ok v, z) => match z.reply with
          | .error cause => (.error (.driver cause), (z.after .commit).rolledBack)
          | .ok _ => (.ok v, z.after .commit) := by
  unfold transaction
  rw [send_run hopen]
  cases s.reply with
  | error cause => rfl
  | ok b =>
    unfold Except.mapError
    simp only
    rw [bind_run]
    cases hrun : body (s.after .begin) with
    | mk result z =>
      rw [hrun] at hbody
      cases result with
      | error stop => rfl
      | ok v =>
        -- the end is asked for in the session that the body leaves, which is why that is open
        simp only
        rw [bind_run, send_run hbody]
        cases z.reply <;> rfl

/-- How the body of a plan can go, after the start of the transaction. -/
theorem body_cases {r : Except Stop β} {z : Session} (hopen : s.isOpen = true)
    (h : p.body s = (r, z)) :
    ∃ turns, Spoke s turns z ∧
      ((∃ stop, r = .error stop ∧
          ∀ b, Course p (⟨.begin, .ok b⟩ :: turns) [.rollback] (.error stop)) ∨
        ∃ answer row a done, r = .ok (p.result a) ∧
          turns = ⟨.run p.first, .ok answer⟩ :: done ∧ answer.firstRow? = some row ∧
          found (p.read row) = .ok a ∧ Served (p.rest a) done) := by
  have hfirst := Spoke.single s (.run p.first)
  unfold Plan.body at h
  rw [bind_run, demand_run hopen] at h
  cases hreply : s.reply with
  | error cause =>
    rw [hreply] at h hfirst
    obtain ⟨rfl, rfl⟩ := Prod.mk.inj h
    exact ⟨_, hfirst, Or.inl ⟨_, rfl, fun _ => .refused⟩⟩
  | ok answer =>
    rw [hreply] at h hfirst
    simp only at h
    cases hrow : answer.firstRow? with
    | none =>
      rw [hrow] at h
      obtain ⟨rfl, rfl⟩ := Prod.mk.inj h
      exact ⟨_, hfirst, Or.inl ⟨_, rfl, fun _ => .missing hrow⟩⟩
    | some row =>
      rw [hrow] at h
      simp only at h
      rw [bind_run, (p.silent row).run] at h
      cases hread : found (p.read row) with
      | error stop =>
        -- reading says nothing, so what was said is still the first statement alone
        rw [hread] at h
        obtain ⟨rfl, rfl⟩ := Prod.mk.inj h
        obtain ⟨column, rfl⟩ := (p.silent row).unreadable stop hread
        exact ⟨_, hfirst, Or.inl ⟨_, rfl, fun _ => .unreadable hrow hread⟩⟩
      | ok a =>
        rw [hread] at h
        simp only at h
        rw [bind_run] at h
        obtain ⟨turns, z', hspoke, ⟨hall, hz⟩ | ⟨before, failing, later, done, cause, hsplit, hdone,
          rfl, hz⟩⟩ := changedAll_run (s := s.after (.run p.first)) hopen (p.rest a)
        · rw [hz] at h
          obtain ⟨rfl, rfl⟩ := Prod.mk.inj h
          exact ⟨_, hfirst.trans hspoke,
            Or.inr ⟨answer, row, a, turns, rfl, rfl, hrow, hread, hall⟩⟩
        · rw [hz] at h
          obtain ⟨rfl, rfl⟩ := Prod.mk.inj h
          exact ⟨_, hfirst.trans hspoke,
            Or.inl ⟨_, rfl, fun _ => .stopped hrow hread hsplit hdone⟩⟩

/-- Every plan goes one of the ways of `Course`. -/
theorem Plan.course (p : Plan α β) (hopen : s.isOpen = true) :
    ∃ turns closing z, Spoke s turns z ∧ Course p turns closing (p.dialogue s).1 ∧
      (p.dialogue s).2.sent = z.sent ++ closing := by
  have hbegin := Spoke.single s .begin
  cases hrun : p.body (s.after .begin) with
  | mk result z =>
    obtain ⟨turns, hspoke, hcases⟩ := body_cases (s := s.after .begin) hopen hrun
    have hzopen : (p.body (s.after .begin)).2.isOpen = true := by
      rw [hrun, hspoke.isOpen]
      exact hopen
    unfold Plan.dialogue
    rw [transaction_run hopen hzopen]
    cases hreply : s.reply with
    | error cause =>
      rw [hreply] at hbegin
      exact ⟨_, [], _, hbegin, .unbegun, (List.append_nil _).symm⟩
    | ok b =>
      rw [hreply] at hbegin
      rw [hrun]
      obtain ⟨stop, rfl, hcourse⟩ | ⟨answer, row, a, done, rfl, rfl, hrow, hread, hdone⟩ := hcases
      -- the body stopped, or all that is left is the end
      · exact ⟨_, [.rollback], z, hbegin.trans hspoke, hcourse b, rfl⟩
      · have hend := hbegin.trans (hspoke.trans (Spoke.single z .commit))
        simp only
        cases hcommit : z.reply with
        | error cause =>
          rw [hcommit] at hend
          exact ⟨_, [.rollback], _, hend, .uncommitted hrow hread hdone, rfl⟩
        | ok c =>
          rw [hcommit] at hend
          exact ⟨_, [], _, hend, .committed hrow hread hdone, (List.append_nil _).symm⟩

/-! ## What is read off the ways -/

theorem Served.ne_commit {statements : List Statement} {done : List Turn} {t : Turn}
    (h : Served statements done) (ht : t ∈ done) : t.command ≠ .commit := by
  have hmem : t.command ∈ statements.map Command.run := by
    rw [← h.commands]
    exact List.mem_map_of_mem ht
  obtain ⟨statement, _, hstatement⟩ := List.mem_map.mp hmem
  rw [← hstatement]
  simp

/-- In a way that goes beyond the first statement the end can only be the last turn. -/
theorem Served.mem_commit {statements : List Statement} {done : List Turn} {first : Statement}
    {b answer reply : Reply} {t : Turn} (h : Served statements done) :
    ⟨.commit, reply⟩ ∈ (⟨.begin, b⟩ :: ⟨.run first, answer⟩ :: (done ++ [t]) : List Turn) ↔
      t = ⟨.commit, reply⟩ := by
  constructor
  · intro hmem
    simp only [List.mem_cons, Turn.mk.injEq, reduceCtorEq, false_and, false_or, List.mem_append,
      List.not_mem_nil, or_false] at hmem
    rcases hmem with hdone | hlast
    · exact absurd rfl (h.ne_commit hdone)
    · exact hlast.symm
  · rintro rfl
    simp

/-- The first statement gave a row, and `a` was read in it. -/
def Plan.Found (p : Plan α β) (turns : List Turn) (a : α) : Prop :=
  ∃ answer row, turns[1]? = some ⟨.run p.first, .ok answer⟩ ∧ answer.firstRow? = some row ∧
    found (p.read row) = .ok a

/-- A transaction was begun and not committed. -/
def Unfinished (turns : List Turn) : Prop :=
  (∃ b, turns[0]? = some ⟨.begin, .ok b⟩) ∧ ∀ c, ⟨.commit, .ok c⟩ ∉ turns

namespace Course

variable {turns : List Turn} {closing : List Command} {r : Except Stop β}

/-- Every turn but the last one went well, and what went wrong there is the result. -/
theorem last (h : Course p turns closing r) : ∃ before t, turns = before ++ [t] ∧
    (∀ t' ∈ before, ∃ answer, t'.reply = .ok answer) ∧
    ∀ cause, t.reply = .error cause → r = .error (.driver cause) := by
  -- the two turns that begin all ways that are longer
  have hopening : ∀ {b answer : Answer} {done : List Turn},
      (∀ t ∈ done, ∃ a, t.reply = .ok a) →
        ∀ t ∈ (⟨.begin, .ok b⟩ :: ⟨.run p.first, .ok answer⟩ :: done : List Turn),
          ∃ a, t.reply = .ok a := by
    intro b answer done hdone
    exact List.forall_mem_cons.mpr ⟨⟨b, rfl⟩, List.forall_mem_cons.mpr ⟨⟨answer, rfl⟩, hdone⟩⟩
  cases h with
  | unbegun =>
    refine ⟨[], _, rfl, ?_, ?_⟩
    · rintro _ ⟨⟩
    · rintro _ ⟨⟩
      rfl
  | @refused b cause =>
    refine ⟨[⟨.begin, .ok b⟩], _, rfl, fun t ht => ⟨b, ?_⟩, ?_⟩
    · rw [List.mem_singleton.mp ht]
    · rintro _ ⟨⟩
      rfl
  | @missing b answer _ =>
    refine ⟨[⟨.begin, .ok b⟩], _, rfl, fun t ht => ⟨b, ?_⟩, ?_⟩
    · rw [List.mem_singleton.mp ht]
    · rintro _ ⟨⟩
  | @unreadable b answer row column _ _ =>
    refine ⟨[⟨.begin, .ok b⟩], _, rfl, fun t ht => ⟨b, ?_⟩, ?_⟩
    · rw [List.mem_singleton.mp ht]
    · rintro _ ⟨⟩
  | stopped _ _ _ hdone =>
    refine ⟨_ :: _ :: _, _, rfl, hopening hdone.replies, ?_⟩
    rintro _ ⟨⟩
    rfl
  | uncommitted _ _ hdone =>
    refine ⟨_ :: _ :: _, _, rfl, hopening hdone.replies, ?_⟩
    rintro _ ⟨⟩
    rfl
  | committed _ _ hdone =>
    refine ⟨_ :: _ :: _, _, rfl, hopening hdone.replies, ?_⟩
    rintro _ ⟨⟩

/-- After a turn that was refused there is none. -/
theorem refused_last (h : Course p turns closing r) {before later : List Turn} {t : Turn}
    {cause : DriverError} (hturns : turns = before ++ t :: later) (ht : t.reply = .error cause) :
    later = [] ∧ r = .error (.driver cause) := by
  obtain ⟨served, t', hsplit, hserved, hend⟩ := h.last
  rw [hturns] at hsplit
  rcases List.eq_nil_or_concat later with rfl | ⟨more, u, rfl⟩
  · obtain ⟨_, hlast⟩ := List.append_inj' hsplit rfl
    cases hlast
    exact ⟨rfl, hend cause ht⟩
  · -- `t` would be one of those that were served
    rw [List.concat_eq_append, ← List.cons_append, ← List.append_assoc] at hsplit
    obtain ⟨hbefore, _⟩ := List.append_inj' hsplit rfl
    obtain ⟨answer, hanswer⟩ := hserved t (by rw [← hbefore]; simp)
    rw [hanswer] at ht
    cases ht

/-- The end is only asked for when everything else was served. -/
theorem commit (h : Course p turns closing r) {reply : Reply} (hmem : ⟨.commit, reply⟩ ∈ turns) :
    ∃ b answer row a done, turns = ⟨.begin, .ok b⟩ :: ⟨.run p.first, .ok answer⟩ ::
        (done ++ [⟨.commit, reply⟩]) ∧
      answer.firstRow? = some row ∧ found (p.read row) = .ok a ∧ Served (p.rest a) done := by
  cases h with
  | unbegun => simp at hmem
  | refused => simp at hmem
  | missing => simp at hmem
  | unreadable => simp at hmem
  | stopped _ _ _ hdone => cases hdone.mem_commit.mp hmem
  | @uncommitted b answer row a done _ hrow hread hdone =>
    cases hdone.mem_commit.mp hmem
    exact ⟨b, answer, row, a, done, rfl, hrow, hread, hdone⟩
  | @committed b answer c row a done hrow hread hdone =>
    cases hdone.mem_commit.mp hmem
    exact ⟨b, answer, row, a, done, rfl, hrow, hread, hdone⟩

/-- The result is good exactly if the end was asked for and granted. -/
theorem ok_iff (h : Course p turns closing r) :
    (∃ v, r = .ok v) ↔ ∃ c, ⟨.commit, .ok c⟩ ∈ turns := by
  constructor
  · rintro ⟨v, rfl⟩
    cases h with
    | @committed _ _ c _ _ _ _ _ hdone => exact ⟨c, hdone.mem_commit.mpr rfl⟩
  · rintro ⟨c, hmem⟩
    cases h with
    | unbegun => simp at hmem
    | refused => simp at hmem
    | missing => simp at hmem
    | unreadable => simp at hmem
    | stopped _ _ _ hdone => cases hdone.mem_commit.mp hmem
    | uncommitted _ _ hdone => cases hdone.mem_commit.mp hmem
    | committed => exact ⟨_, rfl⟩

theorem value (h : Course p turns closing r) {v : β} (hr : r = .ok v) :
    ∃ a, p.Found turns a ∧ v = p.result a := by
  subst hr
  cases h with
  | @committed b answer c row a done hrow hread _ =>
    exact ⟨a, ⟨answer, row, rfl, hrow, hread⟩, rfl⟩

/-- Commands are sent in the order of the plan, and from the third one on they are about what was
found. -/
theorem inOrder (h : Course p turns closing r) :
    turns.map (·.command) <+: [.begin, .run p.first] ∨
      ∃ a, p.Found turns a ∧ turns.map (·.command) <+:
        .begin :: .run p.first :: ((p.rest a).map .run ++ [.commit]) := by
  cases h with
  | unbegun => exact Or.inl ⟨[.run p.first], rfl⟩
  | refused => exact Or.inl (List.prefix_refl _)
  | missing => exact Or.inl (List.prefix_refl _)
  | unreadable => exact Or.inl (List.prefix_refl _)
  | @stopped b answer row a before later statement done cause hrow hread hrest hdone =>
    refine Or.inr ⟨a, ⟨answer, row, rfl, hrow, hread⟩, later.map .run ++ [.commit], ?_⟩
    simp [hrest, hdone.commands]
  | @uncommitted b answer row a done cause hrow hread hdone =>
    refine Or.inr ⟨a, ⟨answer, row, rfl, hrow, hread⟩, [], ?_⟩
    simp [hdone.commands]
  | @committed b answer c row a done hrow hread hdone =>
    refine Or.inr ⟨a, ⟨answer, row, rfl, hrow, hread⟩, [], ?_⟩
    simp [hdone.commands]

/-- Where the first statement gives no row, nothing follows it. -/
theorem noRow (h : Course p turns closing r) {answer : Answer}
    (hfirst : turns[1]? = some ⟨.run p.first, .ok answer⟩) (hrow : answer.firstRow? = none) :
    turns.length = 2 ∧ r = .error p.missing := by
  have hsame : ∀ {answer' : Answer},
      (⟨.run p.first, .ok answer'⟩ : Turn) = ⟨.run p.first, .ok answer⟩ →
      answer'.firstRow? = none := by
    rintro _ ⟨⟩
    exact hrow
  cases h with
  | unbegun => cases hfirst
  | refused => cases hfirst
  | missing => exact ⟨rfl, rfl⟩
  | unreadable hrow' _ => cases hrow'.symm.trans (hsame (Option.some.inj hfirst))
  | stopped hrow' _ _ _ => cases hrow'.symm.trans (hsame (Option.some.inj hfirst))
  | uncommitted hrow' _ _ => cases hrow'.symm.trans (hsame (Option.some.inj hfirst))
  | committed hrow' _ _ => cases hrow'.symm.trans (hsame (Option.some.inj hfirst))

/-- Only a first row that cannot be read makes no error of a store; nothing follows it. -/
theorem unread (h : Course p turns closing r) {stop : Stop} (hr : r = .error stop)
    (hstop : stop.error? = none) :
    turns.length = 2 ∧ ∃ answer row column, turns[1]? = some ⟨.run p.first, .ok answer⟩ ∧
      answer.firstRow? = some row ∧ found (p.read row) = .error (.unreadable column) := by
  cases h with
  | missing =>
    cases hr
    rw [p.missing_error] at hstop
    cases hstop
  | unreadable hrow hread => exact ⟨rfl, _, _, _, rfl, hrow, hread⟩
  | unbegun =>
    cases hr
    cases hstop
  | refused =>
    cases hr
    cases hstop
  | stopped =>
    cases hr
    cases hstop
  | uncommitted =>
    cases hr
    cases hstop
  | committed => cases hr

/-- What was begun and not committed is rolled back. -/
theorem rolledBack (h : Course p turns closing r) (hturns : Unfinished turns) :
    closing = [.rollback] := by
  obtain ⟨⟨b, hbegun⟩, hcommit⟩ := hturns
  cases h with
  | unbegun => cases hbegun
  | committed _ _ hdone => exact absurd (hdone.mem_commit.mpr rfl) (hcommit _)
  | refused => rfl
  | missing => rfl
  | unreadable => rfl
  | stopped => rfl
  | uncommitted => rfl

/-- Nothing else is rolled back. -/
theorem ended (h : Course p turns closing r) (hturns : ¬Unfinished turns) : closing = [] := by
  cases h with
  | unbegun => rfl
  | committed => rfl
  | refused => exact absurd ⟨⟨_, rfl⟩, fun c hmem => by simp at hmem⟩ hturns
  | missing => exact absurd ⟨⟨_, rfl⟩, fun c hmem => by simp at hmem⟩ hturns
  | unreadable => exact absurd ⟨⟨_, rfl⟩, fun c hmem => by simp at hmem⟩ hturns
  | stopped _ _ _ hdone =>
    refine absurd ⟨⟨_, rfl⟩, fun c hmem => ?_⟩ hturns
    cases hdone.mem_commit.mp hmem
  | uncommitted _ _ hdone =>
    refine absurd ⟨⟨_, rfl⟩, fun c hmem => ?_⟩ hturns
    cases hdone.mem_commit.mp hmem

end Course

/-! ## What a plan promises -/

/-- A plan against a script of replies: the turns, all that was sent, and what a store answers,
which is nothing at all if a row is not of the form that it must have. -/
structure Plan.Whole (p : Plan α β) (replies : List Reply) (turns : List Turn)
    (sent : List Command) (answer : Option (Except StoreError β)) : Prop where
  /-- Every command is answered by its own reply of the script. -/
  heard : ∀ k t, turns[k]? = some t → t.reply = replies.getD k (.error Dialogue.silence)
  /-- What was begun and not committed is rolled back, and nothing else is. -/
  rolledBack : Unfinished turns → sent = turns.map (·.command) ++ [.rollback]
  ended : ¬Unfinished turns → sent = turns.map (·.command)
  /-- From the third command on all are about what the first statement gave. -/
  inOrder : turns.map (·.command) <+: [.begin, .run p.first] ∨
    ∃ a, p.Found turns a ∧ turns.map (·.command) <+:
      .begin :: .run p.first :: ((p.rest a).map .run ++ [.commit])
  /-- The end is asked for only after the row was given and every statement was served. -/
  commit : ∀ reply, ⟨.commit, reply⟩ ∈ turns → ∃ b answer row a done,
    turns = ⟨.begin, .ok b⟩ :: ⟨.run p.first, .ok answer⟩ :: (done ++ [⟨.commit, reply⟩]) ∧
      answer.firstRow? = some row ∧ found (p.read row) = .ok a ∧ Served (p.rest a) done
  /-- The answer is good exactly if the end was granted, -/
  ok_iff : (∃ v, answer = some (.ok v)) ↔ ∃ c, ⟨.commit, .ok c⟩ ∈ turns
  /-- and is then about what the first statement gave. -/
  value : ∀ v, answer = some (.ok v) → ∃ a, p.Found turns a ∧ v = p.result a
  /-- Nothing follows a command that was refused, and the answer is the class of the refusal. -/
  refused : ∀ before t later cause, turns = before ++ t :: later → t.reply = .error cause →
    later = [] ∧ answer = some (.error (.ofDriver cause))
  /-- Nothing follows a first statement that gives no row. -/
  noRow : ∀ a, turns[1]? = some ⟨.run p.first, .ok a⟩ → a.firstRow? = none →
    turns.length = 2 ∧ answer = some (.error .notFound)
  /-- There is always an answer, unless the row is not of the form that it must have; nothing
  follows such a row. -/
  unread : answer = none → turns.length = 2 ∧ ∃ a row column,
    turns[1]? = some ⟨.run p.first, .ok a⟩ ∧ a.firstRow? = some row ∧
      found (p.read row) = .error (.unreadable column)

theorem run?_eq (a : Dialogue β) (s : Session) :
    a.run? s = (match (a s).1 with
      | .ok v => some (.ok v)
      | .error stop => stop.error?.map .error, (a s).2) := by
  unfold Dialogue.run?
  cases a s with
  | mk r z => cases r <;> rfl

/-- Against every script of replies a plan keeps its promises. -/
theorem Plan.whole (p : Plan α β) (replies : List Reply) :
    ∃ turns, p.Whole replies turns (p.dialogue.run? { replies }).2.sent
      (p.dialogue.run? { replies }).1 := by
  obtain ⟨turns, closing, z, hspoke, hcourse, hsent⟩ := p.course (s := { replies }) rfl
  rw [run?_eq]
  simp only
  rw [hsent, hspoke.sent]
  generalize (p.dialogue { replies }).1 = r at hcourse
  refine ⟨turns, fun k t ht => hspoke.heard ht, ?rolledBack, ?ended, hcourse.inOrder,
    fun _ h => hcourse.commit h, ?ok_iff, ?value, ?refused, ?noRow, ?unread⟩
  case rolledBack =>
    intro hturns
    rw [hcourse.rolledBack hturns]
    rfl
  case ended =>
    intro hturns
    rw [hcourse.ended hturns, List.append_nil]
    rfl
  case ok_iff =>
    rw [← hcourse.ok_iff]
    cases r with
    | ok v => simp
    | error stop => cases hstop : stop.error? <;> simp [hstop]
  case value =>
    intro v hv
    cases r with
    | ok w =>
      cases hv
      exact hcourse.value rfl
    | error stop => cases hstop : stop.error? <;> simp [hstop] at hv
  case refused =>
    intro before t later cause hturns ht
    obtain ⟨hlater, rfl⟩ := hcourse.refused_last hturns ht
    exact ⟨hlater, rfl⟩
  case noRow =>
    intro answer hfirst hrow
    obtain ⟨hlength, rfl⟩ := hcourse.noRow hfirst hrow
    refine ⟨hlength, ?_⟩
    simp only
    rw [p.missing_error]
    rfl
  case unread =>
    intro hnone
    cases r with
    | ok v => cases hnone
    | error stop => exact hcourse.unread rfl (Option.map_eq_none_iff.mp hnone)

end Agora.Sql
