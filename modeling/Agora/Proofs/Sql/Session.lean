import Agora.Sql.Session

/-!
# What is said in a session and what is heard

A session that is open answers every command with the next reply of its script (`send_run`). `Spoke`
is the record of it: the turns, each a command with its reply, that lead from one session to
another. The record is the whole truth about both sides, by `Spoke.sent` about the commands and by
`Spoke.heard` about the replies.

The parts that dialogues are made of are each given as an equation on open sessions, so that no
later proof opens the monad.
-/

namespace Agora.Sql

/-- A command with what the server said to it. -/
structure Turn where
  command : Command
  reply : Reply

/-- The first row of an answer; a number of changed rows has none. -/
def Answer.firstRow? : Answer → Option Row
  | .rows list => list.head?
  | .affected _ => none

namespace Session

variable {s y z : Session} {turns turns' : List Turn}

/-- What the server says to the command that is sent next. -/
def reply (s : Session) : Reply := s.replies.headD (.error Dialogue.silence)

/-- The session in which a command was sent and answered. -/
def after (s : Session) (command : Command) : Session :=
  { s with sent := s.sent ++ [command], replies := s.replies.tail }

/-- The session with a rollback at its end, which is not answered. -/
def rolledBack (s : Session) : Session := { s with sent := s.sent ++ [.rollback] }

@[simp] theorem after_sent (s : Session) (c : Command) : (s.after c).sent = s.sent ++ [c] := rfl

@[simp] theorem after_replies (s : Session) (c : Command) :
    (s.after c).replies = s.replies.tail := rfl

/-- The turns that lead from one session to another. -/
inductive Spoke : Session → List Turn → Session → Prop
  | refl (s : Session) : Spoke s [] s
  | turn {s y : Session} {turns : List Turn} (c : Command) (hrest : Spoke (s.after c) turns y) :
      Spoke s (⟨c, s.reply⟩ :: turns) y

namespace Spoke

theorem single (s : Session) (c : Command) : Spoke s [⟨c, s.reply⟩] (s.after c) :=
  .turn c (.refl _)

theorem trans (h : Spoke s turns y) (h' : Spoke y turns' z) : Spoke s (turns ++ turns') z := by
  induction h with
  | refl => exact h'
  | turn c _ ih => exact .turn c (ih h')

theorem isOpen (h : Spoke s turns y) : y.isOpen = s.isOpen := by
  induction h with
  | refl => rfl
  | turn c _ ih => exact ih

theorem sent (h : Spoke s turns y) : y.sent = s.sent ++ turns.map (·.command) := by
  induction h with
  | refl => simp
  | turn c _ ih =>
    rw [ih, after_sent, List.map_cons, List.append_assoc]
    rfl

/-- Replies are heard in the order of the script; after its end the server has nothing to say. -/
theorem heard (h : Spoke s turns y) {k : Nat} {t : Turn} (ht : turns[k]? = some t) :
    t.reply = s.replies.getD k (.error Dialogue.silence) := by
  induction h generalizing k with
  | refl => cases ht
  | @turn s _ _ c _ ih =>
    cases k with
    | zero =>
      cases ht
      unfold reply
      cases s.replies <;> rfl
    | succ k =>
      rw [ih ht, after_replies]
      cases s.replies <;> rfl

end Spoke

end Session

namespace Dialogue

open Session

variable {α β : Type} {s : Session}

theorem bind_run (a : Dialogue α) (f : α → Dialogue β) (s : Session) :
    (a >>= f) s = match a s with
      | (.ok v, z) => f v z
      | (.error stop, z) => (.error stop, z) := by
  simp only [bind, ExceptT.bind, ExceptT.mk, StateT.bind]
  cases a s with
  | mk result z => cases result <;> rfl

/-- In an open session a command is answered by the next reply. -/
theorem send_run (hopen : s.isOpen = true) (c : Command) :
    send c s = (s.reply.mapError .driver, s.after c) := by
  unfold send reply after
  rw [if_pos hopen]
  cases s.replies with
  | nil => rfl
  | cons r rest => cases r <;> rfl

/-- The first row that a statement gives, where it has to give one; `stop` if it gives none. -/
def demand (statement : Statement) (stop : Stop) : Dialogue Row := do
  match ← firstRow? statement with
  | some row => return row
  | none => throw stop

theorem firstRow_eq_demand (statement : Statement) :
    firstRow statement = demand statement (.driver .rowNotFound) := rfl

theorem firstRow?_run (hopen : s.isOpen = true) (statement : Statement) :
    firstRow? statement s =
      ((s.reply.mapError Stop.driver).map Answer.firstRow?, s.after (.run statement)) := by
  unfold firstRow? rows
  rw [bind_run, bind_run, send_run hopen]
  cases s.reply with
  | error cause => rfl
  | ok answer => cases answer <;> rfl

theorem demand_run (hopen : s.isOpen = true) (statement : Statement) (stop : Stop) :
    demand statement stop s = (match s.reply with
      | .error cause => .error (.driver cause)
      | .ok answer => match answer.firstRow? with
        | some row => .ok row
        | none => .error stop, s.after (.run statement)) := by
  unfold demand
  rw [bind_run, firstRow?_run hopen]
  cases s.reply with
  | error cause => rfl
  | ok answer =>
    change (match answer.firstRow? with
      | some row => (pure row : Dialogue Row)
      | none => throw stop) (s.after (.run statement)) = _
    cases hrow : answer.firstRow? <;> simp only [hrow] <;> rfl

/-- Only whether it was refused matters of a statement that changes rows. -/
theorem changed_run (hopen : s.isOpen = true) (statement : Statement) :
    (∃ cause, s.reply = .error cause ∧
        changed statement s = (.error (.driver cause), s.after (.run statement))) ∨
      ∃ answer count, s.reply = .ok answer ∧
        changed statement s = (.ok count, s.after (.run statement)) := by
  unfold changed
  rw [bind_run, send_run hopen]
  cases s.reply with
  | error cause => exact Or.inl ⟨cause, rfl, rfl⟩
  | ok answer =>
    cases answer with
    | rows rows => exact Or.inr ⟨.rows rows, rows.length, rfl, rfl⟩
    | affected count => exact Or.inr ⟨.affected count, count, rfl, rfl⟩

/-! ## Looking into rows -/

/-- What a dialogue finds in which nothing is said. -/
def found (a : Dialogue α) : Except Stop α := (a { replies := [] }).1

/-- In the dialogue nothing is said, and nothing goes wrong but that a column is not of its kind. -/
structure Silent (a : Dialogue α) : Prop where
  run : ∀ s, a s = (found a, s)
  unreadable : ∀ stop, found a = .error stop → ∃ column, stop = .unreadable column

theorem silent_pure (a : α) : Silent (pure a) where
  run _ := rfl
  unreadable _ h := by cases h

theorem found_bind {a : Dialogue α} (ha : Silent a) (f : α → Dialogue β) :
    found (a >>= f) = found a >>= fun v => found (f v) := by
  unfold found
  rw [bind_run, ha.run]
  unfold found
  cases (a { replies := [] }).1 <;> rfl

theorem silent_bind {a : Dialogue α} {f : α → Dialogue β} (ha : Silent a)
    (hf : ∀ v, Silent (f v)) : Silent (a >>= f) where
  run s := by
    rw [bind_run, ha.run, found_bind ha]
    cases found a with
    | error stop => rfl
    | ok v => exact (hf v).run s
  unreadable stop h := by
    rw [found_bind ha] at h
    cases hfound : found a with
    | error stop' =>
      rw [hfound] at h
      cases h
      exact ha.unreadable _ hfound
    | ok v =>
      rw [hfound] at h
      exact (hf v).unreadable stop h

theorem silent_column (row : Row) (name : String) (read? : Value → Option α) :
    Silent (row.column name read?) := by
  unfold Row.column
  cases (row.lookup name).bind read? with
  | some a => exact silent_pure a
  | none =>
    refine ⟨fun _ => rfl, ?_⟩
    intro stop h
    cases h
    exact ⟨name, rfl⟩

end Dialogue

end Agora.Sql
