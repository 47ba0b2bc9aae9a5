import Agora.Account.Database
import Agora.Proofs.Decimal
import Agora.Proofs.Result
import Agora.Proofs.Sql.Transaction

/-!
# Accounts are made and activated whole

Making an account and taking up an invitation are plans (`createAndInvite_eq`, `activate_eq`): the
first statement gives the row of an account, and the others are about its id. Main result:
`transactions_whole`. Whatever the database replies to either, it is told to commit only what is
complete, and the ids that are bound are those that it gave itself.
-/

namespace Agora.Account.Database

open Sql Sql.Dialogue

variable {α : Type} {row : Row} {name : String}

/-! ## Rows of accounts -/

theorem found_pure (a : α) : found (pure a) = .ok a := rfl

/-- A column is read exactly if it holds a value of the kind that is asked for. -/
theorem found_column {read? : Value → Option α} {kind : α → Value}
    (hkind : ∀ value a, read? value = some a ↔ value = kind a) {a : α} :
    found (row.column name read?) = .ok a ↔ row.lookup name = some (kind a) := by
  have hvalue : (row.lookup name).bind read? = some a ↔ row.lookup name = some (kind a) := by
    rw [Option.bind_eq_some_iff]
    constructor
    · rintro ⟨value, hlookup, hread⟩
      rw [hlookup, (hkind value a).mp hread]
    · exact fun hlookup => ⟨_, hlookup, (hkind _ a).mpr rfl⟩
  rw [← hvalue]
  unfold Row.column
  cases (row.lookup name).bind read? with
  | none => constructor <;> intro h <;> cases h
  | some b => simp [found_pure]

theorem found_int {n : Int} : found (row.int name) = .ok n ↔ row.lookup name = some (.int n) :=
  found_column fun value a => by cases value <;> simp

theorem found_text {text : String} :
    found (row.text name) = .ok text ↔ row.lookup name = some (.text text) :=
  found_column fun value a => by cases value <;> simp

theorem found_bool {b : Bool} : found (row.bool name) = .ok b ↔ row.lookup name = some (.bool b) :=
  found_column fun value a => by cases value <;> simp

theorem found_time {t : Time.Instant} :
    found (row.time name) = .ok t ↔ row.lookup name = some (.time t) :=
  found_column fun value a => by cases value <;> simp

theorem silent_int (row : Row) (name : String) : Silent (row.int name) := silent_column ..

theorem silent_text (row : Row) (name : String) : Silent (row.text name) := silent_column ..

theorem silent_bool (row : Row) (name : String) : Silent (row.bool name) := silent_column ..

theorem silent_time (row : Row) (name : String) : Silent (row.time name) := silent_column ..

/-- The columns of a row are those of an account. -/
structure Shows (row : Row) (u : User) : Prop where
  id : row.lookup "id" = some (.int u.id)
  username : row.lookup "username" = some (.text u.username)
  email : row.lookup "email" = some (.text u.email)
  passwordHash : row.lookup "password_hash" = some (.text u.passwordHash)
  isActive : row.lookup "is_active" = some (.bool u.isActive)
  roleId : row.lookup "role_id" = some (.int u.roleId)
  createdAt : row.lookup "created_at" = some (.time u.createdAt)

theorem silent_userOfRow (row : Row) : Silent (userOfRow row) :=
  silent_bind (silent_int ..) fun _ => silent_bind (silent_text ..) fun _ =>
    silent_bind (silent_text ..) fun _ => silent_bind (silent_text ..) fun _ =>
      silent_bind (silent_bool ..) fun _ => silent_bind (silent_int ..) fun _ =>
        silent_bind (silent_time ..) fun _ => silent_pure _

/-- An account is read from the rows that show it, and from no others. -/
theorem found_userOfRow {u : User} : found (userOfRow row) = .ok u ↔ Shows row u := by
  unfold userOfRow
  simp only [found_bind (silent_int ..), found_bind (silent_text ..), found_bind (silent_bool ..),
    found_bind (silent_time ..), Result.bind_eq_ok, found_int, found_text, found_bool, found_time,
    found_pure, Except.ok.injEq]
  constructor
  · rintro ⟨id, hid, username, husername, email, hemail, hash, hhash, active, hactive, role, hrole,
      created, hcreated, rfl⟩
    exact ⟨hid, husername, hemail, hhash, hactive, hrole, hcreated⟩
  · intro h
    exact ⟨_, h.id, _, h.username, _, h.email, _, h.passwordHash, _, h.isActive, _, h.roleId, _,
      h.createdAt, rfl⟩

/-! ## The two plans -/

/-- The account first, then the invitation for it. -/
def invitingPlan (new : NewUser) (digest : String) (expiresAt : Time.Instant) : Plan User User where
  first := insertUser new
  missing := .driver .rowNotFound
  read := userOfRow
  rest u := [insertInvitation digest u.id expiresAt]
  result := id
  silent := silent_userOfRow
  missing_error := rfl

/-- The id of the account first, then the account and its invitations. -/
def activatingPlan (digest : String) : Plan Int Unit where
  first := selectInvited digest
  missing := .absent
  read row := row.int "id"
  rest id := [updateActive id, deleteInvitations id]
  result _ := ()
  silent row := silent_column row "id" _
  missing_error := rfl

theorem createAndInvite_eq (new : NewUser) (digest : String) (expiresAt : Time.Instant) :
    createAndInvite new digest expiresAt = (invitingPlan new digest expiresAt).dialogue := by
  unfold createAndInvite Plan.dialogue Plan.body
  simp only [invitingPlan, changedAll, firstRow_eq_demand, bind_assoc, pure_bind, id_eq]

theorem activate_eq (digest : String) : activate digest = (activatingPlan digest).dialogue := by
  unfold activate Plan.dialogue Plan.body demand
  simp only [activatingPlan, changedAll, bind_assoc, pure_bind]
  congr 1
  refine bind_congr fun row? => ?_
  cases row? with
  | none => rfl
  | some row => simp only [pure_bind]

/-! ## What is sent -/

/-- A statement with its text and the values for its placeholders. -/
structure Sends (statement : Statement) (text : String) (binds : List Value) : Prop where
  text : statement.text = text
  binds : statement.binds = binds

/-- The statements of the two transactions. -/
structure Statements (new : NewUser) (digest : String) (id : Int) (expiresAt : Time.Instant) :
    Prop where
  insertUser : Sends (insertUser new)
    ("INSERT INTO users (username, email, password_hash, role_id) " ++
      "VALUES ($1, $2, $3, (SELECT id FROM roles WHERE name = 'user')) " ++
      "RETURNING id, username, email, password_hash, is_active, role_id, created_at")
    [.text new.username, .text new.email, .text new.passwordHash]
  insertInvitation : Sends (insertInvitation digest id expiresAt)
    "INSERT INTO user_invitations (token, user_id, expiry) VALUES ($1, $2, $3)"
    [.text digest, .int id, .time expiresAt]
  selectInvited : Sends (selectInvited digest)
    ("SELECT u.id FROM users u JOIN user_invitations i ON i.user_id = u.id " ++
      "WHERE i.token = $1 AND i.expiry > now()")
    [.text digest]
  updateActive : Sends (updateActive id) "UPDATE users SET is_active = TRUE WHERE id = $1" [.int id]
  deleteInvitations : Sends (deleteInvitations id)
    "DELETE FROM user_invitations WHERE user_id = $1" [.int id]

theorem statements_spelled (new : NewUser) (digest : String) (id : Int)
    (expiresAt : Time.Instant) : Statements new digest id expiresAt := by
  have hone : Decimal.ofNat 1 = ['1'] := Decimal.ofNat_of_lt (by decide)
  have htwo : Decimal.ofNat 2 = ['2'] := Decimal.ofNat_of_lt (by decide)
  have hthree : Decimal.ofNat 3 = ['3'] := Decimal.ofNat_of_lt (by decide)
  refine ⟨⟨?_, rfl⟩, ⟨?_, rfl⟩, ⟨?_, rfl⟩, ⟨?_, rfl⟩, ⟨?_, rfl⟩⟩
  -- the text of a statement does not depend on the values
  · simp only [Database.insertUser, Statement.text, Statement.textFrom, Nat.reduceAdd, hone, htwo,
      hthree]
    decide +kernel
  · simp only [Database.insertInvitation, Statement.text, Statement.textFrom, Nat.reduceAdd, hone,
      htwo, hthree]
    decide +kernel
  · simp only [Database.selectInvited, Statement.text, Statement.textFrom, hone]
    decide +kernel
  · simp only [Database.updateActive, Statement.text, Statement.textFrom, hone]
    decide +kernel
  · simp only [Database.deleteInvitations, Statement.text, Statement.textFrom, hone]
    decide +kernel

/-! ## What is bound -/

/-- The first row that the first statement of a transaction gave. -/
def rowGiven? (turns : List Turn) : Option Row :=
  (turns[1]?.bind (·.reply.toOption)).bind Answer.firstRow?

/-- The statements that follow the first one are about the id in the row that it gave. -/
def AboutGiven (turns : List Turn) (statements : Int → List Statement) : Prop :=
  ∀ statement, .run statement ∈ (turns.map (·.command)).drop 2 →
    ∃ row id, rowGiven? turns = some row ∧ row.lookup "id" = some (.int id) ∧
      statement ∈ statements id

section

variable {β : Type} {p : Plan α β} {replies : List Reply} {turns : List Turn}
  {sent : List Command} {answer : Option (Except StoreError β)}

theorem rowGiven?_of_first {first : Statement} {a : Answer}
    (h : turns[1]? = some ⟨.run first, .ok a⟩) : rowGiven? turns = a.firstRow? := by
  unfold rowGiven?
  rw [h]
  rfl

/-- It is enough that the plan reads the id, and goes on with it. -/
theorem aboutGiven_of_whole (h : p.Whole replies turns sent answer)
    {statements : Int → List Statement}
    (hrest : ∀ row a, found (p.read row) = .ok a →
      ∃ id, row.lookup "id" = some (.int id) ∧ p.rest a = statements id) :
    AboutGiven turns statements := by
  intro statement hmem
  -- what follows two commands of a beginning follows two commands of the whole
  have hlater : ∀ {whole : List Command}, turns.map (·.command) <+: whole →
      .run statement ∈ whole.drop 2 := by
    rintro _ ⟨more, rfl⟩
    rw [List.drop_append]
    exact List.mem_append_left _ hmem
  obtain hshort | ⟨a, ⟨given, row, hfirst, hrow, hread⟩, hlong⟩ := h.inOrder
  · cases hlater hshort
  · obtain ⟨id, hid, hstatements⟩ := hrest row a hread
    refine ⟨row, id, (rowGiven?_of_first hfirst).trans hrow, hid, ?_⟩
    simpa [hstatements] using hlater hlong

/-- Without an answer there is a row that nothing could be read from. -/
theorem rowGiven?_of_unanswered (h : p.Whole replies turns sent answer) (hnone : answer = none) :
    ∃ row, rowGiven? turns = some row ∧ ∀ a, found (p.read row) ≠ .ok a := by
  obtain ⟨_, given, row, column, hfirst, hrow, hread⟩ := h.unread hnone
  refine ⟨row, (rowGiven?_of_first hfirst).trans hrow, fun a ha => ?_⟩
  rw [hread] at ha
  cases ha

end

/-- Whatever the database replies, both transactions keep the promises of their plans, and their
statements bind the id that the database gave. Both have an answer, unless the row that the database
gave is not that of an account, or has no id. The statements are spelled out. -/
theorem transactions_whole (new : NewUser) (digest : String) (expiresAt : Time.Instant)
    (replies : List Reply) :
    (∃ turns, (invitingPlan new digest expiresAt).Whole replies turns
        ((createAndInvite new digest expiresAt).run? { replies }).2.sent
        ((createAndInvite new digest expiresAt).run? { replies }).1 ∧
      AboutGiven turns (fun id => [insertInvitation digest id expiresAt]) ∧
      (((createAndInvite new digest expiresAt).run? { replies }).1 = none →
        ∃ row, rowGiven? turns = some row ∧ ∀ u, ¬Shows row u)) ∧
    (∃ turns, (activatingPlan digest).Whole replies turns
        ((activate digest).run? { replies }).2.sent ((activate digest).run? { replies }).1 ∧
      AboutGiven turns (fun id => [updateActive id, deleteInvitations id]) ∧
      (((activate digest).run? { replies }).1 = none →
        ∃ row, rowGiven? turns = some row ∧ ∀ id, row.lookup "id" ≠ some (.int id))) ∧
    ∀ id, Statements new digest id expiresAt := by
  rw [createAndInvite_eq, activate_eq]
  refine ⟨?_, ?_, fun id => statements_spelled new digest id expiresAt⟩
  · obtain ⟨turns, hwhole⟩ := (invitingPlan new digest expiresAt).whole replies
    refine ⟨turns, hwhole, aboutGiven_of_whole hwhole fun row u hread => ?_, fun hnone => ?_⟩
    · exact ⟨u.id, (found_userOfRow.mp hread).id, rfl⟩
    · obtain ⟨row, hrow, hread⟩ := rowGiven?_of_unanswered hwhole hnone
      exact ⟨row, hrow, fun u hu => hread u (found_userOfRow.mpr hu)⟩
  · obtain ⟨turns, hwhole⟩ := (activatingPlan digest).whole replies
    refine ⟨turns, hwhole, aboutGiven_of_whole hwhole fun row id hread => ?_, fun hnone => ?_⟩
    · exact ⟨id, found_int.mp hread, rfl⟩
    · obtain ⟨row, hrow, hread⟩ := rowGiven?_of_unanswered hwhole hnone
      exact ⟨row, hrow, fun id hid => hread id (found_int.mpr hid)⟩

end Agora.Account.Database
