import Agora.Feed.Statement
import Agora.Sql.Session
import Agora.Store

/-!
# The tables in a database

Every operation on users, roles, posts, comments and follows as one statement, and the rows that
are read back. A change that finds no row to change is refused.
-/

namespace Agora.Social.Database

open Sql (Dialogue Row Statement)

/-! ## Rows -/

def userOfRow (row : Row) : Dialogue User := do
  return {
    id := ← row.int "id"
    username := ← row.text "username"
    email := ← row.text "email"
    createdAt := ← row.time "created_at"
    isActive := ← row.bool "is_active"
    role := {
      id := ← row.int "role_id"
      name := ← row.text "role_name"
      level := ← row.int "role_level"
      description := ← row.text "role_description" } }

def roleOfRow (row : Row) : Dialogue Role := do
  return {
    id := ← row.int "id"
    name := ← row.text "name"
    level := ← row.int "level"
    description := ← row.text "description" }

def postOfRow (row : Row) : Dialogue Post := do
  return {
    id := ← row.int "id"
    title := ← row.text "title"
    content := ← row.text "content"
    userId := ← row.int "user_id"
    tags := ← row.texts "tags"
    version := ← row.word32 "version"
    createdAt := ← row.time "created_at"
    updatedAt := ← row.time "updated_at" }

def commentOfRow (row : Row) : Dialogue Comment := do
  return {
    id := ← row.int "id"
    postId := ← row.int "post_id"
    userId := ← row.int "user_id"
    username := ← row.text "username"
    content := ← row.text "content"
    createdAt := ← row.time "created_at" }

def feedItemOfRow (row : Row) : Dialogue FeedItem := do
  return {
    post := ← postOfRow row
    commentsCount := ← row.int "comments_count"
    author := { username := ← row.text "username", email := ← row.text "email" } }

/-- A row that may be absent. -/
def ofRow? {α : Type} (read : Row → Dialogue α) : Option Row → Dialogue (Option α)
  | none => return none
  | some row => return some (← read row)

/-! ## Statements -/

def selectUser (id : Int) : Statement :=
  [.text ("SELECT u.id, u.username, u.email, u.created_at, u.is_active, r.id AS role_id, " ++
      "r.name AS role_name, r.level AS role_level, r.description AS role_description " ++
      "FROM users u JOIN roles r ON r.id = u.role_id WHERE u.id = "),
    .bind (.int id)]

def selectRole (name : String) : Statement :=
  [.text "SELECT id, name, level, description FROM roles WHERE name = ", .bind (.text name)]

def insertPost (new : Store.NewPost) : Statement :=
  [.text "INSERT INTO posts (title, content, user_id, tags) VALUES (",
    .bind (.text new.title), .text ", ", .bind (.text new.content), .text ", ",
    .bind (.int new.userId), .text ", ", .bind (.texts new.tags),
    .text (") RETURNING id, title, content, user_id, tags, version, created_at, updated_at")]

def selectPost (id : Int) : Statement :=
  [.text ("SELECT id, title, content, user_id, tags, version, created_at, updated_at " ++
      "FROM posts WHERE id = "),
    .bind (.int id)]

def updateAt (id : Int) (version : Int32) (title content : String) : Statement :=
  [.text "UPDATE posts SET title = ", .bind (.text title), .text ", content = ",
    .bind (.text content), .text ", version = version + 1, updated_at = now() WHERE id = ",
    .bind (.int id), .text " AND version = ", .bind (.int version.toInt),
    .text " RETURNING id, title, content, user_id, tags, version, created_at, updated_at"]

def deleteFrom (id : Int) : Statement :=
  [.text "DELETE FROM posts WHERE id = ", .bind (.int id)]

def insertComment (new : Store.NewComment) : Statement :=
  [.text "WITH inserted AS ( INSERT INTO comments (post_id, user_id, content) VALUES (",
    .bind (.int new.postId), .text ", ", .bind (.int new.userId), .text ", ",
    .bind (.text new.content),
    .text (") RETURNING id, post_id, user_id, content, created_at ) " ++
      "SELECT i.id, i.post_id, i.user_id, i.content, i.created_at, u.username " ++
      "FROM inserted i JOIN users u ON u.id = i.user_id")]

def selectComments (postId : Int) : Statement :=
  [.text ("SELECT c.id, c.post_id, c.user_id, c.content, c.created_at, u.username " ++
      "FROM comments c JOIN users u ON u.id = c.user_id WHERE c.post_id = "),
    .bind (.int postId),
    .text " ORDER BY c.created_at DESC, c.id DESC"]

def insertFollow (follower followed : Int) : Statement :=
  [.text "INSERT INTO followers (user_id, follower_id) VALUES (", .bind (.int followed),
    .text ", ", .bind (.int follower), .text ")"]

def deleteFollow (follower followed : Int) : Statement :=
  [.text "DELETE FROM followers WHERE user_id = ", .bind (.int followed),
    .text " AND follower_id = ", .bind (.int follower)]

/-! ## Operations -/

def user? (id : Int) : Dialogue (Option User) := do
  ofRow? userOfRow (← Dialogue.firstRow? (selectUser id))

def role? (name : String) : Dialogue (Option Role) := do
  ofRow? roleOfRow (← Dialogue.firstRow? (selectRole name))

def createPost (new : Store.NewPost) : Dialogue Post := do
  postOfRow (← Dialogue.firstRow (insertPost new))

def post? (id : Int) : Dialogue (Option Post) := do
  ofRow? postOfRow (← Dialogue.firstRow? (selectPost id))

/-- Gives a post a title and a content, provided it still has the named version. -/
def updatePost (id : Int) (version : Int32) (title content : String) : Dialogue Post := do
  match ← Dialogue.firstRow? (updateAt id version title content) with
  | some row => postOfRow row
  | none => throw .absent

def deletePost (id : Int) : Dialogue Unit := Dialogue.change (deleteFrom id)

def feed (reader : Int) (q : Feed.Query) : Dialogue (List FeedItem) := do
  (← Dialogue.rows (q.statement reader)).mapM feedItemOfRow

def createComment (new : Store.NewComment) : Dialogue Comment := do
  commentOfRow (← Dialogue.firstRow (insertComment new))

def commentsOf (postId : Int) : Dialogue (List Comment) := do
  (← Dialogue.rows (selectComments postId)).mapM commentOfRow

def follow (follower followed : Int) : Dialogue Unit := do
  let _ ← Dialogue.changed (insertFollow follower followed)

def unfollow (follower followed : Int) : Dialogue Unit :=
  Dialogue.change (deleteFollow follower followed)

end Agora.Social.Database
