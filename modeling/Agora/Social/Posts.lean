import Agora.Social.Access

/-!
# Posts and comments

Every change of a post first loads the post and asks whether the caller may change it. A change of
title or content is in two parts: it is prepared from the post as loaded, and then committed in one
step, which succeeds only if the post still has the version that the change was made for.
-/

namespace Agora.Social

/-- The most characters of a title. -/
def longestTitle : Nat := 100

/-- The most characters of a post or a comment. -/
def longestContent : Nat := 1000

/-- A text has to have something but blanks in it, and not too many characters. -/
def checkText (field text : String) (longest : Nat) : Except ServiceError Unit :=
  if (Text.trim text.toList).isEmpty then .error (.validation (field ++ " is required"))
  else if longest < text.length then
    .error (.validation
      (field ++ " must be at most " ++ Decimal.text longest ++ " characters long"))
  else .ok ()

def checkTitle (title : String) : Except ServiceError Unit := checkText "title" title longestTitle

def checkContent (content : String) : Except ServiceError Unit :=
  checkText "content" content longestContent

def postNotFound (id : Int) : ServiceError :=
  .notFound ("post " ++ Decimal.text id ++ " not found")

/-- The post with an id. -/
def loadPost (id : Int) : Action ServiceError Post := do
  let found ← (Agora.Action.lookup (Call.postById id)
    fun w => w.tables?.map (·.post? id)).mapError ServiceError.ofFailure
  match found with
  | some p => return p
  | none => .refuse (postNotFound id)

/-- Goes on only if the caller owns the post or has a role that is high enough. -/
def guardPost (caller : User) (p : Post) (roleName : String) : Action ServiceError Unit := do
  if ← (authorize caller p.userId roleName).mapError ServiceError.ofAccess then return ()
  else .refuse .forbidden

/-- Makes a post of the caller. -/
def createPost (caller : User) (draft : PostDraft) : Action ServiceError Post := do
  .ofExcept (checkTitle draft.title)
  .ofExcept (checkContent draft.content)
  let new : Store.NewPost := {
    userId := caller.id, title := draft.title, content := draft.content,
    tags := Tag.clean draft.tags }
  (Agora.Action.write (Call.createPost new)
    fun w => w.onStore fun s => s.createPost w.now new).mapError ServiceError.ofFailure

/-- A post with its comments. -/
def getPost (id : Int) : Action ServiceError Thread := do
  let post ← loadPost id
  let comments ← (Agora.Action.read (Call.commentsByPost id)
    fun w => w.tables?.map (·.commentsOf id)).mapError ServiceError.ofFailure
  return { post, comments }

/-- What is written when a change of a post is committed. -/
structure Commit where
  id : Int
  version : Int32
  title : String
  content : String
deriving DecidableEq

/-- The commit for a post as it was loaded. What the change does not mention is written back as it
was. -/
def Commit.ofEdit (p : Post) (edit : PostEdit) : Except ServiceError Commit := do
  if let some title := edit.title then checkTitle title
  if let some content := edit.content then checkContent content
  return { id := p.id, version := edit.version, title := edit.title.getD p.title,
           content := edit.content.getD p.content }

/-- Loads a post and prepares a change of it. -/
def prepareEdit (caller : User) (id : Int) (edit : PostEdit) : Action ServiceError Commit := do
  let p ← loadPost id
  guardPost caller p editRole
  .ofExcept (Commit.ofEdit p edit)

/-- A commit that finds no post of its id and version came too late. -/
def Commit.error (id : Int) : Failure → ServiceError
  | .cancelled => .cancelled
  | .store .notFound =>
    .conflict ("post " ++ Decimal.text id ++ " was modified concurrently")
  | .store error => .store error

/-- Writes a prepared change. -/
def Commit.run (c : Commit) : Action ServiceError Post :=
  (Agora.Action.write (Call.updatePost c.id c.version c.title c.content)
    fun w => w.onStore fun s => s.updatePost w.now c.id c.version c.title c.content).mapError
      (Commit.error c.id)

/-- Changes a post. -/
def updatePost (caller : User) (id : Int) (edit : PostEdit) : Action ServiceError Post := do
  (← prepareEdit caller id edit).run

/-- Removes a post with its comments. -/
def deletePost (caller : User) (id : Int) : Action ServiceError Unit := do
  let p ← loadPost id
  guardPost caller p deleteRole
  (Agora.Action.write (Call.deletePost id)
    fun w => w.onStore fun s => s.deletePost id).mapError fun
      | .store .notFound => postNotFound id
      | failure => .ofFailure failure

/-- Adds a comment of the caller to a post. -/
def commentPost (caller : User) (id : Int) (draft : CommentDraft) :
    Action ServiceError Comment := do
  let p ← loadPost id
  guardPost caller p commentRole
  .ofExcept (checkContent draft.content)
  let new : Store.NewComment := { postId := id, userId := caller.id, content := draft.content }
  (Agora.Action.write (Call.createComment new)
    fun w => w.onStore fun s => s.createComment w.now new).mapError ServiceError.ofFailure

end Agora.Social
