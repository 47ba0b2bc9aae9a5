import Agora.Json.Decoder
import Agora.Json.Value

/-!
# Posts and comments

A post counts its changes in a version. Comments are never changed. Beside the two stand what is
asked for when one is made or changed (`PostDraft`, `PostEdit`, `CommentDraft`) and the two views
in which posts are shown: with all comments (`Thread`) and as an item of a feed (`FeedItem`), whose
members are those of the post and a few more in the same object.
-/

namespace Agora

open Json (Decoder Defect Scan)

structure Post where
  id : Int
  title : String
  content : String
  userId : Int
  tags : List String
  version : Int32
  createdAt : Time.Instant
  updatedAt : Time.Instant
deriving DecidableEq

namespace Post

def members (p : Post) : List (String × Json) :=
  [("id", .int p.id), ("title", .str p.title), ("content", .str p.content),
    ("user_id", .int p.userId), ("tags", .arr (p.tags.map .str)), ("version", .int p.version.toInt),
    ("created_at", .str p.createdAt.text), ("updated_at", .str p.updatedAt.text)]

def toJson (p : Post) : Json := .obj p.members

def fields : List Decoder.Field :=
  [.of "id" .int64, .of "title" .string, .of "content" .string, .of "user_id" .int64,
    .of "tags" (.list .string), .of "version" .word32, .of "created_at" .instant,
    .of "updated_at" .instant]

def ofValues (values : List (String × Scan)) : Except Defect Post := do
  return {
    id := ← Decoder.required values "id" .int64
    title := ← Decoder.required values "title" .string
    content := ← Decoder.required values "content" .string
    userId := ← Decoder.required values "user_id" .int64
    tags := ← Decoder.required values "tags" (.list .string)
    version := ← Decoder.required values "version" .word32
    createdAt := ← Decoder.required values "created_at" .instant
    updatedAt := ← Decoder.required values "updated_at" .instant }

def decode : Decoder Post := fun scan => do ofValues (← Decoder.record fields scan)

end Post

/-- A comment with the name that its author had when it was written. -/
structure Comment where
  id : Int
  postId : Int
  userId : Int
  username : String
  content : String
  createdAt : Time.Instant
deriving DecidableEq

namespace Comment

def toJson (c : Comment) : Json :=
  .obj [("id", .int c.id), ("post_id", .int c.postId), ("user_id", .int c.userId),
    ("username", .str c.username), ("content", .str c.content),
    ("created_at", .str c.createdAt.text)]

def fields : List Decoder.Field :=
  [.of "id" .int64, .of "post_id" .int64, .of "user_id" .int64, .of "username" .string,
    .of "content" .string, .of "created_at" .instant]

def ofValues (values : List (String × Scan)) : Except Defect Comment := do
  return {
    id := ← Decoder.required values "id" .int64
    postId := ← Decoder.required values "post_id" .int64
    userId := ← Decoder.required values "user_id" .int64
    username := ← Decoder.required values "username" .string
    content := ← Decoder.required values "content" .string
    createdAt := ← Decoder.required values "created_at" .instant }

def decode : Decoder Comment := fun scan => do ofValues (← Decoder.record fields scan)

end Comment

/-- A post with its comments. -/
structure Thread where
  post : Post
  comments : List Comment
deriving DecidableEq

def Thread.toJson (t : Thread) : Json :=
  .obj (t.post.members ++ [("comments", .arr (t.comments.map Comment.toJson))])

/-- What a feed shows of an author. -/
structure Author where
  username : String
  email : String
deriving DecidableEq

namespace Author

def toJson (a : Author) : Json := .obj [("username", .str a.username), ("email", .str a.email)]

def fields : List Decoder.Field := [.of "username" .string, .of "email" .string]

def ofValues (values : List (String × Scan)) : Except Defect Author := do
  return {
    username := ← Decoder.required values "username" .string
    email := ← Decoder.required values "email" .string }

def decode : Decoder Author := fun scan => do ofValues (← Decoder.record fields scan)

end Author

/-- A post as an item of a feed. -/
structure FeedItem where
  post : Post
  commentsCount : Int
  author : Author
deriving DecidableEq

namespace FeedItem

def toJson (i : FeedItem) : Json :=
  .obj (i.post.members ++ [("comments_count", .int i.commentsCount), ("user", i.author.toJson)])

/-- The fields that stand beside those of the post. -/
def ownFields : List Decoder.Field :=
  [.of "comments_count" .int64, .of "user" Author.decode]

/-- A member that is kept until it is known whether the post has a field of that name. Together
with the object itself, 127 arrays and objects may stand in each other. -/
def isKept (member : Option String × Scan) : Bool :=
  match member with
  | (none, _) => false
  | (some name, value) => ownFields.any (·.name == name) || value.isReadable 126

/-- A feed item is always an object, since its members are those of two records. -/
def decode : Decoder FeedItem
  | .obj members => do
    if members.all isKept then
      let values ← Decoder.named (ownFields ++ Post.fields) [] members
      return {
        post := ← Post.ofValues values
        commentsCount := ← Decoder.required values "comments_count" .int64
        author := ← Decoder.required values "user" Author.decode }
    else .error .malformed
  | scan => .error scan.unwanted

end FeedItem

/-- What a new post is made from. -/
structure PostDraft where
  title : String
  content : String
  tags : List String
deriving DecidableEq

namespace PostDraft

def fields : List Decoder.Field :=
  [.of "title" .string, .of "content" .string,
    { Decoder.Field.of "tags" (.list .string) with trailing := true }]

def ofValues (values : List (String × Scan)) : Except Defect PostDraft := do
  return {
    title := ← Decoder.required values "title" .string
    content := ← Decoder.required values "content" .string
    tags := ← Decoder.orElse values "tags" (.list .string) [] }

def decode : Decoder PostDraft := fun scan => do ofValues (← Decoder.record fields scan)

end PostDraft

/-- A change of a post: what is not given stays as it is. The version is the one that the change
was made for. -/
structure PostEdit where
  title : Option String
  content : Option String
  version : Int32
deriving DecidableEq

namespace PostEdit

def fields : List Decoder.Field :=
  [.of "title" (.optional .string), .of "content" (.optional .string), .of "version" .word32]

def ofValues (values : List (String × Scan)) : Except Defect PostEdit := do
  return {
    title := ← Decoder.orElse values "title" (.optional .string) none
    content := ← Decoder.orElse values "content" (.optional .string) none
    version := ← Decoder.required values "version" .word32 }

def decode : Decoder PostEdit := fun scan => do ofValues (← Decoder.record fields scan)

end PostEdit

/-- What a new comment is made from. -/
structure CommentDraft where
  content : String
deriving DecidableEq

namespace CommentDraft

def fields : List Decoder.Field := [.of "content" .string]

def ofValues (values : List (String × Scan)) : Except Defect CommentDraft := do
  return { content := ← Decoder.required values "content" .string }

def decode : Decoder CommentDraft := fun scan => do ofValues (← Decoder.record fields scan)

end CommentDraft

end Agora
