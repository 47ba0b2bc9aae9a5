import Agora.Ending
import Agora.Feed.Query
import Agora.Post
import Agora.Text.LowerCase
import Agora.User

/-!
# The tables

Users, roles, posts, comments and the edges of the follow graph, held as lists in the order in
which their rows were made. Users, posts and comments share one counter for their ids.

An operation that changes the tables gives the new tables together with its answer, or an error, and
then nothing is changed. It may also break down halfway: a clock that stands before 1970 cannot be
read, and the last of all versions has none after it. What was written before that stays written.
-/

namespace Agora

/-- One user follows another. -/
structure Follow where
  follower : Int
  followed : Int
deriving DecidableEq

structure Store where
  roles : List Role
  users : List User := []
  posts : List Post := []
  comments : List Comment := []
  follows : List Follow := []
  /-- The id that was given out last. -/
  lastId : Int := 100
deriving DecidableEq

namespace Store

/-- The roles that are there from the start. -/
def seededRoles : List Role :=
  [⟨1, "user", 1, ""⟩, ⟨2, "moderator", 2, ""⟩, ⟨3, "admin", 3, ""⟩]

/-- Tables with the seeded roles and nothing else. -/
def seeded : Store := { roles := seededRoles }

variable (s : Store)

/-! ## Looking up -/

def user? (id : Int) : Option User := s.users.find? (·.id = id)

def role? (name : String) : Option Role := s.roles.find? (·.name = name)

def post? (id : Int) : Option Post := s.posts.find? (·.id = id)

def isFollowing (follower followed : Int) : Bool := s.follows.contains ⟨follower, followed⟩

/-- Of two rows with times and ids, the earlier one, ids deciding between equal times. -/
def isEarlier (a b : Time.Instant × Int) : Bool :=
  a.1 < b.1 || (a.1 = b.1 && a.2 ≤ b.2)

/-- The comments of a post, the latest first. -/
def commentsOf (postId : Int) : List Comment :=
  (s.comments.filter (·.postId = postId)).mergeSort fun a b =>
    isEarlier (b.createdAt, b.id) (a.createdAt, a.id)

/-! ## The feed -/

/-- The fragment occurs in the text, capitals and small letters being the same. -/
def finds (fragment text : String) : Bool :=
  Text.contains (Text.lower text.toList) (Text.lower fragment.toList)

/-- The post passes all filters of a query. -/
def passes (q : Feed.Query) (p : Post) : Bool :=
  q.search.all (fun fragment => finds fragment p.title || finds fragment p.content) &&
    q.tags.all (fun tag => p.tags.contains tag) &&
    q.earliest.all (fun t => t ≤ p.createdAt) && q.latest.all (fun t => p.createdAt ≤ t)

/-- The post belongs to the reader or to somebody the reader follows. -/
def concerns (reader : Int) (p : Post) : Bool :=
  p.userId = reader || s.isFollowing reader p.userId

/-- The posts that a query asks for, in its order. -/
def selected (reader : Int) (q : Feed.Query) : List Post :=
  let posts := (s.posts.filter fun p => s.concerns reader p && passes q p).mergeSort
    fun a b => isEarlier (a.createdAt, a.id) (b.createdAt, b.id)
  match q.sort with
  | .ascending => posts
  | .descending => posts.reverse

/-- A post with its author and the number of its comments; none without an author. -/
def feedItem? (p : Post) : Option FeedItem :=
  (s.user? p.userId).map fun author => {
    post := p
    commentsCount := (s.comments.filter (·.postId = p.id)).length
    author := ⟨author.username, author.email⟩ }

/-- How many of `length` members a number in a query stands for. A negative one is taken for one
that is greater than any length. -/
def extent (n : Int) (length : Nat) : Nat := if n < 0 then length else n.toNat

/-- The page of the feed that a query asks for. -/
def feed (reader : Int) (q : Feed.Query) : List FeedItem :=
  let posts := s.selected reader q
  ((posts.drop (extent q.offset posts.length)).take (extent q.limit posts.length)).filterMap
    s.feedItem?

/-! ## Changing -/

/-- Takes the next id. -/
def nextId : Int := s.lastId + 1

/-- What a row of posts is made from. -/
structure NewPost where
  userId : Int
  title : String
  content : String
  tags : List String
deriving DecidableEq

/-- What a row of comments is made from. -/
structure NewComment where
  postId : Int
  userId : Int
  content : String
deriving DecidableEq

/-- A post with a time of its own, whoever its author is. -/
def addPost (new : NewPost) (time : Time.Instant) : Post × Store :=
  let p : Post := {
    id := s.nextId, title := new.title, content := new.content, userId := new.userId,
    tags := new.tags, version := 0, createdAt := time, updatedAt := time }
  (p, { s with posts := s.posts ++ [p], lastId := s.nextId })

/-- A post by a user. The clock is read before an id is taken. -/
def createPost (now : Time.Instant) (new : NewPost) : Ending Store StoreError Post :=
  if (s.user? new.userId).isNone then .error (.foreignKeyViolation "posts_user_id_fkey")
  else if now.second < 0 then .broken s
  else .ok (s.addPost new now)

/-- A post with a new title and content. -/
def rewritten (title content : String) (p : Post) : Post := { p with title, content }

/-- A post with a new title and content and the next version. -/
def raised (title content : String) (p : Post) : Post :=
  { p with title, content, version := p.version + 1 }

/-- The same with the time of the change: a post after an update. -/
def revised (now : Time.Instant) (title content : String) (p : Post) : Post :=
  { p with title, content, version := p.version + 1, updatedAt := now }

/-- The list with the first member that has property `p` replaced. -/
def replaceFirst {α : Type} (p : α → Bool) (f : α → α) : List α → List α
  | [] => []
  | a :: rest => if p a then f a :: rest else a :: replaceFirst p f rest

/-- The tables with the post of an id and a version changed. -/
def editPost (id : Int) (version : Int32) (f : Post → Post) : Store :=
  { s with posts := replaceFirst (fun p => p.id = id && p.version = version) f s.posts }

/-- Gives a post a title and a content, provided it still has the named version. Title and content
are written first, then the version, then the time. -/
def updatePost (now : Time.Instant) (id : Int) (version : Int32) (title content : String) :
    Ending Store StoreError Post :=
  match s.posts.find? fun p => p.id = id && p.version = version with
  | none => .error .notFound
  | some p =>
    if p.version = Int32.maxValue then .broken (s.editPost id version (rewritten title content))
    else if now.second < 0 then .broken (s.editPost id version (raised title content))
    else .ok (revised now title content p, s.editPost id version (revised now title content))

/-- Removes a post and its comments. -/
def deletePost (id : Int) : Ending Store StoreError Unit :=
  if s.posts.any (·.id = id) then
    .ok ((), { s with posts := s.posts.filter (·.id ≠ id)
                      comments := s.comments.filter (·.postId ≠ id) })
  else .error .notFound

/-- Takes the next id and nothing else: what is left of a row for which the clock was to be read
after its id was taken. -/
def skipId : Store := { s with lastId := s.nextId }

/-- A comment by somebody of a given name, whoever that is. -/
def addComment {ε : Type} (now : Time.Instant) (new : NewComment) (username : String) :
    Ending Store ε Comment :=
  if now.second < 0 then .broken s.skipId
  else
    let c : Comment := {
      id := s.nextId, postId := new.postId, userId := new.userId, username,
      content := new.content, createdAt := now }
    .ok (c, { s with comments := s.comments ++ [c], lastId := s.nextId })

/-- A comment on a post by a user. -/
def createComment (now : Time.Instant) (new : NewComment) : Ending Store StoreError Comment :=
  if (s.post? new.postId).isNone then .error (.foreignKeyViolation "comments_post_id_fkey")
  else match s.user? new.userId with
    | none => .error (.foreignKeyViolation "comments_user_id_fkey")
    | some author => s.addComment now new author.username

/-- Adds an edge to the graph, whatever is there. -/
def addFollow (follower followed : Int) : Store :=
  { s with follows := s.follows ++ [⟨follower, followed⟩] }

/-- Adds an edge between two users that is not there yet. -/
def follow (follower followed : Int) : Ending Store StoreError Unit :=
  if (s.user? follower).isNone || (s.user? followed).isNone then
    .error (.foreignKeyViolation "followers_user_id_fkey")
  else if s.isFollowing follower followed then .error (.uniqueViolation "followers_pkey")
  else .ok ((), s.addFollow follower followed)

/-- Removes an edge that is there. -/
def unfollow (follower followed : Int) : Ending Store StoreError Unit :=
  if s.isFollowing follower followed then
    .ok ((), { s with follows := s.follows.filter (· ≠ ⟨follower, followed⟩) })
  else .error .notFound

/-! ## Planting -/

/-- An active user with a role of the given name, which has to be there. -/
def addUser (now : Time.Instant) (username roleName : String) : Ending Store Empty User :=
  match s.role? roleName with
  | none => .broken s
  | some role =>
    if now.second < 0 then .broken s.skipId
    else
      let u : User := {
        id := s.nextId, username, email := username ++ "@example.com", createdAt := now,
        isActive := true, role }
      .ok (u, { s with users := s.users ++ [u], lastId := s.nextId })

/-- A comment by a user, who has to be there, on whatever is given. -/
def plantComment (now : Time.Instant) (new : NewComment) : Ending Store Empty Comment :=
  match s.user? new.userId with
  | none => .broken s
  | some author => s.addComment now new author.username

end Store

end Agora
