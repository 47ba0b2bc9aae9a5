import Agora.Social.People
import Agora.Social.Posts

/-!
# Operations

Everything that the service does for a caller, as data: which operation, with what arguments, and
what it answers.
-/

namespace Agora.Social

/-- What a caller can ask for. -/
inductive Operation where
  | create (draft : PostDraft)
  | get (id : Int)
  | update (id : Int) (edit : PostEdit)
  | delete (id : Int)
  | comment (id : Int) (draft : CommentDraft)
  | follow (id : Int)
  | unfollow (id : Int)
  | profile (id : Int)
  | feed (params : Feed.Params)
deriving DecidableEq

/-- What an operation answers. -/
inductive Answer where
  | post (post : Post)
  | thread (thread : Thread)
  | comment (comment : Comment)
  | user (user : User)
  | feed (items : List FeedItem)
  | done
deriving DecidableEq

def Answer.toJson : Answer → Json
  | .post p => p.toJson
  | .thread t => t.toJson
  | .comment c => c.toJson
  | .user u => u.toJson
  | .feed items => .arr (items.map FeedItem.toJson)
  | .done => .null

/-- Does what the caller asks for. -/
def Operation.run (caller : User) : Operation → Action ServiceError Answer
  | .create draft => do return .post (← createPost caller draft)
  | .get id => do return .thread (← getPost id)
  | .update id edit => do return .post (← updatePost caller id edit)
  | .delete id => do
    deletePost caller id
    return .done
  | .comment id draft => do return .comment (← commentPost caller id draft)
  | .follow id => do
    Social.follow caller id
    return .done
  | .unfollow id => do
    Social.unfollow caller id
    return .done
  | .profile id => do return .user (← Social.profile id)
  | .feed params => do return .feed (← Social.feed caller params)

end Agora.Social
