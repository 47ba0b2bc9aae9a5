import Agora.Social.Operation

/-!
# Operations that overlap

The service works on many operations at once, and between two calls of one of them the others may
make theirs. An operation that changes a table does so with its last call. It therefore has two
halves: it is prepared, which only reads, asks and checks, and it is finished, at any later time and
on whatever the tables have become by then. The calls of one half are taken together: what they read
after the first is either no part of what is written, or the roles, which never change.

A `Hub` is the world together with the operations that were prepared and are not finished yet, and
with a record of those that are. Nothing stalls in it and no call fails but by what the tables
refuse, so that no deadline matters. An operation that breaks down is not answered; its record says
so, and what it left.
-/

namespace Agora.Social

/-- What is left to do of an operation that was prepared: nothing but to answer, or one call. -/
inductive Plan where
  | reply (answer : Answer)
  | createPost (new : Store.NewPost)
  | commit (c : Commit)
  | deletePost (id : Int)
  | createComment (new : Store.NewComment)
  | follow (follower followed : Int)
  | unfollow (follower followed : Int)

/-- The first half of an operation. -/
def Operation.prepare (caller : User) : Operation → Action ServiceError Plan
  | .create draft => do
    .ofExcept (checkTitle draft.title)
    .ofExcept (checkContent draft.content)
    return .createPost {
      userId := caller.id, title := draft.title, content := draft.content,
      tags := Tag.clean draft.tags }
  | .get id => do return .reply (.thread (← getPost id))
  | .update id edit => do return .commit (← prepareEdit caller id edit)
  | .delete id => do
    let p ← loadPost id
    guardPost caller p deleteRole
    return .deletePost id
  | .comment id draft => do
    let p ← loadPost id
    guardPost caller p commentRole
    .ofExcept (checkContent draft.content)
    return .createComment { postId := id, userId := caller.id, content := draft.content }
  | .follow id => do
    if caller.id = id then .refuse (.validation "cannot follow yourself")
    else return .follow caller.id id
  | .unfollow id => return .unfollow caller.id id
  | .profile id => do return .reply (.user (← Social.profile id))
  | .feed params => do return .reply (.feed (← Social.feed caller params))

/-- The second half. -/
def Plan.finish : Plan → Action ServiceError Answer
  | .reply answer => return answer
  | .createPost new => do
    return .post (← (Agora.Action.write (Call.createPost new)
      fun w => w.onStore fun s => s.createPost w.now new).mapError ServiceError.ofFailure)
  | .commit c => do return .post (← c.run)
  | .deletePost id => do
    (Agora.Action.write (Call.deletePost id)
      fun w => w.onStore fun s => s.deletePost id).mapError fun
        | .store .notFound => postNotFound id
        | failure => .ofFailure failure
    return .done
  | .createComment new => do
    return .comment (← (Agora.Action.write (Call.createComment new)
      fun w => w.onStore fun s => s.createComment w.now new).mapError ServiceError.ofFailure)
  | .follow follower followed => do
    (Agora.Action.write (Call.follow follower followed)
      fun w => w.onStore fun s => s.follow follower followed).mapError fun
        | .store (.uniqueViolation _) =>
          .conflict ("already following user " ++ Decimal.text followed)
        | .store (.foreignKeyViolation _) => .notFound (userNotFound followed)
        | failure => .ofFailure failure
    return .done
  | .unfollow follower followed => do
    (Agora.Action.write (Call.unfollow follower followed)
      fun w => w.onStore fun s => s.unfollow follower followed).mapError fun
        | .store .notFound => .notFound ("not following user " ++ Decimal.text followed)
        | failure => .ofFailure failure
    return .done

/-- An operation between its halves, with the tables that it was prepared on. -/
structure Job where
  caller : User
  op : Operation
  plan : Plan
  loaded : Store

/-- How an operation was finished: on which tables, with what result, and what it left. -/
structure Closing where
  job : Job
  before : Store
  result : Except (Stop ServiceError) Answer
  after : Store

structure Hub where
  world : World
  /-- What is under way, in the order in which it was prepared. -/
  jobs : List Job := []
  /-- What is finished, in the order in which it was. -/
  closings : List Closing := []

/-- What happens next: a user or a post is put into the tables from outside, the clock moves, or one
half of some operation is done. -/
inductive Event where
  | addUser (username roleName : String)
  | addPost (new : Store.NewPost) (time : Time.Instant)
  | setClock (now : Time.Instant)
  | prepare (caller : User) (op : Operation)
  | finish (index : Nat)

namespace Hub

/-- Seeded tables, and nothing under way. -/
def start (cache : Option (List (Int × User))) (now : Time.Instant) : Hub where
  world := { store := .seeded, cache, now }

/-- An exchange in which nothing goes wrong by itself. -/
def calm (w : World) : Exchange World Call where
  world := w
  deadline := none

/-- The hub after a change of the tables from outside. -/
def plant {α : Type} (h : Hub) (change : Store → Ending Store Empty α) : Hub :=
  match h.world.onStore change with
  | .ok (_, world) | .broken world => { h with world }

def step (h : Hub) : Event → Hub
  | .addUser username roleName =>
    h.plant fun s => s.addUser h.world.now username roleName
  | .addPost new time => h.plant fun s => .ok (s.addPost new time)
  | .setClock now => { h with world := { h.world with now } }
  | .prepare caller op =>
    match op.prepare caller (calm h.world) with
    | (.ok plan, x) =>
      { h with world := x.world, jobs := h.jobs ++ [{ caller, op, plan, loaded := h.world.store }] }
    | (.error _, x) => { h with world := x.world }
  | .finish index =>
    match h.jobs[index]? with
    | none => h
    | some job =>
      -- on the tables as they are now, not as the job found them
      let (result, x) := job.plan.finish (calm h.world)
      { world := x.world
        jobs := h.jobs.eraseIdx index
        closings := h.closings ++ [⟨job, h.world.store, result, x.world.store⟩] }

def run (h : Hub) (events : List Event) : Hub := events.foldl step h

end Hub

end Agora.Social
