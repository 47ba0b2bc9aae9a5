import Agora.Proofs.Decimal.Word
import Agora.Proofs.Http.Paths
import Agora.Proofs.Social.Locking
import Agora.Proofs.Social.Transparency
import Agora.Proofs.Token.Dates

/-!
# The front adds no rules of its own

Main result: `handle_of_asks`. A request of a user with a fresh token does to the tables what the
operation that it asks for does when it is run for the user, and its response shows how the
operation ended; there is none if the operation was given up.

On the way stand the route and the reader of each operation (`reader_of_asks`), the token, which
stands for the user that it was issued for (`subject_of_issued`), and finding that user, after which
the exchange goes on as if nobody had been looked for (`resolve_of_stored`).
-/

namespace Agora.Social

open Agora.Http (Request Response Target)

variable {f : Front} {q : Request} {t : Target} {r : Route} {x : Exchange World Call} {id : Int}
  {u : User} {op : Operation}

/-! ## Requests for operations -/

namespace Operation

def method : Operation → String
  | .create _ | .comment .. => "POST"
  | .get _ | .profile _ | .feed _ => "GET"
  | .update .. => "PATCH"
  | .delete _ => "DELETE"
  | .follow _ | .unfollow _ => "PUT"

/-- The path, in which ids stand in decimal digits. -/
def path : Operation → String
  | .create _ => "/posts"
  | .get id | .update id _ | .delete id => "/posts/" ++ Decimal.text id
  | .comment id _ => "/posts/" ++ Decimal.text id ++ "/comments"
  | .follow id => "/users/" ++ Decimal.text id ++ "/follow"
  | .unfollow id => "/users/" ++ Decimal.text id ++ "/unfollow"
  | .profile id => "/users/" ++ Decimal.text id
  | .feed _ => "/users/feed"

/-- Ids fit into their words. -/
def Fits : Operation → Prop
  | .create _ | .feed _ => True
  | .get id | .update id _ | .delete id | .comment id _ | .follow id | .unfollow id
  | .profile id => Decimal.FitsInt64 id

/-- What does not stand in the path is read from the body or from the query. -/
def IsCarried (q : Request) (t : Target) : Operation → Prop
  | .create draft => q.readBody PostDraft.decode = .ok draft
  | .update _ edit => q.readBody PostEdit.decode = .ok edit
  | .comment _ draft => q.readBody CommentDraft.decode = .ok draft
  | .feed params => Feed.Params.ofPairs? t.pairs = some params
  | .get _ | .delete _ | .follow _ | .unfollow _ | .profile _ => True

/-- The request asks for the operation. -/
structure Asks (op : Operation) (q : Request) (t : Target) : Prop where
  fits : op.Fits
  method : q.method = op.method
  path : t.path = op.path.toList
  carried : op.IsCarried q t

/-- The response that shows how an operation ended; none if it was given up. -/
inductive Shows : Operation → Except (Stop ServiceError) Answer → Option Response → Prop
  | created {draft : PostDraft} (p : Post) :
      Shows (.create draft) (.ok (.post p)) (some ⟨201, some p.toJson⟩)
  | commented {id : Int} {draft : CommentDraft} (c : Comment) :
      Shows (.comment id draft) (.ok (.comment c)) (some ⟨201, some c.toJson⟩)
  | got {id : Int} (thread : Thread) :
      Shows (.get id) (.ok (.thread thread)) (some ⟨200, some thread.toJson⟩)
  | updated {id : Int} {edit : PostEdit} (p : Post) :
      Shows (.update id edit) (.ok (.post p)) (some ⟨200, some p.toJson⟩)
  | profile {id : Int} (u : User) : Shows (.profile id) (.ok (.user u)) (some ⟨200, some u.toJson⟩)
  | feed {params : Feed.Params} (items : List FeedItem) :
      Shows (.feed params) (.ok (.feed items))
        (some ⟨200, some (.arr (items.map FeedItem.toJson))⟩)
  | deleted {id : Int} : Shows (.delete id) (.ok .done) (some ⟨204, none⟩)
  | followed {id : Int} : Shows (.follow id) (.ok .done) (some ⟨204, none⟩)
  | unfollowed {id : Int} : Shows (.unfollow id) (.ok .done) (some ⟨204, none⟩)
  | failed {op : Operation} (e : ServiceError) :
      Shows op (.error (.refused e)) (some e.response)
  | abandoned {op : Operation} : Shows op (.error .abandoned) none

end Operation

/-- An answer that is given a form has that form. -/
theorem exists_of_form {ε α β : Type} {a : Action ε α} {form : α → β} {x : Exchange World Call}
    {b : β} (h : ((a >>= fun v => pure (form v)) x).1 = .ok b) : ∃ v, b = form v := by
  rw [Agora.Action.bind_run] at h
  split at h
  next v z _ => exact ⟨v, (Except.ok.inj h).symm⟩
  next => cases h

/-- The whole response of a request that does not ask for the head alone. -/
theorem report_of_ne_head {method : String} (h : method ≠ "HEAD")
    (result : Except (Stop ServiceError) Response) : report r method result = match result with
      | .ok response => some response
      | .error (.refused e) => some e.response
      | .error .abandoned => none := by
  have htrim : ∀ response, trimBody r method response = response :=
    fun response => if_neg fun hhead => h hhead.1
  match result with
  | .ok response => exact congrArg some (htrim response)
  | .error (.refused e) => exact congrArg some (htrim e.response)
  | .error .abandoned => rfl

theorem shows_report {method : String} (hmethod : method ≠ "HEAD") (op : Operation) (u : User)
    (x : Exchange World Call) :
    op.Shows (op.run u x).1 (report r method (responseTo op (op.run u x).1)) := by
  rw [report_of_ne_head hmethod]
  cases h : (op.run u x).1 with
  | error stop =>
    cases stop with
    | refused e => exact .failed e
    | abandoned => exact .abandoned
  | ok answer =>
    cases op with
    | create draft =>
      obtain ⟨p, rfl⟩ := exists_of_form h
      exact .created p
    | get id =>
      obtain ⟨thread, rfl⟩ := exists_of_form h
      exact .got thread
    | update id edit =>
      obtain ⟨p, rfl⟩ := exists_of_form h
      exact .updated p
    | delete id =>
      obtain ⟨_, rfl⟩ := exists_of_form h
      exact .deleted
    | comment id draft =>
      obtain ⟨c, rfl⟩ := exists_of_form h
      exact .commented c
    | follow id =>
      obtain ⟨_, rfl⟩ := exists_of_form h
      exact .followed
    | unfollow id =>
      obtain ⟨_, rfl⟩ := exists_of_form h
      exact .unfollowed
    | profile id =>
      obtain ⟨found, rfl⟩ := exists_of_form h
      exact .profile found
    | feed params =>
      obtain ⟨items, rfl⟩ := exists_of_form h
      exact .feed items

/-! ## Routes -/

theorem readId_eq_ok {segment : List Char} :
    readId segment = .ok id ↔
      ∃ cs, Text.Percent.decodeSegment? segment = some cs ∧ Decimal.int64? cs = some id := by
  unfold readId
  cases hdecode : Text.Percent.decodeSegment? segment with
  | none => simp
  | some cs =>
    cases hread : Decimal.int64? cs with
    | none => simp [hread]
    | some n => simp [hread]

theorem readId_ofInt (h : Decimal.FitsInt64 id) : readId (Decimal.ofInt id) = .ok id := by
  have hread := Decimal.int64?_text h
  rw [Decimal.text, String.toList_ofList] at hread
  exact readId_eq_ok.mpr ⟨_, Text.Percent.decodeSegment?_ofInt id, hread⟩

theorem pathId_ofInt (h : Decimal.FitsInt64 id) : pathId (Decimal.ofInt id) = .ok id := by
  unfold pathId
  rw [readId_ofInt h]

/-- The segments of the path of an operation. -/
def Operation.segments : Operation → List (List Char)
  | .create _ => ["posts".toList]
  | .get id | .update id _ | .delete id => ["posts".toList, Decimal.ofInt id]
  | .comment id _ => ["posts".toList, Decimal.ofInt id, "comments".toList]
  | .follow id => ["users".toList, Decimal.ofInt id, "follow".toList]
  | .unfollow id => ["users".toList, Decimal.ofInt id, "unfollow".toList]
  | .profile id => ["users".toList, Decimal.ofInt id]
  | .feed _ => ["users".toList, "feed".toList]

theorem path_toList (op : Operation) : op.path.toList = Target.pathOf op.segments := by
  cases op <;> simp [Operation.path, Operation.segments, Target.pathOf, Decimal.text]

theorem segments_of_operation (ht : t.path = op.path.toList) : t.segments = op.segments := by
  have hplain : ∀ segment ∈ op.segments, '/' ∉ segment := by
    cases op <;> simp [Operation.segments, Decimal.slash_not_mem_ofInt]
  exact Target.segments_of_path (ht.trans (path_toList op)) hplain

/-- The route of an operation. -/
def Operation.route : Operation → Route
  | .create _ => .posts
  | .get id | .update id _ | .delete id => .post (Decimal.ofInt id)
  | .comment id _ => .comments (Decimal.ofInt id)
  | .follow id => .follow (Decimal.ofInt id)
  | .unfollow id => .unfollow (Decimal.ofInt id)
  | .profile id => .user (Decimal.ofInt id)
  | .feed _ => .feed

/-- An id is a segment of its own, and not the one that asks for the feed. -/
theorem text_ne (id : Int) : Decimal.text id ≠ "" ∧ Decimal.text id ≠ "feed" := by
  have hread := Decimal.int?_ofInt id
  constructor
  · intro h
    have hempty : Decimal.ofInt id = [] := by simpa [Decimal.text] using congrArg String.toList h
    rw [hempty] at hread
    cases hread
  · intro h
    have hfeed : Decimal.ofInt id = "feed".toList := by
      simpa [Decimal.text] using congrArg String.toList h
    rw [hfeed] at hread
    cases hread

theorem ofSegments?_segments (op : Operation) : Route.ofSegments? op.segments = some op.route := by
  have hname : ∀ id, String.ofList (Decimal.ofInt id) ≠ "" ∧
      String.ofList (Decimal.ofInt id) ≠ "feed" := text_ne
  unfold Route.ofSegments? Operation.segments Operation.route
  cases op <;> simp [hname]

/-- The path of an operation leads to its route. -/
theorem ofSegments?_of_path (ht : t.path = op.path.toList) :
    Route.ofSegments? t.segments = some op.route := by
  rw [segments_of_operation ht, ofSegments?_segments]

/-- The request for an operation goes to its route, and there the operation is read from it. -/
theorem reader_of_asks (h : op.Asks q t) :
    ∃ reader, op.route.reader? q.method = some reader ∧ reader q t = .ok op := by
  have hcarried := h.carried
  have hfits := h.fits
  rw [h.method]
  cases op with
  | get id | delete id | follow id | unfollow id | profile id =>
    refine ⟨_, rfl, ?_⟩
    rw [pathId_ofInt hfits]
    rfl
  | create draft =>
    refine ⟨_, rfl, ?_⟩
    rw [show q.readBody PostDraft.decode = _ from hcarried]
    rfl
  | update id edit =>
    refine ⟨_, rfl, ?_⟩
    rw [pathId_ofInt hfits, show q.readBody PostEdit.decode = _ from hcarried]
    rfl
  | comment id draft =>
    refine ⟨_, rfl, ?_⟩
    rw [pathId_ofInt hfits, show q.readBody CommentDraft.decode = _ from hcarried]
    rfl
  | feed params =>
    refine ⟨_, rfl, ?_⟩
    rw [show Feed.Params.ofPairs? t.pairs = _ from hcarried]

/-! ## Callers -/

theorem onlyOnCache_of_no_faults (hfaults : x.faults = []) : OnlyOnCache x.faults := by
  rw [hfaults]
  intro fault hfault
  cases hfault

/-- A caller that is in the table is found, and the exchange goes on as if nobody had been looked
for. -/
theorem resolve_of_stored (hcache : x.world.cache = none) (hfaults : x.faults = [])
    (hfree : x.world.poisoned = false) (hu : x.world.store.user? id = some u) :
    ∃ z, resolve id x = (.ok u, z) ∧ Parallel x z := by
  have hx : x.world.Faithful := .of_off hcache
  have honly : OnlyOnCache x.faults := onlyOnCache_of_no_faults hfaults
  cases hresolve : resolve id x with
  | mk found z =>
    obtain ⟨rfl, _⟩ := resolve_of_faithful hx honly hfree hresolve
    obtain ⟨_, hran, _⟩ := timely_resolve id hresolve
    have hworld := resolve_of_off hcache hresolve
    rw [hu]
    refine ⟨z, rfl, ⟨hx, ?_, .of_eq hworld⟩, honly, honly.of_ran hran⟩
    rw [hworld]
    exact hcache

/-- A token that was issued a moment ago stands for the user that it is about. -/
theorem subject_of_issued (f : Front) {now : Time.Instant} (hid : Decimal.FitsInt64 id)
    (hnow : 0 ≤ now.second) {lifetime : UInt64}
    (hlifetime : now.second + lifetime.toNat < UInt64.size) :
    ∃ token, f.tokens.issue now id f.tokens.audience f.tokens.issuer lifetime = .ok token ∧
      ∀ q : Request, q.header? "authorization" = some ("Bearer " ++ token) →
        f.subject now q = .ok id := by
  obtain ⟨second, hsecond⟩ := Token.exists_second hnow
  have hfits : second.toNat + lifetime.toNat < UInt64.size := by omega
  have hsecret : f.tokens.secret = f.tokens.secret := rfl
  obtain ⟨c, hmade, hlives, hissue⟩ := Token.issued_lives hsecret rfl rfl hid hfits
  refine ⟨_, (hissue now hsecond).1, ?_⟩
  intro q hheader
  have hbegun : c.notBefore ≤ second := by
    rw [hmade.notBefore]
    exact UInt64.le_refl _
  have hlive : second ≤ c.expiresAt := by
    rw [UInt64.le_iff_toNat_le, hmade.expiresAt]
    omega
  have hvalid := hlives.valid second hbegun hlive
  rw [← hlives.clock now second hsecond] at hvalid
  exact subject_eq_ok.mpr ⟨_, c, Request.token?_of_genuine hheader (Token.genuine_sign f.tokens c),
    hvalid, hmade.subjectId⟩

/-! ## Requests against operations -/

/-- A request against the operation that it asks for. -/
structure Rendered (f : Front) (q : Request) (t : Target) (op : Operation) (u : User)
    (x : Exchange World Call) : Prop where
  /-- It leaves the same tables. -/
  tables : (f.handle q t x).2.world.store = (op.run u x).2.world.store
  /-- The response shows how the operation ended. -/
  shown : x.world.poisoned = false → op.Shows (op.run u x).1 (f.handle q t x).1
  /-- There is one where no change can break down. -/
  answered : x.world.poisoned = false → x.world.Ready → ∃ a, (f.handle q t x).1 = some a
  /-- On tables that are locked the caller is not found. -/
  locked : x.world.poisoned = true → (f.handle q t x).1 = none

theorem route_ne_health (op : Operation) : op.route ≠ .health := by
  cases op <;> simp [Operation.route]

section

variable (hcache : x.world.cache = none) (hfaults : x.faults = [])

include hcache hfaults

theorem rendered_of_free (hfree : x.world.poisoned = false) (hu : x.world.store.user? id = some u)
    (hasks : op.Asks q t) (hsubject : f.subject x.world.now q = .ok id) :
    Rendered f q t op u x := by
  obtain ⟨z, hresolve, hparallel⟩ := resolve_of_stored hcache hfaults hfree hu
  obtain ⟨reader, hreader, hread⟩ := reader_of_asks hasks
  have hserve : serve op.route q t u z =
      (responseTo op (op.run u z).1, (op.run u z).2) := by
    rw [serve_run, hreader]
    simp only
    rw [hread]
  have hhandle := handle_of_resolve_ok (ofSegments?_of_path hasks.path) (route_ne_health op)
    hsubject hresolve
  -- the operation runs behind the search as it runs alone
  have halone : (op.run u z).1 = (op.run u x).1 ∧
      (op.run u z).2.world.store = (op.run u x).2.world.store := by
    cases hrun : op.run u x with
    | mk r y =>
      cases hrun' : op.run u z with
      | mk r' y' =>
        obtain ⟨hworlds, hresult | ⟨hlocked, _⟩⟩ :=
          (transparent_of_composed (composed_run u op)).alike hparallel hrun hrun'
        · exact ⟨hresult, hworlds.worlds.store⟩
        · rw [hfree] at hlocked
          cases hlocked
  rw [hserve, halone.1] at hhandle
  have hhead : q.method ≠ "HEAD" := by
    rw [hasks.method]
    cases op <;> simp [Operation.method]
  have hshows : op.Shows (op.run u x).1 (f.handle q t x).1 := by
    rw [hhandle]
    exact shows_report hhead op u x
  refine ⟨?tables, fun _ => hshows, fun _ hready => ?answered, fun hlocked => ?locked⟩
  case tables =>
    rw [hhandle]
    exact halone.2
  case answered =>
    cases hrun : op.run u x with
    | mk result y =>
      have hanswered := run_answered hrun hfree hready
      rw [hrun] at hshows
      generalize (f.handle q t x).1 = response at hshows ⊢
      cases hshows with
      | abandoned => exact absurd rfl hanswered
      | _ => exact ⟨_, rfl⟩
  case locked =>
    rw [hfree] at hlocked
    cases hlocked

theorem rendered_of_locked (hlocked : x.world.poisoned = true) (hasks : op.Asks q t)
    (hsubject : f.subject x.world.now q = .ok id) : Rendered f q t op u x := by
  have honly := onlyOnCache_of_no_faults hfaults
  cases hresolve : resolve id x with
  | mk found z =>
    obtain ⟨hworld, hgiven⟩ := resolve_of_locked honly hlocked hresolve
    rw [hgiven hcache] at hresolve
    have hhandle := handle_of_resolve_error (ofSegments?_of_path hasks.path) (route_ne_health op)
      hsubject hresolve
    have hkeeps : x.world.Keeps (op.run u x).2.world := by
      cases hrun : op.run u x with
      | mk r y =>
        exact ((transparent_of_composed (composed_run u op)).idle
          ⟨hlocked, .of_off hcache, honly⟩ hrun).1
    rw [← Bool.not_eq_false] at hlocked
    refine ⟨?_, fun hfree => absurd hfree hlocked, fun hfree => absurd hfree hlocked, fun _ => ?_⟩
    · rw [hhandle, hworld, hkeeps.store]
    · rw [hhandle]
      rfl

end

/-- A request of a caller whose token was just issued does what the operation does, and its response
shows how the operation ended. -/
theorem handle_of_asks (f : Front) (x : Exchange World Call) (u : User) (lifetime : UInt64)
    (hcache : x.world.cache = none) (hfaults : x.faults = [])
    (hunique : (x.world.store.users.map (·.id)).Nodup) (hu : u ∈ x.world.store.users)
    (hid : Decimal.FitsInt64 u.id) (hnow : 0 ≤ x.world.now.second)
    (hlifetime : x.world.now.second + lifetime.toNat < UInt64.size) :
    ∃ token, f.tokens.issue x.world.now u.id f.tokens.audience f.tokens.issuer lifetime =
        .ok token ∧
      ∀ (op : Operation) (q : Request) (t : Target), op.Asks q t →
        q.header? "authorization" = some ("Bearer " ++ token) → Rendered f q t op u x := by
  obtain ⟨token, htoken, hsubject⟩ := subject_of_issued f hid hnow hlifetime
  refine ⟨token, htoken, ?_⟩
  intro op q t hasks hheader
  have hsubject := hsubject q hheader
  obtain hlocked | hfree := Bool.eq_false_or_eq_true x.world.poisoned
  · exact rendered_of_locked hcache hfaults hlocked hasks hsubject
  · exact rendered_of_free hcache hfaults hfree (Store.user?_of_mem_of_nodup hunique hu) hasks
      hsubject

/-! ## One request -/

theorem isInstant_epoch : Time.IsInstant 0 0 := by decide

theorem isInstant_sample : Time.IsInstant 1700000000 0 := by decide

def loneUser : User where
  id := 101
  username := "ada"
  email := "ada@example.com"
  createdAt := ⟨0, 0, isInstant_epoch⟩
  isActive := true
  role := { id := 1, name := "user", level := 1, description := "" }

/-- Tables with one user, in the year 2023. -/
def loneExchange : Exchange World Call where
  world := {
    store := { roles := Store.seededRoles, users := [loneUser], lastId := 101 }
    cache := none
    now := ⟨1700000000, 0, isInstant_sample⟩ }
  deadline := some 10000

def loneFront : Front where
  tokens := Token.sampleService 3600

def loneDraft : PostDraft where
  title := "A title"
  content := "Some content"
  tags := ["lean"]

def loneBody : String :=
  "\x7b\"title\":\"A title\",\"content\":\"Some content\",\"tags\":[\"lean\"]\x7d"

/-- A request for a post of the draft. -/
def loneRequest (token : String) : Request where
  method := "POST"
  target := "/posts"
  headers := [("Authorization", "Bearer " ++ token), ("Content-Type", "application/json")]
  body := loneBody

theorem asks_loneRequest (token : String) :
    Operation.Asks (.create loneDraft) (loneRequest token) ⟨"/posts".toList, []⟩ := by
  have hjson : (loneRequest token).header? "content-type" = some "application/json" :=
    (Request.header?_of_rest rfl (by decide)).trans (Request.header?_of_first rfl (by decide))
  have hdecoded : PostDraft.decode (Json.Scan.firstOf loneBody) = .ok loneDraft := by rfl
  refine ⟨trivial, rfl, rfl, ?_⟩
  show Request.readBody PostDraft.decode (loneRequest token) = .ok loneDraft
  unfold Request.readBody
  rw [hjson, show (loneRequest token).body = loneBody from rfl, hdecoded]
  rfl

/-- The post is made, and the response says so. -/
theorem handle_of_asks_loneRequest :
    ∃ token response, loneFront.tokens.issue loneExchange.world.now 101 "social" "social" 3600 =
        .ok token ∧
      (loneFront.handle (loneRequest token) ⟨"/posts".toList, []⟩ loneExchange).1 =
        some response ∧
      Operation.Shows (.create loneDraft) ((Operation.create loneDraft).run loneUser loneExchange).1
        (some response) ∧ response.status = 201 := by
  obtain ⟨token, htoken, hrequests⟩ := handle_of_asks loneFront loneExchange loneUser 3600 rfl rfl
    (by decide) List.mem_cons_self (by decide) (by decide) (by decide)
  have hrendered := hrequests _ _ _ (asks_loneRequest token)
    (Request.header?_of_first rfl (by decide))
  obtain ⟨response, hresponse⟩ := hrendered.answered rfl ⟨by decide, List.forall_mem_nil _⟩
  have hshows := hrendered.shown rfl
  rw [hresponse] at hshows
  have hmade : ∃ p, ((Operation.create loneDraft).run loneUser loneExchange).1 = .ok (.post p) :=
    ⟨_, rfl⟩
  refine ⟨token, response, htoken, hresponse, hshows, ?_⟩
  obtain ⟨p, hp⟩ := hmade
  rw [hp] at hshows
  cases hshows
  rfl

end Agora.Social
