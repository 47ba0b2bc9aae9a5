import Agora.Post
import Agora.Proofs.Json.Numbers
import Agora.Proofs.Json.Values
import Agora.User

/-!
# Records come back from their text

For each record there are the values that its text holds (`values`), the statement that they are of
the types that its fields ask for (`Fits.suits`), and the result that the record is had back from
its document (`decode_toJson`). All numbers of a record have to fit into their words; nothing is
asked of its strings and instants.

`records_readBack` goes on from documents to their texts.
-/

namespace Agora

open Json (Decoder Scan toScan toScans)
open Json.Decoder (Suits check_of instant_text int32_ofInt int64_ofInt items_strings membersOf
  named_membersOf record_membersOf required word32_ofInt)

/-! ## Roles and users -/

namespace Role

/-- The numbers of a role fit into their words. -/
structure Fits (r : Role) : Prop where
  id : Decimal.FitsInt64 r.id
  level : Decimal.FitsInt32 r.level

def values (r : Role) : List (String × Scan) :=
  [("id", .num (Decimal.ofInt r.id)), ("name", .str (some r.name)),
    ("level", .num (Decimal.ofInt r.level)), ("description", .str (some r.description))]

theorem Fits.suits {r : Role} (h : r.Fits) : Suits fields r.values :=
  ⟨rfl, check_of (int64_ofInt h.id), rfl, check_of rfl, rfl, check_of (int32_ofInt h.level), rfl,
    check_of rfl, trivial⟩

theorem decode_toJson {r : Role} (h : r.Fits) : decode r.toJson.toScan = .ok r := by
  have hread : Decoder.record fields r.toJson.toScan = .ok r.values :=
    record_membersOf (by decide) h.suits
  have hid : required r.values "id" .int64 = .ok r.id := int64_ofInt h.id
  have hlevel : required r.values "level" .int32 = .ok r.level := int32_ofInt h.level
  rw [decode, hread]
  show ofValues r.values = .ok r
  unfold ofValues
  rw [hid, hlevel]
  rfl

end Role

namespace User

/-- The numbers of a user and of its role fit into their words. -/
structure Fits (u : User) : Prop where
  id : Decimal.FitsInt64 u.id
  role : u.role.Fits

def values (u : User) : List (String × Scan) :=
  [("id", .num (Decimal.ofInt u.id)), ("username", .str (some u.username)),
    ("email", .str (some u.email)), ("created_at", .str (some u.createdAt.text)),
    ("is_active", .bool u.isActive), ("role", u.role.toJson.toScan)]

theorem Fits.suits {u : User} (h : u.Fits) : Suits fields u.values :=
  ⟨rfl, check_of (int64_ofInt h.id), rfl, check_of rfl, rfl, check_of rfl, rfl,
    check_of (instant_text u.createdAt), rfl, check_of rfl, rfl,
    check_of (Role.decode_toJson h.role), trivial⟩

theorem decode_toJson {u : User} (h : u.Fits) : decode u.toJson.toScan = .ok u := by
  have hread : Decoder.record fields u.toJson.toScan = .ok u.values :=
    record_membersOf (by decide) h.suits
  have hid : required u.values "id" .int64 = .ok u.id := int64_ofInt h.id
  have hcreated : required u.values "created_at" .instant = .ok u.createdAt :=
    instant_text u.createdAt
  have hrole : required u.values "role" Role.decode = .ok u.role := Role.decode_toJson h.role
  rw [decode, hread]
  show ofValues u.values = .ok u
  unfold ofValues
  rw [hid, hcreated, hrole]
  rfl

end User

/-! ## Comments and posts -/

namespace Comment

/-- The ids of a comment fit into their words. -/
structure Fits (c : Comment) : Prop where
  id : Decimal.FitsInt64 c.id
  postId : Decimal.FitsInt64 c.postId
  userId : Decimal.FitsInt64 c.userId

def values (c : Comment) : List (String × Scan) :=
  [("id", .num (Decimal.ofInt c.id)), ("post_id", .num (Decimal.ofInt c.postId)),
    ("user_id", .num (Decimal.ofInt c.userId)), ("username", .str (some c.username)),
    ("content", .str (some c.content)), ("created_at", .str (some c.createdAt.text))]

theorem Fits.suits {c : Comment} (h : c.Fits) : Suits fields c.values :=
  ⟨rfl, check_of (int64_ofInt h.id), rfl, check_of (int64_ofInt h.postId), rfl,
    check_of (int64_ofInt h.userId), rfl, check_of rfl, rfl, check_of rfl, rfl,
    check_of (instant_text c.createdAt), trivial⟩

theorem decode_toJson {c : Comment} (h : c.Fits) : decode c.toJson.toScan = .ok c := by
  have hread : Decoder.record fields c.toJson.toScan = .ok c.values :=
    record_membersOf (by decide) h.suits
  have hid : required c.values "id" .int64 = .ok c.id := int64_ofInt h.id
  have hpost : required c.values "post_id" .int64 = .ok c.postId := int64_ofInt h.postId
  have huser : required c.values "user_id" .int64 = .ok c.userId := int64_ofInt h.userId
  have hcreated : required c.values "created_at" .instant = .ok c.createdAt :=
    instant_text c.createdAt
  rw [decode, hread]
  show ofValues c.values = .ok c
  unfold ofValues
  rw [hid, hpost, huser, hcreated]
  rfl

end Comment

namespace Post

/-- The ids of a post fit into their words. -/
structure Fits (p : Post) : Prop where
  id : Decimal.FitsInt64 p.id
  userId : Decimal.FitsInt64 p.userId

def values (p : Post) : List (String × Scan) :=
  [("id", .num (Decimal.ofInt p.id)), ("title", .str (some p.title)),
    ("content", .str (some p.content)), ("user_id", .num (Decimal.ofInt p.userId)),
    ("tags", .arr (toScans (p.tags.map .str))), ("version", .num (Decimal.ofInt p.version.toInt)),
    ("created_at", .str (some p.createdAt.text)), ("updated_at", .str (some p.updatedAt.text))]

theorem Fits.suits {p : Post} (h : p.Fits) : Suits fields p.values :=
  ⟨rfl, check_of (int64_ofInt h.id), rfl, check_of rfl, rfl, check_of rfl, rfl,
    check_of (int64_ofInt h.userId), rfl, check_of (items_strings p.tags), rfl,
    check_of (word32_ofInt p.version), rfl, check_of (instant_text p.createdAt), rfl,
    check_of (instant_text p.updatedAt), trivial⟩

/-- A post is had from its values, whatever stands behind them. -/
theorem ofValues_append {p : Post} (h : p.Fits) (more : List (String × Scan)) :
    ofValues (p.values ++ more) = .ok p := by
  have hid : required (p.values ++ more) "id" .int64 = .ok p.id := int64_ofInt h.id
  have huser : required (p.values ++ more) "user_id" .int64 = .ok p.userId := int64_ofInt h.userId
  have htags : required (p.values ++ more) "tags" (.list .string) = .ok p.tags :=
    items_strings p.tags
  have hversion : required (p.values ++ more) "version" .word32 = .ok p.version :=
    word32_ofInt p.version
  have hcreated : required (p.values ++ more) "created_at" .instant = .ok p.createdAt :=
    instant_text p.createdAt
  have hupdated : required (p.values ++ more) "updated_at" .instant = .ok p.updatedAt :=
    instant_text p.updatedAt
  unfold ofValues
  rw [hid, huser, htags, hversion, hcreated, hupdated]
  rfl

theorem decode_toJson {p : Post} (h : p.Fits) : decode p.toJson.toScan = .ok p := by
  have hread : Decoder.record fields p.toJson.toScan = .ok p.values :=
    record_membersOf (by decide) h.suits
  have hpost := ofValues_append h []
  rw [List.append_nil] at hpost
  rw [decode, hread]
  exact hpost

end Post

/-! ## Items of a feed -/

namespace Author

def values (a : Author) : List (String × Scan) :=
  [("username", .str (some a.username)), ("email", .str (some a.email))]

theorem decode_toJson (a : Author) : decode a.toJson.toScan = .ok a := by
  have hsuits : Suits fields a.values := ⟨rfl, check_of rfl, rfl, check_of rfl, trivial⟩
  have hread : Decoder.record fields a.toJson.toScan = .ok a.values :=
    record_membersOf (by decide) hsuits
  rw [decode, hread]
  rfl

end Author

namespace FeedItem

/-- The numbers of an item fit into their words. -/
structure Fits (i : FeedItem) : Prop where
  post : i.post.Fits
  commentsCount : Decimal.FitsInt64 i.commentsCount

/-- What stands beside the values of the post. -/
def ownValues (i : FeedItem) : List (String × Scan) :=
  [("comments_count", .num (Decimal.ofInt i.commentsCount)), ("user", i.author.toJson.toScan)]

theorem Fits.suits {i : FeedItem} (h : i.Fits) :
    Suits (Post.fields ++ ownFields) (i.post.values ++ i.ownValues) :=
  h.post.suits.append ⟨rfl, check_of (int64_ofInt h.commentsCount), rfl,
    check_of (Author.decode_toJson i.author), trivial⟩

theorem areReadable_strings (depth : Nat) (texts : List String) :
    Scan.areReadable depth (toScans (texts.map .str)) = true := by
  induction texts with
  | nil => simp [toScans, Scan.areReadable]
  | cons text rest ih => simp [toScans, toScan, Scan.areReadable, Scan.isReadable, ih]

theorem isOutOfRange_of_fits {n : Int} (h : Decimal.FitsInt64 n) :
    Json.Number.isOutOfRange (Decimal.ofInt n) = false := by
  obtain ⟨hlow, hhigh⟩ := h
  exact Json.Number.isOutOfRange_ofInt (by omega)

/-- All that is written of a post can be kept until the other fields are known. -/
theorem all_isKept {i : FeedItem} (h : i.Fits) :
    (membersOf (i.post.values ++ i.ownValues)).all isKept = true := by
  have hid := isOutOfRange_of_fits h.post.id
  have huser := isOutOfRange_of_fits h.post.userId
  have hversion := isOutOfRange_of_fits (Decimal.fitsInt32_toInt i.post.version).fitsInt64
  simp [membersOf, Post.values, ownValues, isKept, ownFields, Decoder.Field.of, hid, huser,
    hversion, Scan.isReadable, areReadable_strings]

theorem decode_toJson {i : FeedItem} (h : i.Fits) : decode i.toJson.toScan = .ok i := by
  have hscan : i.toJson.toScan = .obj (membersOf (i.post.values ++ i.ownValues)) := rfl
  have hread : Decoder.named (ownFields ++ Post.fields) []
      (membersOf (i.post.values ++ i.ownValues)) = .ok (i.post.values ++ i.ownValues) :=
    named_membersOf (by decide) (by decide) (by simp [or_comm]) h.suits (by simp)
  have hcount : required (i.post.values ++ i.ownValues) "comments_count" .int64 =
      .ok i.commentsCount := int64_ofInt h.commentsCount
  have hauthor : required (i.post.values ++ i.ownValues) "user" Author.decode = .ok i.author :=
    Author.decode_toJson i.author
  rw [hscan, decode, if_pos (all_isKept h), hread]
  simp only [bind, Except.bind]
  rw [Post.ofValues_append h.post, hcount, hauthor]
  rfl

end FeedItem

/-! ## Texts -/

/-- From the text that is written of a value nothing is read but the value. -/
def ReadsBack {α : Type} (write : α → Json) (decode : Decoder α) (a : α) : Prop :=
  decode (Scan.ofText (write a).text) = .ok a

theorem readsBack {α : Type} {write : α → Json} {decode : Decoder α} {a : α}
    (h : decode (write a).toScan = .ok a) : ReadsBack write decode a := by
  unfold ReadsBack Scan.ofText Json.text
  rw [String.toList_ofList, Scan.whole_render]
  exact h

/-- Users, roles, posts, comments and the items of feeds all come back from their texts. -/
theorem records_readBack :
    (∀ u : User, u.Fits → ReadsBack User.toJson User.decode u) ∧
      (∀ r : Role, r.Fits → ReadsBack Role.toJson Role.decode r) ∧
      (∀ p : Post, p.Fits → ReadsBack Post.toJson Post.decode p) ∧
      (∀ c : Comment, c.Fits → ReadsBack Comment.toJson Comment.decode c) ∧
      (∀ i : FeedItem, i.Fits → ReadsBack FeedItem.toJson FeedItem.decode i) :=
  ⟨fun _ h => readsBack (User.decode_toJson h), fun _ h => readsBack (Role.decode_toJson h),
    fun _ h => readsBack (Post.decode_toJson h), fun _ h => readsBack (Comment.decode_toJson h),
    fun _ h => readsBack (FeedItem.decode_toJson h)⟩

/-- The leap second at the end of the last year. -/
def lastLeapSecond : Time.Instant := ⟨Time.latestSecond, 1999999999, by decide⟩

/-- One nanosecond into the first year, which lies before the year zero. -/
def afterBeginning : Time.Instant := ⟨Time.earliestSecond, 1, by decide⟩

/-- A user with the least numbers and with characters in its strings that have to be escaped or
that do not fit into 16 bits. -/
def extremeUser : User where
  id := -9223372036854775808
  username := "\"\\\x00\n😀"
  email := ""
  createdAt := lastLeapSecond
  isActive := false
  role := { id := 9223372036854775807, name := "\x1f", level := -2147483648, description := "é" }

/-- A comment whose content is made of characters that may be escaped. -/
def extremeComment : Comment where
  id := -9223372036854775808
  postId := 0
  userId := 9223372036854775807
  username := "\u2028"
  content := "\\\"/\x08"
  createdAt := afterBeginning

/-- An item with the greatest numbers. -/
def extremeItem : FeedItem where
  post := {
    id := 9223372036854775807, title := "😀\\u0000", content := "\x00", userId := -1
    tags := ["", "\"", "]"], version := 2147483647, createdAt := afterBeginning
    updatedAt := lastLeapSecond }
  commentsCount := -9223372036854775808
  author := { username := "\t", email := "\x7f" }

theorem records_readBack_extreme :
    (extremeUser.Fits ∧ ReadsBack User.toJson User.decode extremeUser) ∧
      (extremeUser.role.Fits ∧ ReadsBack Role.toJson Role.decode extremeUser.role) ∧
      (extremeItem.post.Fits ∧ ReadsBack Post.toJson Post.decode extremeItem.post) ∧
      (extremeComment.Fits ∧ ReadsBack Comment.toJson Comment.decode extremeComment) ∧
      (extremeItem.Fits ∧ ReadsBack FeedItem.toJson FeedItem.decode extremeItem) := by
  obtain ⟨husers, hroles, hposts, hcomments, hitems⟩ := records_readBack
  have hrole : extremeUser.role.Fits := ⟨by decide, by decide⟩
  have huser : extremeUser.Fits := ⟨by decide, hrole⟩
  have hpost : extremeItem.post.Fits := ⟨by decide, by decide⟩
  have hcomment : extremeComment.Fits := ⟨by decide, by decide, by decide⟩
  have hitem : extremeItem.Fits := ⟨hpost, by decide⟩
  exact ⟨⟨huser, husers _ huser⟩, ⟨hrole, hroles _ hrole⟩, ⟨hpost, hposts _ hpost⟩,
    ⟨hcomment, hcomments _ hcomment⟩, ⟨hitem, hitems _ hitem⟩⟩

end Agora
