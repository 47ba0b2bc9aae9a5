import Agora.Proofs.Cache.Users
import Agora.Proofs.Decimal.Numeral
import Agora.Proofs.Feed.Query
import Agora.Proofs.Social.Requests

/-!
# Whole numbers are read exactly and come back from what is written

Main result: `integers_exact`. Limit and offset of a feed, the id in a path and the subject of a
token are read from numerals only, as the number that the numeral stands for, and only within the
range of a word of 64 bits. Every word comes back from whatever is written of it: its text, a token
about it, the key of its user in the cache and the path of a request. So different words have
nothing of this in common (`Apart`).
-/

namespace Agora

open Decimal (FitsInt64 IsDigit Numeral int64?)

/-! ## Limit and offset -/

theorem Feed.Params.numberStands_some {absent least most n : Int} {s : String} :
    NumberStands absent least most (some s) n ↔
      s = "" ∧ n = absent ∨ Numeral (Text.trim s.toList) n ∧ least ≤ n ∧ n ≤ most := by
  by_cases hempty : s = ""
  · have habsent : Absent (some s) := Or.inr (congrArg some hempty)
    have hnone : ¬Numeral (Text.trim s.toList) n := by
      intro h
      rw [hempty] at h
      exact h.ne_nil rfl
    rw [NumberStands, habsent.stands_iff, and_iff_right hempty]
    exact (or_iff_left fun h => hnone h.1).symm
  · have hgiven : Given (some s) s := ⟨rfl, hempty⟩
    rw [NumberStands, hgiven.stands_iff]
    exact (or_iff_right fun h => hempty h.1).symm

/-! ## Tokens -/

/-- A token that was issued says whom it was issued about. -/
theorem Token.verify_of_issue {s : Service} {now : Time.Instant} {subject : Int}
    {audience issuer : String} {lifetime : UInt64} {token : String}
    (h : s.issue now subject audience issuer lifetime = .ok token) :
    ∃ c, s.verify token = .ok c ∧ c.subject = Decimal.text subject := by
  unfold Service.issue at h
  split at h
  next => cases h
  next second _ =>
    split at h
    next c hclaims =>
      obtain rfl := Except.ok.inj h
      obtain ⟨_, _, rfl⟩ := Option.map_eq_some_iff.mp hclaims
      exact ⟨_, verify_eq_ok.mpr (genuine_sign s _), rfl⟩
    next => cases h

/-! ## Paths -/

namespace Social

/-- The id in the path of an operation. -/
def Operation.id? : Operation → Option Int
  | .create _ | .feed _ => none
  | .get id | .update id _ | .delete id | .comment id _ | .follow id | .unfollow id
  | .profile id => some id

/-- The segment of a route in which an id stands. -/
def Route.id? : Route → Option (List Char)
  | .health | .posts | .feed => none
  | .post id | .comments id | .user id | .follow id | .unfollow id => some id

theorem id?_route (op : Operation) : op.route.id? = op.id?.map Decimal.ofInt := by
  cases op <;> rfl

end Social

open Social (Operation Route readId)
open Http (Target)

/-! ## Reading -/

/-- What is read as a number. -/
structure IntegersRead : Prop where
  /-- The reader of words takes a sign or none and one or more digits, and refuses what is out of
  range. -/
  reader : ∀ cs k, int64? cs = some k ↔ Numeral cs k ∧ FitsInt64 k
  zeros : ∀ sign, sign ∈ [[], ['+'], ['-']] → ∀ (k : Nat) (ds : List Char), ds ≠ [] →
    (∀ c ∈ ds, IsDigit c) →
      int64? (sign ++ (List.replicate k '0' ++ ds)) = int64? (sign ++ ds)
  /-- An empty text counts as missing. -/
  limit : ∀ (s : String) (n : Int), Feed.Params.readLimit (some s) = .ok n ↔
    s = "" ∧ n = 5 ∨ Numeral (Text.trim s.toList) n ∧ 1 ≤ n ∧ n ≤ 100
  offset : ∀ (s : String) (n : Int), Feed.Params.readOffset (some s) = .ok n ↔
    s = "" ∧ n = 0 ∨ Numeral (Text.trim s.toList) n ∧ 0 ≤ n ∧ FitsInt64 n
  /-- Escapes are replaced before the id is read. -/
  segment : ∀ segment k, readId segment = .ok k ↔
    ∃ cs, Text.Percent.decodeSegment? segment = some cs ∧ Numeral cs k ∧ FitsInt64 k
  subject : ∀ (c : Token.Claims) k, c.subjectId? = some k ↔
    Numeral c.subject.toList k ∧ FitsInt64 k

theorem integersRead : IntegersRead where
  reader := fun _ _ => Decimal.int64?_eq_some
  zeros := fun _ hsign k _ hne hdigits => Decimal.int64?_zeros hsign k hne hdigits
  limit := by
    intro s n
    rw [Feed.Params.readLimit_eq_ok]
    exact Feed.Params.numberStands_some
  offset := by
    intro s n
    have hrange : 0 ≤ n ∧ n ≤ 9223372036854775807 ↔ 0 ≤ n ∧ FitsInt64 n := by
      unfold FitsInt64
      omega
    rw [Feed.Params.readOffset_eq_ok, ← hrange]
    exact Feed.Params.numberStands_some
  segment := by
    intro segment k
    rw [Social.readId_eq_ok]
    simp only [Decimal.int64?_eq_some]
  subject := fun _ _ => Decimal.int64?_eq_some

/-! ## Writing -/

/-- Whatever is written of two words differs. -/
structure Apart (m n : Int64) : Prop where
  text : Decimal.text m.toInt ≠ Decimal.text n.toInt
  token : ∀ (s : Token.Service) (now now' : Time.Instant)
      (audience audience' issuer issuer' : String) (lifetime lifetime' : UInt64) (token : String),
      s.issue now m.toInt audience issuer lifetime = .ok token →
        s.issue now' n.toInt audience' issuer' lifetime' ≠ .ok token
  key : Cache.Users.key m.toInt ≠ Cache.Users.key n.toInt
  path : ∀ op op' : Operation, op.id? = some m.toInt → op'.id? = some n.toInt → op.path ≠ op'.path

/-- What becomes of a word that is written. -/
structure IntegerWritten (n : Int64) : Prop where
  text : int64? (Decimal.text n.toInt).toList = some n.toInt
  /-- From 1970 on a token is issued about it, whose subject it is, if there is a last second. -/
  token : ∀ (s : Token.Service) (now : Time.Instant) (audience issuer : String) (lifetime : UInt64),
    0 ≤ now.second → now.second + lifetime.toNat < UInt64.size → ∃ token c,
      s.issue now n.toInt audience issuer lifetime = .ok token ∧
      s.verify token = .ok c ∧ c.subjectId? = some n.toInt
  key : ∃ cs, (Cache.Users.key n.toInt).toList = "user:".toList ++ cs ∧ int64? cs = some n.toInt
  path : ∀ (op : Operation) (t : Target), op.id? = some n.toInt → t.path = op.path.toList →
    ∃ route segment, Route.ofSegments? t.segments = some route ∧ route.id? = some segment ∧
      readId segment = .ok n.toInt
  apart : ∀ m, m ≠ n → Apart m n

variable {m n : Int64}

theorem int64?_word (n : Int64) : int64? (Decimal.text n.toInt).toList = some n.toInt :=
  Decimal.int64?_text (Decimal.fitsInt64_toInt n)

/-- Every token about a word stands for it. -/
theorem subjectId?_of_issue {s : Token.Service} {now : Time.Instant} {audience issuer : String}
    {lifetime : UInt64} {token : String}
    (h : s.issue now n.toInt audience issuer lifetime = .ok token) :
    ∃ c, s.verify token = .ok c ∧ c.subjectId? = some n.toInt := by
  obtain ⟨c, hverify, hsubject⟩ := Token.verify_of_issue h
  refine ⟨c, hverify, ?_⟩
  rw [Token.Claims.subjectId?, hsubject, int64?_word]

theorem readId_of_path {op : Operation} {t : Target} (hid : op.id? = some n.toInt)
    (ht : t.path = op.path.toList) :
    ∃ route segment, Route.ofSegments? t.segments = some route ∧ route.id? = some segment ∧
      readId segment = .ok n.toInt := by
  refine ⟨op.route, Decimal.ofInt n.toInt, Social.ofSegments?_of_path ht, ?_,
    Social.readId_ofInt (Decimal.fitsInt64_toInt n)⟩
  rw [Social.id?_route, hid, Option.map_some]

/-- What is written is read as one word only. -/
theorem apart_of_ne (h : m ≠ n) : Apart m n where
  text := by
    intro htext
    exact h (Int64.toInt_inj.mp (Decimal.text_inj htext))
  token := by
    intro s now now' audience audience' issuer issuer' lifetime lifetime' token hm hn
    obtain ⟨c, hverify, hc⟩ := subjectId?_of_issue hm
    obtain ⟨c', hverify', hc'⟩ := subjectId?_of_issue hn
    obtain rfl : c = c' := Except.ok.inj (hverify.symm.trans hverify')
    exact h (Int64.toInt_inj.mp (Option.some.inj (hc.symm.trans hc')))
  key := by
    intro hkey
    exact h (Int64.toInt_inj.mp (Cache.Users.key_inj hkey))
  path := by
    intro op op' hm hn hpath
    obtain ⟨route, segment, hroute, hsegment, hread⟩ :=
      readId_of_path (t := ⟨op.path.toList, []⟩) hm rfl
    obtain ⟨route', segment', hroute', hsegment', hread'⟩ :=
      readId_of_path (t := ⟨op.path.toList, []⟩) hn (congrArg String.toList hpath)
    obtain rfl : route = route' := Option.some.inj (hroute.symm.trans hroute')
    obtain rfl : segment = segment' := Option.some.inj (hsegment.symm.trans hsegment')
    exact h (Int64.toInt_inj.mp (Except.ok.inj (hread.symm.trans hread')))

theorem integerWritten (n : Int64) : IntegerWritten n where
  text := int64?_word n
  token := by
    intro s now audience issuer lifetime hnow hlifetime
    obtain ⟨second, hsecond⟩ := Token.exists_second hnow
    have hfits : second.toNat + lifetime.toNat < UInt64.size := by omega
    obtain ⟨c, hclaims⟩ := Token.exists_claims hfits n.toInt audience issuer
    have hissue := Token.issue_eq_ok s hsecond hclaims
    obtain ⟨c, hverify, hc⟩ := subjectId?_of_issue hissue
    exact ⟨_, c, hissue, hverify, hc⟩
  key := ⟨(Decimal.text n.toInt).toList, String.toList_append, int64?_word n⟩
  path := fun _ _ hid ht => readId_of_path hid ht
  apart := fun _ h => apart_of_ne h

/-- Numbers are read exactly, and every word of 64 bits, the lowest one included, comes back from
whatever is written of it. -/
theorem integers_exact : IntegersRead ∧ ∀ n : Int64, IntegerWritten n :=
  ⟨integersRead, integerWritten⟩

end Agora
