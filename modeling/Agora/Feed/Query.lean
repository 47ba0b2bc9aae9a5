import Agora.Decimal.Integer
import Agora.Json.Decoder
import Agora.Tag
import Agora.Text.Split
import Agora.Time.Rfc3339

/-!
# What a feed is asked for

Parameters come as texts, each of which may be missing; an empty one counts as missing. Limit,
offset, order and search are checked in this order, and the first one that is wrong is reported. A
bound in time that cannot be read is left out.
-/

namespace Agora.Feed

open Json (Decoder Scan)

/-- By the time at which posts were made. -/
inductive Order where
  | ascending
  | descending
deriving DecidableEq, Repr

/-- The parameters as they come. -/
structure Params where
  limit : Option String := none
  offset : Option String := none
  sort : Option String := none
  tags : Option String := none
  search : Option String := none
  earliest : Option String := none
  latest : Option String := none
deriving DecidableEq

/-- What is wrong with a parameter, with its text as it came. -/
inductive QueryError where
  | invalidLimit (text : String)
  | invalidOffset (text : String)
  | invalidSort (text : String)
  | searchTooLong
deriving DecidableEq, Repr

/-- Parameters that were read. -/
structure Query where
  limit : Int := 5
  offset : Int := 0
  sort : Order := .descending
  tags : List String := []
  search : Option String := none
  earliest : Option Time.Instant := none
  latest : Option Time.Instant := none
deriving DecidableEq

/-- A page of a feed has at most this many items. -/
def largestLimit : Nat := 100

/-- A text that is searched for has at most this many characters. -/
def longestSearch : Nat := 100

def QueryError.message : QueryError → String
  | .invalidLimit text => "limit must be an integer between 1 and 100, got '" ++ text ++ "'"
  | .invalidOffset text => "offset must be a non-negative integer, got '" ++ text ++ "'"
  | .invalidSort text => "sort must be 'asc' or 'desc', got '" ++ text ++ "'"
  | .searchTooLong => "search must be at most 100 characters"

namespace Params

/-- The text of a parameter that is there and not empty. -/
def present (text : Option String) : Option String := text.filter (· ≠ "")

def readLimit (text : Option String) : Except QueryError Int :=
  match present text with
  | none => .ok 5
  | some text =>
    match Decimal.int64? (Text.trim text.toList) with
    | some n => if 1 ≤ n ∧ n ≤ largestLimit then .ok n else .error (.invalidLimit text)
    | none => .error (.invalidLimit text)

def readOffset (text : Option String) : Except QueryError Int :=
  match present text with
  | none => .ok 0
  | some text =>
    match Decimal.int64? (Text.trim text.toList) with
    | some n => if 0 ≤ n then .ok n else .error (.invalidOffset text)
    | none => .error (.invalidOffset text)

def readSort (text : Option String) : Except QueryError Order :=
  match present text with
  | none => .ok .descending
  | some text =>
    if text = "asc" then .ok .ascending
    else if text = "desc" then .ok .descending
    else .error (.invalidSort text)

/-- Tags are separated by commas. -/
def readTags (text : Option String) : List String :=
  match present text with
  | none => []
  | some text => Tag.clean (Text.splitOn ',' text)

def readSearch (text : Option String) : Except QueryError (Option String) :=
  match present text with
  | none => .ok none
  | some text => if longestSearch < text.length then .error .searchTooLong else .ok (some text)

def readBound (text : Option String) : Option Time.Instant :=
  (present text).bind fun text => Time.Instant.read? text.toList

/-- The query that the parameters stand for. -/
def query (p : Params) : Except QueryError Query := do
  let limit ← readLimit p.limit
  let offset ← readOffset p.offset
  let sort ← readSort p.sort
  let search ← readSearch p.search
  return { limit, offset, sort, search, tags := readTags p.tags, earliest := readBound p.earliest,
           latest := readBound p.latest }

/-! ## Where parameters come from -/

def fields : List Decoder.Field :=
  [.of "limit" (.optional .string), .of "offset" (.optional .string),
    .of "sort" (.optional .string), .of "tags" (.optional .string),
    .of "search" (.optional .string), .of "since" (.optional .string),
    .of "until" (.optional .string)]

/-- Parameters from a JSON document. -/
def decode : Decoder Params := fun scan => do
  let values ← Decoder.record fields scan
  let text := fun name => Decoder.orElse values name (.optional .string) none
  return {
    limit := ← text "limit"
    offset := ← text "offset"
    sort := ← text "sort"
    tags := ← text "tags"
    search := ← text "search"
    earliest := ← text "since"
    latest := ← text "until" }

/-- Parameters from the pairs of a query text; none if a name that is known comes twice. Other
names are passed over. -/
def ofPairs? (pairs : List (String × String)) : Option Params :=
  let known := pairs.filter fun pair => fields.any (·.name == pair.1)
  if (known.map Prod.fst).Nodup then
    some {
      limit := known.lookup "limit"
      offset := known.lookup "offset"
      sort := known.lookup "sort"
      tags := known.lookup "tags"
      search := known.lookup "search"
      earliest := known.lookup "since"
      latest := known.lookup "until" }
  else none

end Params

end Agora.Feed
