/-!
# Media types

A media type is a type, a slash and a subtype, which may end in a plus sign and a suffix, and then
parameters. Capitals do not matter. A document is JSON if its type is `application` and its subtype
or its suffix is `json`.
-/

namespace Agora.Http.MediaType

/-- The characters of names. -/
def isTokenChar (c : Char) : Bool :=
  ('a' ≤ c && c ≤ 'z') || ('A' ≤ c && c ≤ 'Z') || ('0' ≤ c && c ≤ '9') ||
    ['!', '#', '$', '%', '&', '\'', '*', '+', '-', '.', '^', '_', '\x60', '|', '~'].contains c

/-- Where reading the parameters stands. -/
inductive Place where
  /-- Before a parameter, of which blanks may be left out. -/
  | start
  /-- In a name. -/
  | name
  /-- After an equals sign. -/
  | equals
  /-- In a value. -/
  | value
  /-- In quotes; `fresh` before the first character. -/
  | quoted (fresh : Bool)
  /-- After the closing quote. -/
  | closed

/-- The place after one more character. -/
def Place.next? (p : Place) (c : Char) : Option Place :=
  match p with
  | .start => if c = ' ' then some .start else if isTokenChar c then some .name else none
  | .name => if c = '=' then some .equals else if isTokenChar c then some .name else none
  | .equals =>
    if c = '"' then some (.quoted true) else if isTokenChar c then some .value else none
  | .value => if c = ';' then some .start else if isTokenChar c then some .value else none
  | .quoted fresh =>
    if c = '"' ∧ !fresh then some .closed
    else if 0x20 ≤ c.toNat ∧ c.toNat ≠ 0x7F then some (.quoted false)
    else none
  | .closed => if c = ';' then some .start else if c = ' ' then some .closed else none

/-- A text may end between parameters and after a value, even an empty one. -/
def Place.mayEnd : Place → Bool
  | .start | .equals | .value | .closed => true
  | .name | .quoted _ => false

/-- The text is a list of parameters. -/
def areParameters (p : Place) : List Char → Bool
  | [] => p.mayEnd
  | c :: rest =>
    match p.next? c with
    | some p => areParameters p rest
    | none => false

/-- The name of a document type up to its parameters. -/
structure Name where
  type : List Char
  subtype : List Char
  suffix : Option (List Char)
deriving DecidableEq

/-- Cuts a subtype at its last plus sign, unless it starts with it. -/
def splitSuffix (cs : List Char) : List Char × Option (List Char) :=
  let tail := (cs.reverse.takeWhile (· ≠ '+')).reverse
  if tail.length + 1 < cs.length then (cs.take (cs.length - tail.length - 1), some tail)
  else (cs, none)

/-- The name of a media type, in small letters. -/
def name? (text : String) : Option Name :=
  let cs := text.toList
  let type := cs.takeWhile isTokenChar
  match cs.dropWhile isTokenChar with
  | '/' :: rest =>
    let subtype := rest.takeWhile isTokenChar
    let parameters := rest.dropWhile isTokenChar
    let lower := fun cs : List Char => cs.map Char.toLower
    let isFine := match parameters with
      | [] => true
      | ';' :: parameters => !subtype.isEmpty && areParameters .start parameters
      | _ => false
    if type.isEmpty || !isFine then none
    else
      let (subtype, suffix) := splitSuffix (lower subtype)
      some ⟨lower type, subtype, suffix⟩
  | _ => none

/-- The text names a type of JSON documents. -/
def isJson (text : String) : Bool :=
  (name? text).any fun n =>
    n.type = "application".toList &&
      (n.subtype = "json".toList || n.suffix = some "json".toList)

end Agora.Http.MediaType
