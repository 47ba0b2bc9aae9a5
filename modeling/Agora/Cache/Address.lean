import Agora.Decimal.Integer
import Agora.Text.Ipv6
import Agora.Text.LowerCase
import Agora.Text.Percent

/-!
# Addresses of key-value servers

A server is reached over the network (`redis://`, a host, and maybe credentials, a number after the
host and one of a database) or through a socket of the file system (`unix:` or `redis+unix:`, a
path, and maybe a database in the query). Either may ask for a version of the protocol in its
query. Blanks and controls around an address, and tabs and line ends within it, are not part of it.
-/

namespace Agora.Cache

/-- The parts of an address. A part that is missing is empty, and the path is the list of its
segments. -/
structure Address where
  scheme : List Char
  credentials : List Char
  host : List Char
  path : List (List Char)
  query : List Char
deriving DecidableEq

namespace Address

/-! ## Characters -/

/-- The characters of a scheme, the first of which is a letter. -/
def isSchemeChar (c : Char) : Bool := c.isAlphanum || ['+', '-', '.'].contains c

/-- The characters that no name of a host holds. -/
def isForbidden (c : Char) : Bool :=
  ['\x00', '\t', '\n', '\r', ' ', '#', '/', ':', '<', '>', '?', '@', '[', '\\', ']', '^',
    '|'].contains c

/-- The text without the blanks and controls at its ends, tabs and line ends. -/
def tidy (cs : List Char) : List Char :=
  let isEdge := fun c : Char => c.toNat ≤ 0x20
  (((cs.dropWhile isEdge).reverse.dropWhile isEdge).reverse).filter
    fun c => c ≠ '\t' && c ≠ '\n' && c ≠ '\r'

/-! ## Authority -/

/-- What stands before the first colon outside brackets. -/
def hostPart (inBrackets : Bool) : List Char → List Char
  | [] => []
  | c :: rest =>
    if c = ':' ∧ !inBrackets then []
    else c :: hostPart (c = '[' || (inBrackets && c ≠ ']')) rest

/-- The text is a name, or a numeric address in brackets. -/
def isHost : List Char → Bool
  | '[' :: rest => rest.getLast? = some ']' && Text.Ipv6.isAddress rest.dropLast
  | cs => cs.all (!isForbidden ·)

/-- What follows the number after a host, which may be missing and is below 65536: nothing, or a
backslash. -/
def afterNumber? : List Char → Option (List Char)
  | ':' :: cs =>
    let digits := cs.takeWhile fun c => (Decimal.digit? c).isSome
    let rest := cs.drop digits.length
    if (rest.isEmpty || rest.head? = some '\\') &&
        (digits.isEmpty || (Decimal.nat? digits).any (· < 65536)) then some rest
    else none
  | cs => some cs

/-! ## Path -/

/-- A segment that stands for the place it is in. -/
def isHere (segment : List Char) : Bool :=
  let segment := Text.lower segment
  segment = ['.'] || segment = "%2e".toList

/-- A segment that takes the one before it away. -/
def isUp (segment : List Char) : Bool :=
  let segment := Text.lower segment
  segment = ['.', '.'] || segment = ".%2e".toList || segment = "%2e.".toList ||
    segment = "%2e%2e".toList

/-- A letter and a colon or a bar: a segment that is never taken away. -/
def isDrive : List Char → Bool
  | letter :: mark :: rest =>
    letter.isAlpha && (mark = ':' || mark = '|') && (rest.isEmpty || rest.head? = some '\\')
  | _ => false

/-- The segments, those before in reverse order, once dots are followed. -/
def resolve (done : List (List Char)) : List (List Char) → List (List Char)
  | [] => done.reverse
  | segment :: rest =>
    let close := fun done => if rest.isEmpty then [] :: done else done
    if isUp segment then
      resolve (close (if done.head?.any isDrive then done else done.tail)) rest
    else if isHere segment then resolve (close done) rest
    else resolve (segment :: done) rest

/-- The segments of a path, which is empty or starts with a slash. -/
def segments (cs : List Char) : List (List Char) :=
  if cs.isEmpty then [] else resolve [] ((Text.splitAt (· = '/') cs).drop 1)

/-! ## Reading -/

/-- The parts after the two slashes that announce a host. Without a host there can be nothing
after it, and of credentials only the colon within them. -/
def ofAuthority? (scheme query cs : List Char) : Option Address := do
  let authority := cs.takeWhile (· ≠ '/')
  let place := (authority.reverse.takeWhile (· ≠ '@')).reverse
  let credentials := authority.take (authority.length - place.length)
  let host := hostPart false place
  let afterHost := place.drop host.length
  if host.isEmpty then
    if !afterHost.isEmpty || !(credentials.isEmpty || credentials = [':', '@']) then none
  if !isHost host then none
  let rest ← afterNumber? afterHost
  let path := cs.drop authority.length
  return {
    scheme, query, host
    credentials := credentials.dropLast
    path := segments (if rest.isEmpty then path else '/' :: rest ++ path) }

/-- The parts of an address that names a host or a place in the file system. -/
def read? (text : String) : Option Address :=
  let cs := tidy text.toList
  let scheme := cs.takeWhile isSchemeChar
  if !(scheme.head?.any Char.isAlpha) then none
  else match cs.drop scheme.length with
    | ':' :: rest =>
      let scheme := Text.lower scheme
      let whole := rest.takeWhile (· ≠ '#')
      let body := whole.takeWhile (· ≠ '?')
      let query := (whole.drop body.length).drop 1
      match body with
      | '/' :: '/' :: cs => ofAuthority? scheme query cs
      | '/' :: _ => some { scheme, query, credentials := [], host := [], path := segments body }
      | _ => none
    | _ => none

/-! ## Servers -/

/-- Name and password can be read as text once escapes are replaced. -/
def hasReadableCredentials (a : Address) : Bool :=
  let name := a.credentials.takeWhile (· ≠ ':')
  let password := (a.credentials.drop name.length).drop 1
  (Text.Percent.decodeSegment? name).isSome && (Text.Percent.decodeSegment? password).isSome

/-- The path names no database, or one by its number. -/
def hasDatabasePath (a : Address) : Bool :=
  match a.path.filter (!·.isEmpty) with
  | [] => true
  | [number] => (Decimal.int64? number).isSome
  | _ => false

/-- What the query says of a name; the last pair of that name counts. -/
def queryValue? (a : Address) (name : String) : Option (List Char) :=
  ((Text.Percent.formPairs a.query).reverse.find? fun pair => pair.1 = name.toList).map (·.2)

/-- The query names no database, or one by its number. -/
def hasDatabaseQuery (a : Address) : Bool :=
  (a.queryValue? "db").all fun number => (Decimal.int64? number).isSome

/-- The query leaves the version of the protocol open, or asks for one that is spoken. -/
def hasSpokenProtocol (a : Address) : Bool :=
  (a.queryValue? "protocol").all fun version =>
    ["2", "resp2", "3", "resp3"].contains (String.ofList version)

/-- The address is one of a server on the network. -/
def isNetwork (a : Address) : Bool :=
  a.scheme = "redis".toList && !a.host.isEmpty && a.hasReadableCredentials && a.hasDatabasePath &&
    a.hasSpokenProtocol

/-- The address is one of a socket on this machine. -/
def isSocket (a : Address) : Bool :=
  (a.scheme = "unix".toList || a.scheme = "redis+unix".toList) &&
    (a.host.isEmpty || a.host = "localhost".toList) && !a.path.isEmpty && a.hasDatabaseQuery &&
    a.hasSpokenProtocol

end Address

/-- The text is an address that a client can be made for. -/
def isAddress (url : String) : Bool :=
  (Address.read? url).any fun a => a.isNetwork || a.isSocket

end Agora.Cache
