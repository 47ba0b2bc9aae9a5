import Agora.Text.Percent
import Agora.Text.Split

/-!
# Targets

The path and the query of a request's address, which is written in one of four forms: a path with
or without a query, a whole address with scheme and authority, an authority alone, or a star. A
fragment is not part of a target. The segments of a path are compared and taken out as they are
written; escapes are replaced afterwards.
-/

namespace Agora.Http

structure Target where
  path : List Char
  query : List Char
deriving DecidableEq

namespace Target

/-! ## Characters -/

/-- The characters of a scheme. -/
def isSchemeChar (c : Char) : Bool := c.isAlphanum || ['+', '-', '.', '~'].contains c

/-- The characters of an authority beside escapes. -/
def isAuthorityChar (c : Char) : Bool :=
  c.isAlphanum ||
    ['!', '$', '&', '\'', '(', ')', '*', '+', ',', '-', '.', ':', ';', '=', '@', '[', ']', '_',
      '~'].contains c

/-- The characters that a path may be written with. -/
def isPathChar (c : Char) : Bool :=
  let n := c.toNat
  n = 0x21 || n = 0x22 || (0x24 ≤ n && n ≤ 0x3B) || n = 0x3D || (0x40 ≤ n && n ≤ 0x5F) ||
    (0x61 ≤ n && n ≤ 0x7E) || 0x80 ≤ n

/-- The characters that a query may be written with. -/
def isQueryChar (c : Char) : Bool :=
  let n := c.toNat
  n = 0x21 || (0x24 ≤ n && n ≤ 0x3B) || n = 0x3D || (0x3F ≤ n && n ≠ 0x7F)

/-- The characters that end an authority. -/
def endsAuthority (c : Char) : Bool := c = '/' || c = '?' || c = '#'

/-! ## Parts of an address -/

/-- Credentials, a host and a number. Brackets come as one pair at most. What stands after the last
`@` or `]` holds one colon at most and no escape, what stands between others eight colons at most,
and nothing escaped stands before a bracket that opens. -/
def isAuthority (cs : List Char) : Bool :=
  let parts := Text.splitAt (fun c => c = '@' || c = ']') cs
  let last := parts.getLast?.getD []
  let brackets := cs.filter fun c => c = '[' || c = ']'
  cs.all (fun c => isAuthorityChar c || c = '%') &&
    (brackets.isEmpty || brackets = ['[', ']']) &&
    parts.all (fun part => part.count ':' ≤ 8 &&
      (!part.contains '[' || !(part.takeWhile (· ≠ '[')).contains '%')) &&
    last.count ':' ≤ 1 && !last.contains '%' && cs.getLast? ≠ some '@'

/-- The length of the scheme of a whole address, which `://` follows. -/
def schemeLength? (cs : List Char) : Option Nat :=
  let scheme := cs.takeWhile isSchemeChar
  if [':', '/', '/'].isPrefixOf (cs.drop scheme.length) then some scheme.length else none

/-- The target of a path, which may be missing, with a query and a fragment. -/
def ofPath? (cs : List Char) : Option Target :=
  let whole := cs.takeWhile (· ≠ '#')
  let path := whole.takeWhile (· ≠ '?')
  let query := (whole.dropWhile (· ≠ '?')).drop 1
  if path.all isPathChar && query.all isQueryChar then
    some ⟨if path.isEmpty then ['/'] else path, query⟩
  else none

/-- The target of a whole address without its scheme. -/
def ofAuthority? (cs : List Char) : Option Target :=
  let authority := cs.takeWhile (!endsAuthority ·)
  if !authority.isEmpty && isAuthority authority then ofPath? (cs.drop authority.length) else none

/-- The longest address, in bytes. -/
def longest : Nat := 65534

/-- The longest scheme of a whole address. -/
def longestScheme : Nat := 64

/-- The target that a text stands for. An authority alone has an empty path. -/
def read? (text : String) : Option Target :=
  let cs := text.toList
  if longest < text.utf8ByteSize then none
  else match cs with
    | [] => none
    | ['*'] => some ⟨cs, []⟩
    | '/' :: _ => ofPath? cs
    | _ =>
      match schemeLength? cs with
      | some n => if longestScheme < n then none else ofAuthority? (cs.drop (n + 3))
      | none => if isAuthority cs then some ⟨[], []⟩ else none

/-! ## What a target names -/

/-- The segments after the first slash. -/
def segments (t : Target) : List (List Char) := (Text.splitAt (· = '/') t.path).drop 1

/-- The pairs of the query as texts. -/
def pairs (t : Target) : List (String × String) :=
  (Text.Percent.formPairs t.query).map fun pair => (.ofList pair.1, .ofList pair.2)

end Target

end Agora.Http
