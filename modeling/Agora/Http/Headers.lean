import Agora.Http.MediaType
import Agora.Http.Message
import Agora.Http.Target
import Agora.Json.Decoder
import Agora.Text.Blank

/-!
# What goes into requests and what is read from them

A request is made from parts that may be anything; names of methods and headers have to be tokens
and header values must not hold controls.

Of several headers with one name the first counts, and names are the same in capitals. Credentials
are the word `Bearer` in any capitals, a space, and a token after any number of further blanks. A
body is read only if its media type says that it is JSON.
-/

namespace Agora.Http.Request

/-- A name of a method or a header. -/
def isName (s : String) : Bool := !s.isEmpty && s.toList.all MediaType.isTokenChar

/-- A name of a header, whose length is limited. -/
def isHeaderName (s : String) : Bool := isName s && s.utf8ByteSize ≤ 65535

/-- A value of a header: no controls but tabs. -/
def isValue (s : String) : Bool :=
  s.toList.all fun c => c = '\t' || (0x20 ≤ c.toNat && c ≠ '\x7f')

/-- The request that is made from its parts, with the target that its path stands for. -/
def make? (method path : String) (headers : List (String × String)) (body : String) :
    Option (Request × Target) := do
  let target ← Target.read? path
  if isName method && headers.all fun h => isHeaderName h.1 && isValue h.2 then
    some ({ method, target := path, headers, body }, target)
  else none

/-- The value of the first header of a name, which is given in small letters. -/
def header? (q : Request) (name : String) : Option String :=
  (q.headers.find? fun header => header.1.toList.map Char.toLower = name.toList).map (·.2)

/-- The characters that can be seen, and blanks. -/
def isVisible (c : Char) : Bool := c = '\t' || (0x20 ≤ c.toNat && c.toNat < 0x7F)

/-- The token of the credentials in a header value. -/
def bearerToken? (value : String) : Option String :=
  let cs := value.toList
  if (cs.take 6).map Char.toLower = "bearer".toList && (cs.drop 6).head? = some ' ' then
    let token := Text.trimStart (cs.drop 7)
    if !token.isEmpty && cs.all isVisible then some (.ofList token) else none
  else none

/-- The token that a request comes with. -/
def token? (q : Request) : Option String := (q.header? "authorization").bind bearerToken?

/-- The longest body that is read, in bytes. -/
def longestBody : Nat := 2097152

/-- The value that a decoder finds in the body: refused are other media types (415), bodies that
are too long (413), that are no JSON (400), and JSON of another shape (422). What follows the first
document is not looked at. -/
def readBody {α : Type} (decode : Json.Decoder α) (q : Request) : Except Response α :=
  let isJson := (q.header? "content-type").any fun value =>
    value.toList.all isVisible && MediaType.isJson value
  if !isJson then .error (.bare 415)
  else if longestBody < q.body.utf8ByteSize then .error (.bare 413)
  else match decode (Json.Scan.firstOf q.body) with
    | .ok a => .ok a
    | .error .malformed => .error (.bare 400)
    | .error .mismatch => .error (.bare 422)

end Agora.Http.Request
