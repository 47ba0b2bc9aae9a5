import Agora.Json.Token
import Agora.Text.Utf8

/-!
# What a reader finds in JSON text

A scan is the document as far as the text makes sense. Where it stops making sense the scan has a
`broken` in place of the value (an unnamed broken member in an object, a broken item in an array),
and everything read before stays. So whoever looks for values of certain types meets the faults of
a text in the order in which they stand there.

Tokens are put together with a stack of the arrays and objects that are still open; text after
the first complete document is left as remaining tokens.
-/

namespace Agora.Json

/-- A document as read. Names and strings may be unreadable, numbers are kept as literals. -/
inductive Scan where
  | null
  | bool (value : Bool)
  | num (literal : List Char)
  | str (text : Option String)
  | arr (items : List Scan)
  | obj (members : List (Option String × Scan))
  | broken

namespace Scan

/-- An array or an object that is still open, with what it holds in reverse order and what may
come next. -/
inductive Frame where
  /-- Just opened: an item or the end. -/
  | arrStart
  /-- After an item: a comma or the end. -/
  | arrItem (items : List Scan)
  /-- After a comma: an item. -/
  | arrComma (items : List Scan)
  /-- Just opened: a name or the end. -/
  | objStart
  /-- After a name: a colon. -/
  | objName (members : List (Option String × Scan)) (name : Option String)
  /-- After a colon: a value. -/
  | objColon (members : List (Option String × Scan)) (name : Option String)
  /-- After a member: a comma or the end. -/
  | objMember (members : List (Option String × Scan))
  /-- After a comma: a name. -/
  | objComma (members : List (Option String × Scan))

/-- The contents of an open array or object, cut off here. -/
def Frame.cut : Frame → Scan
  | .arrStart => .arr [.broken]
  | .arrItem items | .arrComma items => .arr (.broken :: items).reverse
  | .objStart => .obj [(none, .broken)]
  | .objName members name | .objColon members name => .obj ((name, .broken) :: members).reverse
  | .objMember members | .objComma members => .obj ((none, .broken) :: members).reverse

/-- The frame with one more value, if a value may come next. -/
def Frame.put? (value : Scan) : Frame → Option Frame
  | .arrStart => some (.arrItem [value])
  | .arrComma items => some (.arrItem (value :: items))
  | .objColon members name => some (.objMember ((name, value) :: members))
  | _ => none

/-- What a token leads to. -/
inductive Step where
  | open (stack : List Frame)
  | done (value : Scan)
  | stuck

/-- A complete value goes into the innermost open frame, or is the document. -/
def put (value : Scan) : List Frame → Step
  | [] => .done value
  | frame :: stack =>
    match frame.put? value with
    | some frame => .open (frame :: stack)
    | none => .stuck

/-- A new frame may be opened wherever a value may come. -/
def openFrame (frame : Frame) : List Frame → Step
  | [] => .open [frame]
  | outer :: stack => if (outer.put? .null).isSome then .open (frame :: outer :: stack) else .stuck

/-- One token. A string is a name where a name may come. -/
def step (stack : List Frame) : Token → Step
  | .openArr => openFrame .arrStart stack
  | .openObj => openFrame .objStart stack
  | .closeArr =>
    match stack with
    | .arrStart :: stack => put (.arr []) stack
    | .arrItem items :: stack => put (.arr items.reverse) stack
    | _ => .stuck
  | .closeObj =>
    match stack with
    | .objStart :: stack => put (.obj []) stack
    | .objMember members :: stack => put (.obj members.reverse) stack
    | _ => .stuck
  | .comma =>
    match stack with
    | .arrItem items :: stack => .open (.arrComma items :: stack)
    | .objMember members :: stack => .open (.objComma members :: stack)
    | _ => .stuck
  | .colon =>
    match stack with
    | .objName members name :: stack => .open (.objColon members name :: stack)
    | _ => .stuck
  | .str text =>
    match stack with
    | .objStart :: stack => .open (.objName [] text :: stack)
    | .objComma members :: stack => .open (.objName members text :: stack)
    | _ => put (.str text) stack
  | .null => put .null stack
  | .bool b => put (.bool b) stack
  | .num literal => put (.num literal) stack
  | .bad => .stuck

/-- Closes all open frames around a value that is cut off. -/
def abandon (value : Scan) : List Frame → Scan
  | [] => value
  | frame :: stack =>
    abandon (match frame.put? value with
      | some (.arrItem items) => .arr items.reverse
      | some (.objMember members) => .obj members.reverse
      | _ => frame.cut) stack

/-- The document when the text stops making sense with these frames open. -/
def cutOff : List Frame → Scan
  | [] => .broken
  | frame :: stack => abandon frame.cut stack

/-- Reads tokens with the given frames open, up to the end of the document. -/
def run (stack : List Frame) : List Token → Scan × List Token
  | [] => (cutOff stack, [])
  | token :: rest =>
    match step stack token with
    | .open stack => run stack rest
    | .done value => (value, rest)
    | .stuck => (cutOff stack, [])

/-- The first document of a text; what follows it is not looked at. -/
def first (text : List Symbol) : Scan := (run [] (Token.list text)).1

/-- The document of a text that holds nothing else; `broken` if something follows it. -/
def whole (text : List Symbol) : Scan :=
  match run [] (Token.list text) with
  | (value, []) => value
  | _ => .broken

/-- `first` on strings. -/
def firstOf (text : String) : Scan := first (text.toList.map some)

/-- `whole` on strings. -/
def ofText (text : String) : Scan := whole (text.toList.map some)

/-- `whole` on bytes. -/
def ofBytes (bytes : List UInt8) : Scan := whole (Text.Utf8.decode bytes)

end Scan

end Agora.Json
