import Agora.Text.Blank

/-!
# Tags

A list of tags as it is stored and asked for: every tag without blanks at its ends, none of them
empty, each once, in the order in which they were first named.
-/

namespace Agora.Tag

/-- The list with its repeated members left out after their first place; those in `seen` count as
placed. -/
def distinctFrom (seen : List String) : List String → List String
  | [] => []
  | tag :: rest =>
    if seen.contains tag then distinctFrom seen rest
    else tag :: distinctFrom (tag :: seen) rest

/-- The tags that a list of texts names. -/
def clean (texts : List String) : List String :=
  distinctFrom [] ((texts.map Text.trimmed).filter (· ≠ ""))

end Agora.Tag
