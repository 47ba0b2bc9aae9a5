import Agora.Text.CaseTable

/-!
# Lower case

The full Unicode lower case of a text. Every character is lowered on its own, with two rules on
top of the one-letter table: the dotted capital I becomes an i and a combining dot, and the Greek
capital sigma is written `ς` at the end of a word and `σ` elsewhere. A sigma ends a word when,
ignorable characters passed over, a cased character comes before it and none comes after it.
-/

namespace Agora.Text

open CaseTable

/-- Membership in a list of closed ranges of code points. -/
def inRanges (ranges : List (Nat × Nat)) (c : Char) : Bool :=
  ranges.any fun r => r.1 ≤ c.toNat && c.toNat ≤ r.2

def isCased (c : Char) : Bool := inRanges cased c

def isIgnorable (c : Char) : Bool := inRanges ignorable c

/-- The lower case of one character, whatever stands around it. -/
def lowerChar (c : Char) : List Char :=
  if c.toNat < 0x80 then [c.toLower]
  else if c = 'İ' then ['i', '\u0307']
  else match capitals.findSome? (·.lower? c.toNat) with
    | some n => [Char.ofNat n]
    | none => [c]

/-- Whether the first character that is not ignorable is cased. -/
def startsCased (cs : List Char) : Bool :=
  match cs.dropWhile isIgnorable with
  | [] => false
  | c :: _ => isCased c

/-- Lower case of a text whose left neighbour, ignorable characters passed over, is cased or not
as `afterCased` says. -/
def lowerFrom (afterCased : Bool) : List Char → List Char
  | [] => []
  | c :: rest =>
    (if c = 'Σ' then [if afterCased && !startsCased rest then 'ς' else 'σ'] else lowerChar c) ++
      lowerFrom (if isIgnorable c then afterCased else isCased c) rest

/-- The lower case of a text. -/
def lower (cs : List Char) : List Char := lowerFrom false cs

/-- `lower` on strings. -/
def lowered (s : String) : String := String.ofList (lower s.toList)

@[simp] theorem toList_lowered (s : String) : (lowered s).toList = lower s.toList := by
  simp [lowered]

/-- Whether `fragment` occurs in `text` as a contiguous part. -/
def contains (text fragment : List Char) : Bool :=
  match text with
  | [] => fragment.isEmpty
  | _ :: rest => fragment.isPrefixOf text || contains rest fragment

/-- `contains` is the relation `<:+:` of lists. -/
theorem contains_iff {text fragment : List Char} :
    contains text fragment = true ↔ fragment <:+: text := by
  induction text with
  | nil => simp [contains]
  | cons c rest ih =>
    rw [contains, Bool.or_eq_true, ih, List.isPrefixOf_iff_prefix, List.infix_cons_iff]

end Agora.Text
