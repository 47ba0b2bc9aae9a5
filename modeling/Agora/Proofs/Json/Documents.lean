import Agora.Json.Scan
import Agora.Proofs.Json.Tokens
import Agora.Proofs.Text.Utf8

/-!
# Documents come back from their text

Main result: `ofBytes_render`, the bytes of a document's text are read as the document, with nothing
left over. The step is `run_tokens`: wherever a value may come, the tokens of a document lead to
where that value leads.
-/

namespace Agora.Json

mutual

/-- What there is to find in the text of a document: numbers are literals. -/
def toScan : Json → Scan
  | .null => .null
  | .bool b => .bool b
  | .int n => .num (Decimal.ofInt n)
  | .str s => .str (some s)
  | .arr items => .arr (toScans items)
  | .obj members => .obj (toMembers members)

/-- `toScan` on the items of an array. -/
def toScans : List Json → List Scan
  | [] => []
  | item :: rest => toScan item :: toScans rest

/-- `toScan` on the members of an object. -/
def toMembers : List (String × Json) → List (Option String × Scan)
  | [] => []
  | (name, value) :: rest => (some name, toScan value) :: toMembers rest

end

namespace Scan

open Token (tokens itemTokens memberTokens)

/-- The reading of the tokens that follow a step. -/
def resume (stack : List Frame) (ts : List Token) : Step → Scan × List Token
  | .open stack => run stack ts
  | .done value => (value, ts)
  | .stuck => (cutOff stack, [])

theorem run_cons (stack : List Frame) (t : Token) (ts : List Token) :
    run stack (t :: ts) = resume stack ts (step stack t) := by
  rw [run]
  cases step stack t with
  | «open» stack => rfl
  | done value => rfl
  | stuck => rfl

/-- A value may come in a frame, whatever it is. -/
def Frame.Takes (frame : Frame) : Prop := ∀ value, (frame.put? value).isSome

/-- A value may come next. -/
def Takes : List Frame → Prop
  | [] => True
  | frame :: _ => frame.Takes

theorem takes_of_put? {frame : Frame} {stack : List Frame} {next : Scan → Frame}
    (h : ∀ value, frame.put? value = some (next value)) : Takes (frame :: stack) := by
  intro value
  rw [h value]
  rfl

theorem takes_objColon (members : List (Option String × Scan)) (name : Option String)
    (stack : List Frame) : Takes (.objColon members name :: stack) :=
  takes_of_put? fun _ => rfl

/-! ## One token where a value may come -/

theorem put_of_put? {frame next : Frame} {value : Scan} (h : frame.put? value = some next)
    (stack : List Frame) : put value (frame :: stack) = .open (next :: stack) := by
  rw [put, h]

/-- Where a value may come it matters not what would be cut off otherwise. -/
theorem resume_put {stack : List Frame} (h : Takes stack) (value : Scan) (cut cut' : List Frame)
    (ts : List Token) : resume cut ts (put value stack) = resume cut' ts (put value stack) := by
  cases stack with
  | nil => rfl
  | cons frame stack =>
    obtain ⟨next, hnext⟩ := Option.isSome_iff_exists.mp (h value)
    rw [put_of_put? hnext]
    rfl

theorem openFrame_of_takes {stack : List Frame} (h : Takes stack) (frame : Frame) :
    openFrame frame stack = .open (frame :: stack) := by
  cases stack with
  | nil => rfl
  | cons outer stack => rw [openFrame, if_pos (h .null)]

/-- Where a value may come a string is no name. -/
theorem step_str {stack : List Frame} (h : Takes stack) (text : Option String) :
    step stack (.str text) = put (.str text) stack := by
  unfold step
  simp only
  split
  next => exact absurd (h .null) (by simp [Frame.put?])
  next => exact absurd (h .null) (by simp [Frame.put?])
  next => rfl

/-! ## The tokens of a document -/

mutual

/-- Wherever a value may come, the tokens of a document lead to where its value leads. -/
theorem run_tokens (j : Json) {stack : List Frame} (h : Takes stack) (ts : List Token) :
    run stack (tokens j ++ ts) = resume stack ts (put j.toScan stack) := by
  match j with
  | .null => exact run_cons stack _ ts
  | .bool b => exact run_cons stack _ ts
  | .int n => exact run_cons stack _ ts
  | .str s =>
    rw [tokens, List.singleton_append, run_cons, step_str h]
    rfl
  | .arr [] =>
    show run stack (.openArr :: .closeArr :: ts) = _
    rw [run_cons, step, openFrame_of_takes h, resume, run_cons, step]
    exact resume_put h _ _ _ ts
  | .arr (item :: rest) =>
    -- the items fill the frame that the bracket opened
    rw [tokens, List.cons_append, List.append_assoc, run_cons, step, openFrame_of_takes h, resume,
      run_items (item :: rest) (List.cons_ne_nil _ _) [] (fun _ => rfl),
      List.singleton_append, run_cons, step]
    simp only [List.append_nil, List.reverse_reverse]
    exact resume_put h _ _ _ ts
  | .obj [] =>
    show run stack (.openObj :: .closeObj :: ts) = _
    rw [run_cons, step, openFrame_of_takes h, resume, run_cons, step]
    exact resume_put h _ _ _ ts
  | .obj (member :: rest) =>
    rw [tokens, List.cons_append, List.append_assoc, run_cons, step, openFrame_of_takes h, resume,
      run_members (member :: rest) (List.cons_ne_nil _ _) [] (fun _ => rfl),
      List.singleton_append, run_cons, step]
    simp only [List.append_nil, List.reverse_reverse]
    exact resume_put h _ _ _ ts

/-- The tokens of the items of an array, behind those that it holds already. -/
theorem run_items (items : List Json) (hitems : items ≠ []) {frame : Frame} (acc : List Scan)
    (h : ∀ value, frame.put? value = some (.arrItem (value :: acc))) {stack : List Frame}
    {ts : List Token} :
    run (frame :: stack) (itemTokens items ++ ts) =
      run (.arrItem ((toScans items).reverse ++ acc) :: stack) ts := by
  match items with
  | [] => exact absurd rfl hitems
  | [item] =>
    rw [itemTokens, run_tokens item (takes_of_put? h), put_of_put? (h _)]
    rfl
  | item :: next :: rest =>
    rw [itemTokens, List.append_assoc, run_tokens item (takes_of_put? h),
      put_of_put? (h _), resume, List.cons_append, run_cons, step, resume,
      run_items (next :: rest) (List.cons_ne_nil _ _) (item.toScan :: acc) (fun _ => rfl)]
    · simp only [toScans, List.reverse_cons, List.append_assoc, List.cons_append,
        List.nil_append]
    · exact List.cons_ne_nil _ _

/-- The tokens of the members of an object, behind those that it holds already. -/
theorem run_members (members : List (String × Json)) (hmembers : members ≠ []) {frame : Frame}
    (acc : List (Option String × Scan)) {stack : List Frame}
    (h : ∀ name, step (frame :: stack) (.str name) = .open (.objName acc name :: stack))
    {ts : List Token} :
    run (frame :: stack) (memberTokens members ++ ts) =
      run (.objMember ((toMembers members).reverse ++ acc) :: stack) ts := by
  match members with
  | [] => exact absurd rfl hmembers
  | [(name, value)] =>
    -- name and colon
    rw [memberTokens, List.cons_append, List.cons_append, run_cons, h, resume, run_cons, step,
      resume]
    rw [run_tokens value (takes_objColon _ _ _), put_of_put? rfl]
    rfl
  | (name, value) :: next :: rest =>
    rw [memberTokens, List.cons_append, List.cons_append, run_cons, h, resume, run_cons, step,
      resume]
    · rw [List.append_assoc, run_tokens value (takes_objColon _ _ _), put_of_put? rfl, resume]
      -- the comma, after which the other members follow
      rw [List.cons_append, run_cons, step, resume,
        run_members (next :: rest) (List.cons_ne_nil _ _) ((some name, value.toScan) :: acc)
          (fun _ => rfl)]
      simp only [toMembers, List.reverse_cons, List.append_assoc, List.cons_append,
        List.nil_append]
    · exact List.cons_ne_nil _ _

end

/-! ## Whole texts -/

theorem whole_render (j : Json) : whole (j.render.map some) = j.toScan := by
  have hlist : Token.list (j.render.map some) = tokens j := by
    have := Token.list_render j Token.ends_nil
    rw [List.append_nil] at this
    rw [this]
    exact List.append_nil _
  have hrun : run [] (tokens j) = (j.toScan, []) := by
    have hstart : Takes [] := trivial
    have h := run_tokens j hstart []
    rw [List.append_nil] at h
    exact h
  unfold whole
  rw [hlist, hrun]

/-- The bytes of a document's text are read as the document. -/
theorem ofBytes_render (j : Json) :
    ofBytes (Text.Utf8.encodeChars j.render) = j.toScan := by
  unfold ofBytes
  rw [Text.Utf8.decode_encodeChars, whole_render]

end Scan

end Agora.Json
