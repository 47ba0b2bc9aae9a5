import Agora.Json.Decoder
import Agora.Proofs.Result

/-!
# The members that a record is read from

Reading an object keeps a member for every known name that stands in it, and each known name can
stand in it only once (`named_cons` says what one member comes to). So what a record says under a
name is what its text says there, and the text says nothing else. An array gives its items to the
fields in their order.
-/

namespace Agora.Json.Decoder

variable {fields : List Field} {name : String} {value : Scan} {seen : List String}
  {members : List (Option String × Scan)} {values : List (String × Scan)}

/-- A name is that of a field. -/
def IsKnown (fields : List Field) (name : String) : Prop := ∃ field ∈ fields, field.name = name

/-- A member that is read without a defect has an unknown name and is passed over, or a known name
that was not seen before and is kept. -/
theorem named_cons {title : Option String} {other : Scan} {rest : List (Option String × Scan)}
    (h : named fields seen ((title, other) :: rest) = .ok values) :
    ∃ n, title = some n ∧
      ((¬IsKnown fields n ∧ named fields seen rest = .ok values) ∨
        (n ∉ seen ∧ ∃ tail, named fields (n :: seen) rest = .ok tail ∧
          values = (n, other) :: tail)) := by
  cases title with
  | none =>
    rw [named] at h
    cases h
  | some n =>
    refine ⟨n, rfl, ?_⟩
    rw [named] at h
    split at h
    next hfind =>
      split at h
      next =>
        refine Or.inl ⟨?_, h⟩
        rintro ⟨field, hfield, hname⟩
        have hnot := List.find?_eq_none.mp hfind field hfield
        simp [hname] at hnot
      next => cases h
    next known _ =>
      split at h
      next => cases h
      next hnew =>
        obtain ⟨_, _, h⟩ := Result.bind_eq_ok.mp h
        obtain ⟨tail, htail, h⟩ := Result.bind_eq_ok.mp h
        cases h
        rw [List.contains_eq_mem, decide_eq_true_eq] at hnew
        exact Or.inr ⟨hnew, tail, htail, rfl⟩

/-- A known name that was seen before does not stand in what is read without a defect. -/
theorem not_mem_of_named (h : named fields seen members = .ok values)
    (hknown : IsKnown fields name) (hseen : name ∈ seen) : (some name, value) ∉ members := by
  induction members generalizing seen values with
  | nil => simp
  | cons member rest ih =>
    intro hmem
    obtain ⟨n, htitle, ⟨hunknown, hrest⟩ | ⟨hnew, tail, htail, _⟩⟩ := named_cons h
    · rcases List.mem_cons.mp hmem with heq | hmem
      · subst heq
        cases htitle
        exact hunknown hknown
      · exact ih hrest hseen hmem
    · rcases List.mem_cons.mp hmem with heq | hmem
      · subst heq
        cases htitle
        exact hnew hseen
      · exact ih htail (List.mem_cons_of_mem _ hseen) hmem

/-- What is kept under a name stands in the object under that name. -/
theorem mem_of_named (h : named fields seen members = .ok values)
    (hvalue : values.lookup name = some value) : (some name, value) ∈ members := by
  induction members generalizing seen values with
  | nil =>
    cases h
    cases hvalue
  | cons member rest ih =>
    obtain ⟨title, other⟩ := member
    obtain ⟨n, rfl, ⟨_, hrest⟩ | ⟨_, tail, htail, rfl⟩⟩ := named_cons h
    · exact List.mem_cons_of_mem _ (ih hrest hvalue)
    · rw [List.lookup_cons] at hvalue
      split at hvalue
      next heq =>
        cases hvalue
        rw [beq_iff_eq] at heq
        rw [heq]
        exact List.mem_cons_self
      next => exact List.mem_cons_of_mem _ (ih htail hvalue)

/-- What stands in the object under a known name is kept under it. -/
theorem lookup_of_named (h : named fields seen members = .ok values)
    (hknown : IsKnown fields name) (hmem : (some name, value) ∈ members) :
    values.lookup name = some value := by
  induction members generalizing seen values with
  | nil => cases hmem
  | cons member rest ih =>
    obtain ⟨title, other⟩ := member
    obtain ⟨n, rfl, ⟨hunknown, hrest⟩ | ⟨_, tail, htail, rfl⟩⟩ := named_cons h
    · rcases List.mem_cons.mp hmem with heq | hmem
      · cases heq
        exact absurd hknown hunknown
      · exact ih hrest hmem
    · rw [List.lookup_cons]
      rcases List.mem_cons.mp hmem with heq | hlater
      · cases heq
        rw [beq_self_eq_true]
      · -- the name cannot stand in the object twice
        split
        next heq =>
          rw [beq_iff_eq] at heq
          subst heq
          exact absurd hlater (not_mem_of_named htail hknown List.mem_cons_self)
        next => exact ih htail hlater

/-- An array of fields gives every field the item at its place. -/
theorem eq_zip_of_positional {items : List Scan} (h : positional fields items = .ok values) :
    values = (fields.map Field.name).zip items := by
  induction fields generalizing items values with
  | nil =>
    cases items with
    | nil =>
      cases h
      rfl
    | cons item rest =>
      cases h
  | cons next fields ih =>
    cases items with
    | nil =>
      rw [positional] at h
      split at h
      next =>
        have hvalues := ih h
        rw [List.zip_nil_right] at hvalues ⊢
        exact hvalues
      next => cases h
    | cons item rest =>
      rw [positional] at h
      obtain ⟨_, _, h⟩ := Result.bind_eq_ok.mp h
      obtain ⟨tail, htail, h⟩ := Result.bind_eq_ok.mp h
      cases h
      rw [ih htail]
      rfl

end Agora.Json.Decoder
