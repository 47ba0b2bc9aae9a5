import Agora.Json.Decoder
import Agora.Proofs.Json.Documents
import Agora.Proofs.Time.Rfc3339

/-!
# Values found in a document

A whole number that fits into 64 bits is found again where it was written, and so are instants and
lists of strings. A record is found where each of its fields was written once (`named_membersOf`).
-/

namespace Agora.Json

/-- A whole number of 64 bits, with a sign or without, is known by its literal. -/
theorem Number.whole?_ofInt {n : Int} (hlow : -9223372036854775808 ≤ n)
    (hhigh : n < 18446744073709551616) : whole? (Decimal.ofInt n) = some n := by
  have hzero : Decimal.ofInt n ≠ ['-', '0'] := by
    intro h
    unfold Decimal.ofInt at h
    split at h
    next hneg =>
      have hdigits := (List.cons.inj h).2
      have := Decimal.head?_ofNat (n := n.natAbs) (by rw [hdigits]; rfl)
      omega
    next => exact Decimal.ofNat_ne_cons (by simp [Decimal.IsDigit]) h
  -- only a negative number has a sign, and that is no plus
  have hplus : ∀ rest, Decimal.ofInt n ≠ '+' :: rest := by
    intro rest h
    unfold Decimal.ofInt at h
    split at h
    next => cases h
    next => exact Decimal.ofNat_ne_cons (by simp [Decimal.IsDigit]) h
  unfold whole?
  simp only [if_neg hzero]
  rw [Decimal.int?_ofInt, Option.bind_eq_bind, Option.bind_some, if_pos ⟨hlow, hhigh⟩]

namespace Decoder

theorem integer_ofInt {low high n : Int} (hlow : -9223372036854775808 ≤ low)
    (hhigh : high < 18446744073709551616) (hn : low ≤ n ∧ n ≤ high) :
    integer low high (.num (Decimal.ofInt n)) = .ok n := by
  unfold integer
  simp only
  rw [Number.whole?_ofInt (by omega) (by omega)]
  exact if_pos hn

theorem int64_ofInt {n : Int} (h : Decimal.FitsInt64 n) :
    int64 (.num (Decimal.ofInt n)) = .ok n :=
  integer_ofInt (by decide) (by decide) h

theorem int32_ofInt {n : Int} (h : Decimal.FitsInt32 n) :
    int32 (.num (Decimal.ofInt n)) = .ok n :=
  integer_ofInt (by decide) (by decide) h

theorem word32_ofInt (w : Int32) : word32 (.num (Decimal.ofInt w.toInt)) = .ok w := by
  unfold word32
  rw [int32_ofInt (Decimal.fitsInt32_toInt w)]
  exact congrArg Except.ok (Int32.ofInt_toInt w)

theorem instant_text (t : Time.Instant) : instant (.str (some t.text)) = .ok t := by
  have hread : Time.Instant.readLoose? t.text.toList = some t := by
    unfold Time.Instant.text
    rw [String.toList_ofList, Time.readLoose?_toChars]
  have hstring : string (.str (some t.text)) = .ok t.text := rfl
  unfold instant
  rw [hstring]
  simp only [bind, Except.bind, hread]

theorem items_strings (texts : List String) :
    items string (toScans (texts.map .str)) = .ok texts := by
  induction texts with
  | nil => rfl
  | cons text rest ih =>
    rw [List.map_cons, toScans, toScan, items, ih]
    rfl

theorem uint64_ofInt (n : UInt64) : uint64 (.num (Decimal.ofInt n.toNat)) = .ok n := by
  have hn := n.toNat_lt
  unfold uint64 integer
  simp only
  rw [Number.whole?_ofInt (by omega) (by omega)]
  simp only
  rw [if_pos (by omega)]
  simp [Except.map]

/-- A field is known by its name where names are different. -/
theorem find?_name {fields : List Field} (h : (fields.map Field.name).Nodup) {field : Field}
    (hfield : field ∈ fields) : fields.find? (·.name == field.name) = some field := by
  induction fields with
  | nil => cases hfield
  | cons first rest ih =>
    obtain ⟨hunique, hdistinct⟩ := List.nodup_cons.mp h
    rcases List.mem_cons.mp hfield with rfl | hrest
    · exact List.find?_cons_of_pos (by simp)
    · rw [List.find?_cons_of_neg, ih hdistinct hrest]
      intro heq
      exact hunique (List.mem_map.mpr ⟨field, hrest, (beq_iff_eq.mp heq).symm⟩)

/-- A member of a known name that was not seen before is kept. -/
theorem named_known {fields : List Field} {seen : List String} {name : String} {value : Scan}
    (field : Field) (hknown : fields.find? (·.name == name) = some field) (hnew : name ∉ seen)
    (hvalue : field.check value = .ok ()) (rest : List (Option String × Scan)) :
    named fields seen ((some name, value) :: rest) =
      (named fields (name :: seen) rest).map ((name, value) :: ·) := by
  rw [named, hknown]
  simp only
  rw [if_neg (by simpa using hnew), hvalue]
  cases named fields (name :: seen) rest with
  | error defect => rfl
  | ok values => rfl

/-- Each field has its value, under its name. -/
def Suits : List Field → List (String × Scan) → Prop
  | [], [] => True
  | field :: fields, (name, value) :: values =>
    field.name = name ∧ field.check value = .ok () ∧ Suits fields values
  | _, _ => False

theorem Suits.append {fields others : List Field} {values more : List (String × Scan)}
    (h : Suits fields values) (hmore : Suits others more) :
    Suits (fields ++ others) (values ++ more) := by
  match fields, values with
  | [], [] => exact hmore
  | _ :: _, (_, _) :: _ => exact ⟨h.1, h.2.1, h.2.2.append hmore⟩

/-- The members of an object that has these values and no others. -/
def membersOf (values : List (String × Scan)) : List (Option String × Scan) :=
  values.map fun v => (some v.1, v.2)

/-- A record is read from an object in which its fields stand once each; they may be some of the
fields that are looked for, in another order. -/
theorem named_membersOf {known : List Field} (hknown : (known.map Field.name).Nodup)
    {fields : List Field} (hfields : (fields.map Field.name).Nodup)
    (hsome : ∀ field ∈ fields, field ∈ known) {values : List (String × Scan)}
    (h : Suits fields values) {seen : List String} (hnew : ∀ field ∈ fields, field.name ∉ seen) :
    named known seen (membersOf values) = .ok values := by
  induction fields generalizing values seen with
  | nil =>
    match values with
    | [] => rfl
  | cons field rest ih =>
    match values with
    | (name, value) :: values =>
      obtain ⟨rfl, hcheck, hrest⟩ := h
      obtain ⟨hfield, hothers⟩ := List.forall_mem_cons.mp hsome
      obtain ⟨hfirst, hlater⟩ := List.forall_mem_cons.mp hnew
      obtain ⟨hunique, hdistinct⟩ := List.nodup_cons.mp hfields
      have hunseen : ∀ other ∈ rest, other.name ∉ field.name :: seen := by
        intro other hother hmem
        rcases List.mem_cons.mp hmem with heq | hmem
        · exact hunique (List.mem_map.mpr ⟨other, hother, heq⟩)
        · exact hlater other hother hmem
      rw [membersOf, List.map_cons, named_known field (find?_name hknown hfield) hfirst hcheck,
        ← membersOf, ih hdistinct hothers hrest hunseen]
      rfl

theorem record_membersOf {fields : List Field} (hfields : (fields.map Field.name).Nodup)
    {values : List (String × Scan)} (h : Suits fields values) :
    record fields (.obj (membersOf values)) = .ok values :=
  named_membersOf hfields hfields (fun _ hfield => hfield) h (by simp)

theorem check_of {α : Type} {name : String} {decode : Decoder α} {value : Scan} {a : α}
    (h : decode value = .ok a) : (Field.of name decode).check value = .ok () := by
  show (decode value).map _ = _
  rw [h]
  rfl

end Decoder

end Agora.Json
