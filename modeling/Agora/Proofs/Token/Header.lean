import Agora.Proofs.Json.Records
import Agora.Token.Header

/-!
# The algorithm that a header names

A header is read as an algorithm only if its text names that algorithm, and then it names no other
(`names_of_header`, `eq_of_names`). A name is a string under `alg`, or the only member of an object
there; in a header that is an array it stands in second place.
-/

namespace Agora.Token

open Json (Decoder Scan)

/-- A value that gives a name: a string, or an object that has the name as its only member. -/
def Says (value : Scan) (name : String) : Prop :=
  value = .str (some name) ∨ ∃ other, value = .obj [(some name, other)]

/-- The text of a header gives a name under `alg`. -/
def NamesAlgorithm (header : Scan) (name : String) : Prop :=
  (∃ members value, header = .obj members ∧ (some "alg", value) ∈ members ∧ Says value name) ∨
    ∃ items value, header = .arr items ∧ items[1]? = some value ∧ Says value name

/-- A value gives at most one name. -/
theorem Says.unique {value : Scan} {name name' : String} (h : Says value name)
    (h' : Says value name') : name = name' := by
  rcases h with rfl | ⟨_, rfl⟩
  · rcases h' with h' | ⟨_, h'⟩
    · cases h'
      rfl
    · cases h'
  · rcases h' with h' | ⟨_, h'⟩
    · cases h'
    · cases h'
      rfl

theorem name_of_ofName? {name : String} {a : Algorithm} (h : Algorithm.ofName? name = some a) :
    a.name = name := by
  simpa using List.find?_some h

theorem says_of_nameOf {saysNoMore : Scan → Bool} {names : List String} {value : Scan}
    {name : String} (h : nameOf saysNoMore names value = .ok name) : Says value name := by
  unfold nameOf at h
  obtain ⟨n, hn, h⟩ := Result.bind_eq_ok.mp h
  have hname : n = name := by
    split at h
    next =>
      cases h
      rfl
    next => cases h
  subst hname
  split at hn
  next m other =>
    split at hn
    next =>
      cases hn
      exact Or.inr ⟨other, rfl⟩
    next => cases hn
  next =>
    unfold Decoder.string at hn
    split at hn
    next =>
      cases hn
      exact Or.inl rfl
    next => cases hn

theorem says_of_algorithm {value : Scan} {a : Algorithm} (h : algorithm value = .ok a) :
    Says value a.name := by
  unfold algorithm at h
  obtain ⟨name, hname, h⟩ := Result.bind_eq_ok.mp h
  split at h
  next b hb =>
    cases h
    rw [name_of_ofName? hb]
    exact says_of_nameOf hname
  next => cases h

/-- Where a header is read as an algorithm, one value stands under `alg`, and it is that of the
algorithm. -/
theorem header_ok {scan : Scan} {a : Algorithm} (h : header scan = .ok a) :
    (∃ members value, scan = .obj members ∧ Says value a.name ∧
      (some "alg", value) ∈ members ∧ ∀ other, (some "alg", other) ∈ members → other = value) ∨
    ∃ items value, scan = .arr items ∧ items[1]? = some value ∧ Says value a.name := by
  unfold header at h
  obtain ⟨values, hvalues, h⟩ := Result.bind_eq_ok.mp h
  unfold Decoder.required at h
  split at h
  next value hvalue =>
    have hsays := says_of_algorithm h
    unfold Decoder.record at hvalues
    split at hvalues
    next members =>
      refine Or.inl ⟨members, value, rfl, hsays, Decoder.mem_of_named hvalues hvalue, ?_⟩
      intro other hother
      have hknown : Decoder.IsKnown headerFields "alg" := ⟨.of "alg" algorithm, by
        simp [headerFields], rfl⟩
      rw [Decoder.lookup_of_named hvalues hknown hother] at hvalue
      exact Option.some.inj hvalue
    next items =>
      refine Or.inr ⟨items, value, rfl, ?_, hsays⟩
      rw [Decoder.eq_zip_of_positional hvalues] at hvalue
      match items, hvalue with
      | _ :: second :: _, hvalue =>
        have hsecond : some second = some value := hvalue
        exact hsecond
    next => cases hvalues
  next => cases h

/-- The text of a header that is read as an algorithm names it. -/
theorem names_of_header {scan : Scan} {a : Algorithm} (h : header scan = .ok a) :
    NamesAlgorithm scan a.name := by
  rcases header_ok h with ⟨members, value, rfl, hsays, hmem, _⟩ | ⟨items, value, rfl, hat, hsays⟩
  · exact Or.inl ⟨members, value, rfl, hmem, hsays⟩
  · exact Or.inr ⟨items, value, rfl, hat, hsays⟩

/-- The text of a header that is read as an algorithm names no other. -/
theorem eq_of_names {scan : Scan} {a : Algorithm} (h : header scan = .ok a) {name : String}
    (hname : NamesAlgorithm scan name) : name = a.name := by
  rcases header_ok h with ⟨members, value, rfl, hsays, _, honly⟩ | ⟨items, value, rfl, hat, hsays⟩
  · rcases hname with ⟨members', value', heq, hmem, hsays'⟩ | ⟨_, _, heq, _⟩
    · cases heq
      rw [honly value' hmem] at hsays'
      exact hsays'.unique hsays
    · cases heq
  · rcases hname with ⟨_, _, heq, _⟩ | ⟨items', value', heq, hat', hsays'⟩
    · cases heq
    · cases heq
      rw [hat] at hat'
      cases hat'
      exact hsays'.unique hsays

end Agora.Token
