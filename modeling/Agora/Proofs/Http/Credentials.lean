import Agora.Http.Headers
import Agora.Proofs.Token.Validation

/-!
# Tokens travel in credentials

A genuine token is read back from the credentials that it is sent in (`token?_of_genuine`): it is
made of digits of Base64 and points, which are all visible and no blanks.
-/

namespace Agora.Http.Request

/-- A character that a token in credentials may be made of. -/
def IsPlain (c : Char) : Prop := isVisible c = true ∧ Text.isBlank c = false

theorem bearerToken?_append {token : String} (hne : token ≠ "")
    (hplain : ∀ c ∈ token.toList, IsPlain c) : bearerToken? ("Bearer " ++ token) = some token := by
  have htext : ("Bearer " ++ token).toList = 'B' :: 'e' :: 'a' :: 'r' :: 'e' :: 'r' :: ' ' ::
      token.toList := by
    rw [String.toList_append]
    rfl
  have htrim : Text.trimStart token.toList = token.toList := by
    unfold Text.trimStart
    cases htoken : token.toList with
    | nil => rfl
    | cons c rest =>
      have hc := (hplain c (by rw [htoken]; exact List.mem_cons_self)).2
      rw [List.dropWhile_cons_of_neg (by simp [hc])]
  have hvisible : ("Bearer " ++ token).toList.all isVisible = true := by
    rw [htext, List.all_eq_true]
    intro c hc
    simp only [List.mem_cons] at hc
    obtain rfl | rfl | rfl | rfl | rfl | rfl | rfl | hc := hc
    case inr.inr.inr.inr.inr.inr.inr => exact (hplain c hc).1
    all_goals decide
  have hscheme : ((("Bearer " ++ token).toList.take 6).map Char.toLower = "bearer".toList &&
      (("Bearer " ++ token).toList.drop 6).head? = some ' ') = true := by
    rw [htext]
    rfl
  have hdrop : ("Bearer " ++ token).toList.drop 7 = token.toList := by
    rw [htext]
    rfl
  have hempty : token.toList.isEmpty = false := by
    simpa using hne
  unfold bearerToken?
  simp only [hscheme, hvisible, hdrop, htrim, hempty, Bool.not_false, Bool.and_self, ↓reduceIte,
    String.ofList_toList]

/-- The digits of Base64 are plain. -/
theorem isPlain_of_mem_encode {bytes : List UInt8} {c : Char}
    (h : c ∈ Text.Base64.urlSafe.encode bytes) : IsPlain c := by
  obtain ⟨n, hn, rfl⟩ := Text.Base64.Alphabet.exists_digit_of_mem_encode h
  have hall : ∀ n < 64, isVisible (Text.Base64.urlSafe.digit n) = true ∧
      Text.isBlank (Text.Base64.urlSafe.digit n) = false := by decide
  exact hall n hn

/-- A genuine token comes back from the credentials that it is sent in. -/
theorem bearerToken?_of_genuine {s : Token.Service} {token : String} {c : Token.Claims}
    (h : Token.Genuine s token c) : bearerToken? ("Bearer " ++ token) = some token := by
  obtain ⟨head, body, ⟨htoken, _⟩, hheader, hclaims⟩ := h
  obtain ⟨_, ⟨headBytes, hhead, _⟩, _⟩ := hheader
  obtain ⟨_, ⟨bodyBytes, hbody, _⟩, _⟩ := hclaims
  apply bearerToken?_append
  · rintro rfl
    simp at htoken
  · intro d hd
    have hpoint : IsPlain '.' := ⟨by decide, by decide⟩
    rw [htoken, List.mem_append, List.mem_cons, List.mem_append, List.mem_cons] at hd
    obtain hd | rfl | hd | rfl | hd := hd
    · rw [hhead] at hd
      exact isPlain_of_mem_encode hd
    · exact hpoint
    · rw [hbody] at hd
      exact isPlain_of_mem_encode hd
    · exact hpoint
    · exact isPlain_of_mem_encode hd

/-- The first of all headers counts for its name. -/
theorem header?_of_first {q : Request} {name title value : String} {rest : List (String × String)}
    (hq : q.headers = (title, value) :: rest)
    (hname : title.toList.map Char.toLower = name.toList) : q.header? name = some value := by
  unfold header?
  rw [hq, List.find?_cons_of_pos (by simpa using hname), Option.map_some]

theorem header?_of_rest {q : Request} {name title value : String} {rest : List (String × String)}
    (hq : q.headers = (title, value) :: rest)
    (hname : title.toList.map Char.toLower ≠ name.toList) :
    q.header? name = { q with headers := rest }.header? name := by
  unfold header?
  rw [hq, List.find?_cons_of_neg (by simpa using hname)]

theorem token?_of_genuine {q : Request} {s : Token.Service} {token : String} {c : Token.Claims}
    (hheader : q.header? "authorization" = some ("Bearer " ++ token))
    (h : Token.Genuine s token c) : q.token? = some token := by
  unfold token?
  rw [hheader, Option.bind_some, bearerToken?_of_genuine h]

end Agora.Http.Request
