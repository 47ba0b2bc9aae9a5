import Agora.Proofs.Account.Discretion
import Agora.Proofs.Account.Registration
import Agora.Proofs.Social.Discretion
import Agora.Proofs.Social.Requests

/-!
# Store errors stay inside

The two services side by side: what their clients learn of the errors of a store.
-/

namespace Agora

open Agora.Exchange (Alike)
open Agora.Http (Request Response Target)
open Agora.Social (ServiceError)

/-- Two runs of a request that differ only in the texts of errors end with one response and one
world, in both services; the account service alone tells of two rules. A store error has the same
response on every way to the client. -/
theorem storeErrors_untold {σ : Type} [Account.Repository σ] :
    (∀ (f : Social.Front) (q : Request) (t : Target) (x x' : Exchange Social.World Social.Call),
      Alike Social.classOnly x x' →
        (f.handle q t x').1 = (f.handle q t x).1 ∧
          (f.handle q t x').2.world = (f.handle q t x).2.world) ∧
      (∀ error : StoreError,
        (ServiceError.ofResolve (.store error)).response = (ServiceError.store error).response ∧
          (ServiceError.ofAccess (.store error)).response = (ServiceError.store error).response ∧
          (ServiceError.ofCaller (.store error)).response = (ServiceError.store error).response) ∧
      (∀ (f : Account.Front) (q : Request) (t : Target) (fresh : Account.Fresh)
        (x x' : Exchange (Account.World σ) Account.Call), Alike Account.takenOrClass x x' →
          (f.handle q t fresh x').1 = (f.handle q t fresh x).1 ∧
            (f.handle q t fresh x').2.world = (f.handle q t fresh x).2.world) ∧
      (∀ (f : Account.Front) (q : Request) (t : Target) (fresh : Account.Fresh)
        (x : Exchange (Account.World σ) Account.Call) (constraint : String),
          Account.Violates f q t x constraint →
          (f.handle q t fresh x).1 = some (Account.violationResponse constraint)) ∧
      ∀ constraint other, (constraint = "users_email_key" ∨ constraint = "users_username_key") →
        other ≠ constraint →
        Account.violationResponse other ≠ Account.violationResponse constraint := by
  refine ⟨?_, fun _ => ⟨rfl, rfl, rfl⟩, ?_, fun _ _ _ _ _ _ h => Account.handle_of_violation h,
    fun _ _ => Account.violationResponse_ne⟩
  · intro f q t x x' h
    obtain ⟨hresponse, hleft⟩ := Social.handle_alike f q t h
    exact ⟨hresponse, hleft.world⟩
  · intro f q t fresh x x' h
    obtain ⟨hresponse, hleft⟩ := Account.uniform_handle f q t fresh x x' h
    exact ⟨hresponse, hleft.world⟩

/-! ## Two runs of two requests -/

/-- An exchange in which users cannot be read, for a reason that the text gives. -/
def unreadable (text : String) : Exchange Social.World Social.Call where
  world := { store := Store.seeded, cache := none, now := ⟨1700000000, 0, Social.isInstant_sample⟩ }
  deadline := some 10000
  faults := [{ target := "users.get_by_id", error := some (.query (.io text)) }]

def sampleFront : Social.Front where
  tokens := Token.sampleService 3600

/-- A request for a profile. -/
def profileRequest (token : String) : Request where
  method := "GET"
  target := "/users/7"
  headers := [("Authorization", "Bearer " ++ token)]

/-- An exchange in which making an account breaks a rule. -/
def unacceptable (constraint : String) : Exchange Account.World Account.Call where
  world := Account.sampleWorld Account.newYear
  deadline := none
  faults := [{ target := "users.create_and_invite", error := some (.uniqueViolation constraint) }]

def accountFront : Account.Front where
  service := Account.sampleService 3600

/-- A request for an account. -/
def accountRequest : Request where
  method := "POST"
  target := "/authentication/user"
  headers := [("Content-Type", "application/json")]
  body := "\x7b\"username\":\"ada\",\"email\":\"ada@math.org\",\"password\":\"password1\"\x7d"

theorem violates_accountRequest (constraint : String) :
    Account.Violates accountFront accountRequest ⟨"/authentication/user".toList, []⟩
      (unacceptable constraint) constraint where
  route := by rfl
  method := rfl
  body := ⟨⟨"ada", "ada@math.org", "password1"⟩, by rfl, by rfl⟩
  expiry := by rfl
  deadline := rfl
  fault := by rfl

/-- The client learns that something went wrong, but not what; and it learns which of its values is
taken. -/
theorem storeErrors_untold_sample :
    (∃ token, (sampleFront.handle (profileRequest token) ⟨"/users/7".toList, []⟩
        (unreadable "a")).1 = some (.error 500 "Internal server error") ∧
      (sampleFront.handle (profileRequest token) ⟨"/users/7".toList, []⟩ (unreadable "b")).1 =
        some (.error 500 "Internal server error")) ∧
      (accountFront.handle accountRequest ⟨"/authentication/user".toList, []⟩ Account.sampleFresh
        (unacceptable "users_email_key")).1 = some (.error 409 "email already exists") ∧
      (accountFront.handle accountRequest ⟨"/authentication/user".toList, []⟩ Account.sampleFresh
        (unacceptable "a")).1 =
        (accountFront.handle accountRequest ⟨"/authentication/user".toList, []⟩
          Account.sampleFresh (unacceptable "b")).1 := by
  obtain ⟨hsocial, _, haccount, hviolation, _⟩ := @storeErrors_untold Account.Store _
  refine ⟨?_, ?_, ?_⟩
  · have hid : Decimal.FitsInt64 101 := by decide
    have hnow : 0 ≤ (unreadable "a").world.now.second := by decide
    have hlifetime : (unreadable "a").world.now.second + (3600 : UInt64).toNat < UInt64.size := by
      decide
    obtain ⟨token, _, hsubject⟩ := Social.subject_of_issued sampleFront hid hnow hlifetime
    have hfailed : Social.resolve 101 (unreadable "a") =
        (.error (.refused (.store (.query (.io "a")))), _) := rfl
    have hanswer : (sampleFront.handle (profileRequest token) ⟨"/users/7".toList, []⟩
        (unreadable "a")).1 = some (.error 500 "Internal server error") := by
      rw [Social.handle_of_resolve_error (r := .user ['7']) (by rfl) (by decide)
        (hsubject _ (Request.header?_of_first rfl (by decide))) hfailed]
      rfl
    have halike : Alike Social.classOnly (unreadable "a") (unreadable "b") :=
      ⟨rfl, rfl, rfl, rfl, by rfl⟩
    exact ⟨token, hanswer, (hsocial _ _ _ _ _ halike).1.trans hanswer⟩
  · exact hviolation _ _ _ _ _ _ (violates_accountRequest "users_email_key")
  · have halike : Alike Account.takenOrClass (unacceptable "b") (unacceptable "a") :=
      ⟨rfl, rfl, rfl, rfl, by rfl⟩
    exact (haccount _ _ _ _ _ _ halike).1

end Agora
