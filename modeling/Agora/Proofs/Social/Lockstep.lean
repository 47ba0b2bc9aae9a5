import Agora.Proofs.Exchange.Lockstep
import Agora.Proofs.Social.Gate
import Agora.Proofs.Social.Untouched

/-!
# Requests side by side

If finding a user and every operation run in lockstep, so does every request: what comes before the
operation goes by the clock, the credentials and the user that is found, and what comes after it by
its result (`lockstep_handle`). The relation may be any that has one clock on both sides.
-/

namespace Agora.Social

open Agora.Http (Request Target)
open Exchange (Lockstep lockstep_pure lockstep_bind lockstep_mapError lockstep_attempt)

variable {rel : Exchange World Call → Exchange World Call → Prop}

/-! ## Parts of a request -/

section

variable (hresolve : ∀ id, Lockstep rel (resolve id))

include hresolve

theorem lockstep_resolveAll {ε : Type} (ids : List Int) :
    Lockstep rel (resolveAll ids : Action ε (List (Except ResolveError User))) := by
  induction ids with
  | nil => exact lockstep_pure _
  | cons id rest ih =>
    unfold resolveAll
    refine lockstep_bind (lockstep_attempt (hresolve id)) fun first => ?_
    exact lockstep_bind ih fun others => lockstep_pure (first :: others)

theorem lockstep_caller (hnow : ∀ x x', rel x x' → x'.world.now = x.world.now) (f : Front)
    (q : Request) : Lockstep rel (f.caller q) := by
  intro x x' hx
  rw [caller_run, caller_run, hnow x x' hx]
  cases f.subject x.world.now q with
  | error stop => exact ⟨rfl, hx⟩
  | ok id => exact lockstep_mapError (hresolve id) x x' hx

end

theorem lockstep_serve (hrun : ∀ u op, Lockstep rel (Operation.run u op)) (r : Route)
    (q : Request) (t : Target) (u : User) : Lockstep rel (serve r q t u) := by
  intro x x' hx
  rw [serve_run, serve_run]
  cases r.reader? q.method with
  | none => exact ⟨rfl, hx⟩
  | some reader =>
    simp only
    cases reader q t with
    | error a => exact ⟨rfl, hx⟩
    | ok op =>
      obtain ⟨hr, hy⟩ := hrun u op x x' hx
      simp only
      rw [hr]
      exact ⟨rfl, hy⟩

/-! ## Whole requests -/

/-- A request is answered with the same response on both sides. -/
theorem lockstep_handle (hresolve : ∀ id, Lockstep rel (resolve id))
    (hnow : ∀ x x', rel x x' → x'.world.now = x.world.now)
    (hrun : ∀ u op, Lockstep rel (Operation.run u op)) (f : Front) (q : Request) (t : Target) :
    Lockstep rel (f.handle q t) := by
  intro x x' hx
  cases hroute : Route.ofSegments? t.segments with
  | none =>
    rw [handle_of_no_route hroute, handle_of_no_route hroute]
    exact ⟨rfl, hx⟩
  | some r =>
    by_cases hhealth : r = .health
    · subst hhealth
      rw [handle_of_health hroute, handle_of_health hroute]
      exact ⟨rfl, hx⟩
    have hserved : Lockstep rel (f.caller q >>= serve r q t) :=
      lockstep_bind (lockstep_caller hresolve hnow f q) (lockstep_serve hrun r q t)
    obtain ⟨hr, hy⟩ := hserved x x' hx
    rw [handle_run hroute hhealth, handle_run hroute hhealth, hr]
    exact ⟨rfl, hy⟩

end Agora.Social
