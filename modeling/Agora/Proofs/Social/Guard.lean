import Agora.Proofs.Social.Mutation
import Agora.Proofs.Social.Overlap

/-!
# Behind the guard

The three operations that change a post or comment on it are one action, `guarded`, with different
roles to ask for and different plans: the post is loaded, the guard is asked, it is decided without
a call what is to be done, and that is done. The role of the caller is only ever seen by the guard
(`run_of_asks`), and by the guard only if the caller does not own the post (`guardPost_of_owner`).
Otherwise the guard goes by the role that it looks up (`guardPost_of_other`), and what it lets one
caller do, it lets a caller with a higher role do (`verdict_mono`).
-/

namespace Agora.Social

variable {x : Exchange World Call} {caller : User} {id : Int} {roleName : String} {p : Post}

/-! ## One action for all -/

/-- Does what a plan for the post says, if the caller may. -/
def guarded (caller : User) (id : Int) (roleName : String)
    (plan : Post → Except ServiceError Plan) : Action ServiceError Answer := do
  let p ← loadPost id
  guardPost caller p roleName
  (← .ofExcept (plan p)).finish

theorem ofExcept_map {ε α β : Type} (r : Except ε α) (f : α → β) :
    (.ofExcept (r.map f) : Action ε β) = (do return f (← .ofExcept r)) := by
  cases r <;> rfl

theorem run_update (caller : User) (id : Int) (edit : PostEdit) :
    (Operation.update id edit).run caller =
      guarded caller id editRole fun p => (Commit.ofEdit p edit).map .commit := by
  rw [run_eq_prepare_finish]
  simp only [Operation.prepare, prepareEdit, guarded, ofExcept_map, bind_assoc]

theorem run_delete (caller : User) (id : Int) :
    (Operation.delete id).run caller =
      guarded caller id deleteRole fun _ => .ok (.deletePost id) := by
  rw [run_eq_prepare_finish]
  simp only [Operation.prepare, guarded, bind_assoc]
  rfl

theorem run_comment (caller : User) (id : Int) (draft : CommentDraft) :
    (Operation.comment id draft).run caller =
      guarded caller id commentRole fun _ =>
        (checkContent draft.content).map fun _ =>
          .createComment ⟨id, caller.id, draft.content⟩ := by
  rw [run_eq_prepare_finish]
  simp only [Operation.prepare, guarded, ofExcept_map, bind_assoc]

/-- What is planned behind the guard does not depend on the caller's role. -/
theorem run_of_asks {op : Operation} (h : op.asks? = some (id, roleName)) :
    ∃ plan : Int → Post → Except ServiceError Plan,
      ∀ caller : User, op.run caller = guarded caller id roleName (plan caller.id) := by
  cases op with
  | update _ edit =>
    cases h
    exact ⟨fun _ p => (Commit.ofEdit p edit).map .commit, fun caller => run_update caller _ edit⟩
  | delete _ =>
    cases h
    exact ⟨fun _ _ => .ok (.deletePost _), fun caller => run_delete caller _⟩
  | comment _ draft =>
    cases h
    exact ⟨fun author _ => (checkContent draft.content).map fun _ =>
      .createComment ⟨_, author, draft.content⟩, fun caller => run_comment caller _ draft⟩
  | _ => cases h

theorem guarded_run (plan : Post → Except ServiceError Plan) :
    guarded caller id roleName plan x = match loadPost id x with
      | (.ok p, y) => match guardPost caller p roleName y with
        | (.ok _, z) => (Agora.Action.ofExcept (plan p) >>= Plan.finish) z
        | (.error e, z) => (.error e, z)
      | (.error e, y) => (.error e, y) := by
  unfold guarded
  rw [Agora.Action.bind_run]
  cases loadPost id x with
  | mk r y =>
    cases r with
    | error e => rfl
    | ok p =>
      simp only
      rw [Agora.Action.bind_run]
      cases guardPost caller p roleName y with
      | mk r z => cases r <;> rfl

/-! ## The guard -/

/-- What the guard makes of the answer about a role, for a caller who does not own the post. -/
def verdict (caller : User) : Except (Stop Failure) (Option Role) → Except (Stop ServiceError) Unit
  | .error stop => .error (stop.map fun failure => .ofAccess (.ofFailure failure))
  | .ok none => .error (.refused .internal)
  | .ok (some role) =>
    if role.level ≤ caller.role.level then .ok () else .error (.refused .forbidden)

/-- Nothing is asked about the owner. -/
theorem guardPost_of_owner (h : caller.id = p.userId) :
    guardPost caller p roleName = pure () := by
  unfold guardPost authorize
  rw [if_pos h]
  rfl

theorem guardPost_of_other (h : caller.id ≠ p.userId) :
    guardPost caller p roleName x = (verdict caller (roleAnswer x roleName),
      (Agora.Action.lookup (Call.roleByName roleName)
        (fun w => w.tables?.map (·.role? roleName)) x).2) := by
  unfold guardPost authorize roleAnswer
  rw [if_neg h, Agora.Action.bind_run, Agora.Action.mapError_apply, Agora.Action.bind_run,
    Agora.Action.mapError_apply]
  cases Agora.Action.lookup (Call.roleByName roleName)
    (fun w => w.tables?.map (·.role? roleName)) x with
  | mk r y =>
    cases r with
    | error stop => cases stop <;> rfl
    | ok found =>
      cases found with
      | none => rfl
      | some role =>
        show (if decide (role.level ≤ caller.role.level) = true then pure ()
          else .refuse .forbidden : Action ServiceError Unit) y =
            (if role.level ≤ caller.role.level then .ok () else .error (.refused .forbidden), y)
        by_cases hlevel : role.level ≤ caller.role.level
        · rw [if_pos (decide_eq_true hlevel), if_pos hlevel]
          rfl
        · rw [if_neg (mt of_decide_eq_true hlevel), if_neg hlevel]
          rfl

/-- A higher role is let pass wherever a lower one is, and is told the same of what fails. -/
theorem verdict_mono {caller' : User} (hlevel : caller.role.level ≤ caller'.role.level)
    {answer : Except (Stop Failure) (Option Role)}
    (h : verdict caller answer ≠ .error (.refused .forbidden)) :
    verdict caller' answer = verdict caller answer := by
  match answer with
  | .error stop => rfl
  | .ok none => rfl
  | .ok (some role) =>
    by_cases hpass : role.level ≤ caller.role.level
    · rw [verdict, verdict, if_pos hpass, if_pos (Int.le_trans hpass hlevel)]
    · exact absurd (if_neg hpass) h

end Agora.Social
