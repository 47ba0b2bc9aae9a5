import Agora.StoreError

/-!
# Ways to end

What is asked for and not answered is either refused, with an error that says why, or given up:
something breaks down in the middle, and nobody is told anything (`Stop`). A change that breaks down
leaves behind what it had done until then (`Ending`).
-/

namespace Agora

/-- Why there is no answer. -/
inductive Stop (ε : Type) where
  | refused (error : ε)
  | abandoned
deriving DecidableEq

/-- The same with another error. -/
def Stop.map {ε ε' : Type} (f : ε → ε') : Stop ε → Stop ε'
  | .refused e => .refused (f e)
  | .abandoned => .abandoned

/-- How a change of a state ends: it is made, with an answer; it is refused, and the state stays as
it was; or it breaks down, and the state is what was made of it by then. -/
inductive Ending (σ ε α : Type) where
  | ok (result : α × σ)
  | error (error : ε)
  | broken (left : σ)
deriving DecidableEq

/-- A change that never breaks down. -/
def Ending.ofExcept {σ ε α : Type} : Except ε (α × σ) → Ending σ ε α
  | .ok result => .ok result
  | .error e => .error e

end Agora
