import RbctlDsl.Lib.Interp
import RbctlDsl.Lib.World

/-!
# Handlers between worlds

A world may be seen as another one, with operations that handlers make of its own.  What a program
meets in the upper world it meets, interpreted, in the lower one.
-/

namespace RbctlDsl.Lib

/-- The refinement rule of worlds: where each handler stays, in its view, within the steps of the
upper world, a postcondition carries over to the interpreted program. -/
theorem meets_interp {upper lower : Signature} {σ ε α ω υ : Type} {above : World upper ω}
    {below : World lower υ} {view : υ → ω} {handler : Handler upper lower σ ε}
    (keeps : ∀ op state receiver, Meets below
      (fun result after => ∃ answer, result.1 = .ok answer ∧
        above (view state) ⟨op, answer⟩ (view after)) (handler op receiver) state)
    {post : α → ω → Prop} {program : Program upper α} {state : υ} {receiver : σ}
    (meets : Meets above post program (view state)) :
    Meets below (fun result after => ∃ value, result.1 = .ok value ∧ post value (view after))
      (program.interp handler receiver) state := by
  induction program generalizing state receiver with
  | pure value => exact ⟨value, rfl, meets⟩
  | perform op next ih =>
      rw [Program.interp_perform]
      refine (keeps op state receiver).bind ?_
      rintro ⟨_, later⟩ after ⟨answer, rfl, taken⟩
      exact ih answer (meets answer _ taken)
  | panic message => trivial
  | spin => trivial

end RbctlDsl.Lib
