import RbctlDsl.Lib.Phases

/-!
# Stamped operations

A method whose operations carry a value that its receiver shows when the method is called.  A
stamp makes visible in the history what the environment is not told.
-/

namespace RbctlDsl.Lib

variable {sig : Signature} {σ τ φ ε α : Type}

/-- The operations of a signature, each with a stamp. -/
abbrev stamped (sig : Signature) (τ : Type) : Signature where
  Op := τ × sig.Op
  Answer op := sig.Answer op.2

namespace Program

/-- The program with one stamp on all of its operations. -/
def stamp (tag : τ) : Program sig α → Program (stamped sig τ) α
  | .pure value => .pure value
  | .perform op next => .perform (tag, op) fun answer => (next answer).stamp tag
  | .panic message => .panic message
  | .spin => .spin

end Program

/-- An environment that does not see the stamps. -/
def unseen (oracle : Oracle sig) : Oracle (stamped sig τ) := fun history op =>
  oracle (history.map fun event => ⟨event.op.2, event.answer⟩) op.2

/-- A stamped program performs what the program may perform, with the stamp. -/
theorem Safe.stamp {allowed : sig.Op → Prop} {ends : α → Prop} {program : Program sig α}
    {asked : History sig} (safe : Safe (onlyOps allowed) (fun _ => ends) program asked)
    (tag : τ) (history : History (stamped sig τ)) :
    Safe (onlyOps fun op : τ × sig.Op => op.1 = tag ∧ allowed op.2) (fun _ => ends)
      (program.stamp tag) history := by
  induction program generalizing asked history with
  | pure value => exact safe
  | perform op next ih =>
      exact ⟨⟨rfl, safe.1⟩, fun answer _ => ih answer (safe.2 answer trivial) _⟩
  | panic message => trivial
  | spin => trivial

/-- A method with the stamp that its receiver shows when it is called. -/
def Method.observed (view : σ → τ) (method : Method sig σ ε α) :
    Method (stamped sig τ) σ ε α :=
  fun state => (method state).stamp (view state)

/-- A method that keeps the view of its receiver follows a protocol in which its operations
change nothing. -/
theorem Protocol.follows_observed {protocol : Protocol (stamped sig τ) φ} {start : φ}
    {view : σ → τ} {allowed : sig.Op → Prop} {method : Method sig σ ε α}
    (keeps : Keeps allowed view method) {state : σ}
    (stays : ∀ op, allowed op → protocol.Stays start (view state, op)) :
    protocol.Follows
      (fun reached result => reached = start ∧ view result.2 = view state)
      (method.observed view state) start := by
  have safe : Safe (onlyOps (protocol.Stays start))
      (fun _ result => view result.2 = view state) (method.observed view state) [] := by
    refine ((keeps state []).stamp (view state) []).weaken ?_ (fun _ _ _ => trivial)
      fun _ _ => trivial
    rintro _ ⟨tag, op⟩ ⟨rfl, permitted⟩
    exact stays op permitted
  exact follows_of_stays safe

end RbctlDsl.Lib
