import RbctlDsl.Lib.Program

/-!
# Fallible methods on a mutable receiver

`Method sig σ ε α` is a function that may change its receiver `σ`, may stop early with
an error `ε`, and performs operations of `sig` on the way.  The receiver survives an
error: an early return leaves every field as it was at that point.
-/

namespace RbctlDsl.Lib

variable {sig : Signature} {σ τ ε δ α β : Type}

def Method (sig : Signature) (σ ε α : Type) : Type :=
  σ → Program sig (Except ε α × σ)

namespace Method

/-- What follows a method: only a success continues. -/
def resume (next : α → Method sig σ ε β) : Except ε α × σ → Program sig (Except ε β × σ)
  | (.ok value, state) => next value state
  | (.error error, state) => .pure (.error error, state)

instance : Monad (Method sig σ ε) where
  pure value := fun state => .pure (.ok value, state)
  bind method next := fun state => (method state).bind (resume next)

@[simp] theorem resume_ok (next : α → Method sig σ ε β) (value : α) (state : σ) :
    resume next (.ok value, state) = next value state := rfl

@[simp] theorem resume_error (next : α → Method sig σ ε β) (error : ε) (state : σ) :
    resume next (.error error, state) = .pure (.error error, state) := rfl

@[simp] theorem pure_apply (value : α) (state : σ) :
    (pure value : Method sig σ ε α) state = .pure (.ok value, state) := rfl

@[simp] theorem bind_apply (method : Method sig σ ε α) (next : α → Method sig σ ε β)
    (state : σ) :
    (method >>= next) state = (method state).bind (resume next) := rfl

/-- Perform one operation and return its answer. -/
def perform (op : sig.Op) : Method sig σ ε (sig.Answer op) :=
  fun state => .perform op fun answer => .pure (.ok answer, state)

def fail (error : ε) : Method sig σ ε α := fun state => .pure (.error error, state)

def panic (message : String) : Method sig σ ε α := fun _ => .panic message

def read : Method sig σ ε σ := fun state => .pure (.ok state, state)

def update (change : σ → σ) : Method sig σ ε Unit :=
  fun state => .pure (.ok (), change state)

/-- The value of a partial pure function, where undefined means that the code panics. -/
def orPanic (message : String) : Option α → Method sig σ ε α
  | some value => pure value
  | none => panic message

/-- The value or the error of a fallible pure function. -/
def ofExcept : Except ε α → Method sig σ ε α
  | .ok value => pure value
  | .error error => fail error

/-- Return an error as a value instead of stopping at it. -/
def attempt (method : Method sig σ ε α) : Method sig σ δ (Except ε α) :=
  fun state => (method state).bind fun (result, state) => .pure (.ok result, state)

/-- Repeat a loop body on its own variables until it leaves the loop. -/
def iterate (body : β → Method sig σ ε (β ⊕ α)) : Nat → β → Method sig σ ε α
  | 0, _ => fun _ => .spin
  | fuel + 1, locals => do
      match ← body locals with
      | .inl locals => iterate body fuel locals
      | .inr value => pure value

section Apply

variable (state : σ)

@[simp] theorem perform_apply (op : sig.Op) :
    (perform op : Method sig σ ε _) state =
      .perform op fun answer => .pure (.ok answer, state) := rfl

theorem perform_bind_apply (op : sig.Op) (next : sig.Answer op → Method sig σ ε β) :
    (perform op >>= next) state = .perform op fun answer => next answer state := rfl

@[simp] theorem fail_apply (error : ε) :
    (fail error : Method sig σ ε α) state = .pure (.error error, state) := rfl

@[simp] theorem panic_apply (message : String) :
    (panic message : Method sig σ ε α) state = .panic message := rfl

@[simp] theorem read_apply :
    (read : Method sig σ ε σ) state = .pure (.ok state, state) := rfl

@[simp] theorem update_apply (change : σ → σ) :
    (update change : Method sig σ ε Unit) state = .pure (.ok (), change state) := rfl

@[simp] theorem orPanic_some (message : String) (value : α) :
    (orPanic message (some value) : Method sig σ ε α) state =
      .pure (.ok value, state) := rfl

@[simp] theorem orPanic_none (message : String) :
    (orPanic message none : Method sig σ ε α) state = .panic message := rfl

@[simp] theorem ofExcept_apply (result : Except ε α) :
    (ofExcept result : Method sig σ ε α) state = .pure (result, state) := by
  cases result <;> rfl

@[simp] theorem attempt_apply (method : Method sig σ ε α) :
    (attempt method : Method sig σ δ (Except ε α)) state =
      (method state).bind fun (result, state) => .pure (.ok result, state) := rfl

@[simp] theorem ite_apply (condition : Prop) [Decidable condition]
    (whenTrue whenFalse : Method sig σ ε α) :
    (if condition then whenTrue else whenFalse) state =
      if condition then whenTrue state else whenFalse state := by
  split <;> rfl

end Apply

/-- An operation is answered, and then the rest is run. -/
theorem exec_perform_bind {oracle : Oracle sig} {history : History sig} {state : σ} {op : sig.Op}
    {answer : sig.Answer op} (next : sig.Answer op → Method sig σ ε β)
    (given : oracle history op = answer) :
    ((perform op >>= next) state).exec oracle history =
      ⟨⟨op, answer⟩ :: ((next answer state).exec oracle (history ++ [⟨op, answer⟩])).events,
        ((next answer state).exec oracle (history ++ [⟨op, answer⟩])).outcome⟩ := by
  subst given
  rfl

/-- A method that returns is run, and then the rest is. -/
theorem exec_bind_ok {oracle : Oracle sig} {history events : History sig} {state after : σ}
    {value : α} {method : Method sig σ ε α} (next : α → Method sig σ ε β)
    (first : (method state).exec oracle history = ⟨events, .returned (.ok value, after)⟩) :
    ((method >>= next) state).exec oracle history =
      ⟨events ++ ((next value after).exec oracle (history ++ events)).events,
        ((next value after).exec oracle (history ++ events)).outcome⟩ := by
  rw [bind_apply, Program.exec_bind, first]
  rfl

/-- A method that is attempted returns, with its error as a value. -/
theorem exec_attempt {oracle : Oracle sig} {history events : History sig} {state after : σ}
    {result : Except ε α} {method : Method sig σ ε α}
    (ran : (method state).exec oracle history = ⟨events, .returned (result, after)⟩) :
    ((attempt method : Method sig σ δ (Except ε α)) state).exec oracle history =
      ⟨events, .returned (.ok result, after)⟩ := by
  rw [attempt_apply, Program.exec_bind, ran]
  simp

/-- A pass that goes on is followed by the rest of the loop. -/
theorem exec_iterate_again {oracle : Oracle sig} {history events : History sig}
    {state after : σ} {locals locals' : β} {body : β → Method sig σ ε (β ⊕ α)}
    (pass : (body locals state).exec oracle history =
      ⟨events, .returned (.ok (.inl locals'), after)⟩) (fuel : Nat) :
    (iterate body (fuel + 1) locals state).exec oracle history =
      ⟨events ++ ((iterate body fuel locals' after).exec oracle (history ++ events)).events,
        ((iterate body fuel locals' after).exec oracle (history ++ events)).outcome⟩ :=
  exec_bind_ok _ pass

/-- A pass that leaves the loop ends it. -/
theorem exec_iterate_leave {oracle : Oracle sig} {history events : History sig}
    {state after : σ} {locals : β} {value : α} {body : β → Method sig σ ε (β ⊕ α)}
    (pass : (body locals state).exec oracle history =
      ⟨events, .returned (.ok (.inr value), after)⟩) (fuel : Nat) :
    (iterate body (fuel + 1) locals state).exec oracle history =
      ⟨events, .returned (.ok value, after)⟩ := by
  rw [iterate, exec_bind_ok _ pass]
  simp

/-! ## Contracts of methods -/

variable {contract : Contract sig} {history : History sig} {state : σ}

theorem safe_bind {method : Method sig σ ε α} {next : α → Method sig σ ε β}
    {middle : History sig → Except ε α × σ → Prop}
    {post : History sig → Except ε β × σ → Prop}
    (first : Safe contract middle (method state) history)
    (success : ∀ later value after, middle later (.ok value, after) →
      Safe contract post (next value after) later)
    (failure : ∀ later error after, middle later (.error error, after) →
      post later (.error error, after)) :
    Safe contract post ((method >>= next) state) history := by
  rw [bind_apply]
  refine first.bind fun later result holds => ?_
  obtain ⟨result, after⟩ := result
  cases result with
  | ok value => exact success later value after holds
  | error error => exact failure later error after holds

theorem safe_perform_bind {op : sig.Op} {next : sig.Answer op → Method sig σ ε β}
    {post : History sig → Except ε β × σ → Prop} :
    Safe contract post ((perform op >>= next) state) history ↔
      contract.may history op ∧ ∀ answer, contract.answers history ⟨op, answer⟩ →
        Safe contract post (next answer state) (history ++ [⟨op, answer⟩]) := Iff.rfl

/-- What one pass of a loop body owes: the invariant if the loop goes on, the
postcondition if it stops. -/
def passOwes (invariant : History sig → β → σ → Prop)
    (post : History sig → Except ε α × σ → Prop) (later : History sig) :
    Except ε (β ⊕ α) × σ → Prop
  | (.ok (.inl locals), after) => invariant later locals after
  | (.ok (.inr value), after) => post later (.ok value, after)
  | (.error error, after) => post later (.error error, after)

/-- The invariant rule of loops. -/
theorem safe_iterate {body : β → Method sig σ ε (β ⊕ α)}
    {invariant : History sig → β → σ → Prop}
    {post : History sig → Except ε α × σ → Prop}
    (pass : ∀ before locals current, invariant before locals current →
      Safe contract (passOwes invariant post) (body locals current) before)
    (fuel : Nat) (locals : β) (start : invariant history locals state) :
    Safe contract post (iterate body fuel locals state) history := by
  induction fuel generalizing history locals state with
  | zero => exact safe_spin
  | succ fuel ih =>
      refine safe_bind (pass history locals state start) ?_ fun _ _ _ owed => owed
      intro later next after owed
      cases next with
      | inl locals => exact ih locals owed
      | inr value => exact owed

/-! ## Complete runs -/

/-- The method succeeds under an oracle, whatever has happened before. -/
def Returns (oracle : Oracle sig) (method : Method sig σ ε α) (state : σ) : Prop :=
  ∀ history, ∃ value after,
    ((method state).exec oracle history).outcome = .returned (.ok value, after)

theorem returns_bind {oracle : Oracle sig} {method : Method sig σ ε α}
    {next : α → Method sig σ ε β} (first : Returns oracle method state)
    (rest : ∀ value after, Returns oracle (next value) after) :
    Returns oracle (method >>= next) state := by
  intro history
  obtain ⟨value, after, returned⟩ := first history
  rw [bind_apply, Program.exec_bind, returned]
  exact rest value after _

/-- What one pass does under an oracle: it leaves the loop, or goes on with less to do. -/
def PassRuns (oracle : Oracle sig) (body : β → Method sig σ ε (β ⊕ α))
    (variant : β → Nat) : Prop :=
  ∀ before locals state, ∃ next after,
    ((body locals state).exec oracle before).outcome = .returned (.ok next, after) ∧
      ∀ locals', next = .inl locals' → variant locals' < variant locals

/-- The variant rule of loops: with more fuel than the variant, the loop returns. -/
theorem returns_iterate {oracle : Oracle sig} {body : β → Method sig σ ε (β ⊕ α)}
    {variant : β → Nat} (pass : PassRuns oracle body variant) (fuel : Nat) (locals : β)
    (enough : variant locals < fuel) : Returns oracle (iterate body fuel locals) state := by
  induction fuel generalizing locals state with
  | zero => exact absurd enough (Nat.not_lt_zero _)
  | succ fuel ih =>
      intro history
      obtain ⟨next, after, returned, less⟩ := pass history locals state
      rw [iterate, bind_apply, Program.exec_bind, returned]
      cases next with
      | inl locals' =>
          exact ih locals' (Nat.lt_of_lt_of_le (less _ rfl) (Nat.le_of_lt_succ enough)) _
      | inr value => exact ⟨value, after, rfl⟩

end Method

end RbctlDsl.Lib
