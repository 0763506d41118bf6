import RbctlDsl.Lib.Frame

/-!
# Phases

A protocol that one program follows: its history puts it in a phase, and the phase says which
operations may come next.
-/

namespace RbctlDsl.Lib

variable {sig : Signature} {σ τ ε φ α β : Type}

/-- A protocol: the phases, how an event changes them, and what they permit. -/
structure Protocol (sig : Signature) (φ : Type) where
  initial : φ
  after : φ → Event sig → φ
  permits : φ → sig.Op → Prop

namespace Protocol

variable (protocol : Protocol sig φ)

def phase (history : History sig) : φ := history.foldl protocol.after protocol.initial

@[simp] theorem phase_nil : protocol.phase [] = protocol.initial := rfl

@[simp] theorem phase_snoc (history : History sig) (event : Event sig) :
    protocol.phase (history ++ [event]) = protocol.after (protocol.phase history) event := by
  rw [phase, List.foldl_append]
  rfl

/-- The contract of a program that follows the protocol. -/
def contract : Contract sig where
  may history op := protocol.permits (protocol.phase history) op

/-- A program follows the protocol from a phase on, and a phase that `post` allows is
reached. -/
def Follows (post : φ → α → Prop) (program : Program sig α) (start : φ) : Prop :=
  ∀ history, protocol.phase history = start →
    Safe protocol.contract (fun later value => post (protocol.phase later) value) program history

section Follows

variable {protocol} {post : φ → α → Prop} {start : φ}

theorem follows_pure {value : α} (holds : post start value) :
    protocol.Follows post (.pure value) start := by
  intro history here
  rw [safe_pure, here]
  exact holds

theorem follows_panic {message : String} : protocol.Follows post (.panic message) start :=
  fun _ _ => trivial

theorem follows_perform {op : sig.Op} {next : sig.Answer op → Program sig α}
    (permitted : protocol.permits start op)
    (rest : ∀ answer, protocol.Follows post (next answer) (protocol.after start ⟨op, answer⟩)) :
    protocol.Follows post (.perform op next) start := by
  intro history here
  refine ⟨?_, fun answer _ => rest answer _ ?_⟩
  · change protocol.permits (protocol.phase history) op
    rwa [here]
  · rw [protocol.phase_snoc, here]

theorem follows_bind {last : φ → β → Prop} {program : Program sig α}
    {next : α → Program sig β} (first : protocol.Follows post program start)
    (rest : ∀ reached value, post reached value → protocol.Follows last (next value) reached) :
    protocol.Follows last (program.bind next) start := by
  intro history here
  exact (first history here).bind fun later value holds => rest _ value holds later rfl

theorem Follows.mono {weaker : φ → α → Prop} {program : Program sig α}
    (follows : protocol.Follows post program start)
    (implies : ∀ reached value, post reached value → weaker reached value) :
    protocol.Follows weaker program start :=
  fun history here => (follows history here).mono fun _ _ => implies _ _

/-- An operation that a phase permits and that does not change it, whatever the answer. -/
def Stays (protocol : Protocol sig φ) (start : φ) (op : sig.Op) : Prop :=
  protocol.permits start op ∧ ∀ answer, protocol.after start ⟨op, answer⟩ = start

/-- A program whose operations all leave the phase as it is stays in it. -/
theorem follows_of_stays {ends : α → Prop} {program : Program sig α} {asked : History sig}
    (safe : Safe (onlyOps (protocol.Stays start)) (fun _ => ends) program asked) :
    protocol.Follows (fun reached value => reached = start ∧ ends value) program start := by
  induction program generalizing asked with
  | pure value => exact follows_pure ⟨rfl, safe⟩
  | perform op next ih =>
      refine follows_perform safe.1.1 fun answer => ?_
      rw [safe.1.2 answer]
      exact ih answer (safe.2 answer trivial)
  | panic message => exact follows_panic
  | spin => exact fun _ _ => trivial

end Follows

/-! ## Methods -/

/-- A method takes the protocol from one phase to another, unless it stops with an error. -/
def Leads (method : Method sig σ ε α) (start target : φ) : Prop :=
  ∀ state, protocol.Follows
    (fun reached result => ∀ value, result.1 = .ok value → reached = target) (method state) start

section Leads

variable {protocol} {start middle target : φ}

theorem leads_pure (value : α) :
    protocol.Leads (pure value : Method sig σ ε α) start start :=
  fun _ => follows_pure fun _ _ => rfl

theorem leads_fail (error : ε) :
    protocol.Leads (Method.fail error : Method sig σ ε α) start target :=
  fun _ => follows_pure fun _ equal => by cases equal

theorem leads_read : protocol.Leads (Method.read : Method sig σ ε σ) start start :=
  fun _ => follows_pure fun _ _ => rfl

theorem leads_update (change : σ → σ) :
    protocol.Leads (Method.update change : Method sig σ ε Unit) start start :=
  fun _ => follows_pure fun _ _ => rfl

theorem follows_bind_of_leads {post : φ → Except ε β × σ → Prop} {method : Method sig σ ε α}
    {next : α → Method sig σ ε β} (first : protocol.Leads method start middle)
    (success : ∀ value after, protocol.Follows post (next value after) middle)
    (failure : ∀ reached error after, post reached (.error error, after)) (state : σ) :
    protocol.Follows post ((method >>= next) state) start := by
  refine follows_bind (first state) ?_
  rintro reached ⟨result, after⟩ goesOn
  cases result with
  | ok value =>
      obtain rfl := goesOn value rfl
      exact success value after
  | error error => exact follows_pure (failure reached error after)

/-- A method that leaves the phase as it is leaves it so at its errors, too. -/
theorem follows_bind_of_keeps {post : φ → Except ε β × σ → Prop} {view : σ → τ}
    {method : Method sig σ ε α} {next : α → Method sig σ ε β}
    (keeps : Keeps (protocol.Stays start) view method)
    (success : ∀ value after, protocol.Follows post (next value after) start)
    (failure : ∀ error after, post start (.error error, after)) (state : σ) :
    protocol.Follows post ((method >>= next) state) start := by
  refine follows_bind (follows_of_stays (keeps state [])) ?_
  rintro reached ⟨result, after⟩ ⟨rfl, _⟩
  cases result with
  | ok value => exact success value after
  | error error => exact follows_pure (failure error after)

theorem leads_bind {method : Method sig σ ε α} {next : α → Method sig σ ε β}
    (first : protocol.Leads method start middle)
    (rest : ∀ value, protocol.Leads (next value) middle target) :
    protocol.Leads (method >>= next) start target :=
  follows_bind_of_leads first rest fun _ _ _ _ equal => by cases equal

theorem leads_perform_bind {op : sig.Op} {next : sig.Answer op → Method sig σ ε β}
    (permitted : protocol.permits start op)
    (rest : ∀ answer, protocol.Leads (next answer) (protocol.after start ⟨op, answer⟩) target) :
    protocol.Leads (Method.perform op >>= next) start target :=
  fun state => follows_perform permitted fun answer => rest answer state

theorem leads_perform {op : sig.Op} (permitted : protocol.permits start op)
    (reaches : ∀ answer, protocol.after start ⟨op, answer⟩ = target) :
    protocol.Leads (Method.perform op : Method sig σ ε (sig.Answer op)) start target := by
  intro state
  refine follows_perform permitted fun answer => ?_
  rw [reaches answer]
  exact follows_pure fun _ _ => rfl

/-- A method whose operations all leave the phase as it is. -/
theorem leads_of_keeps {view : σ → τ} {method : Method sig σ ε α}
    (keeps : Keeps (protocol.Stays start) view method) : protocol.Leads method start start :=
  fun state => (follows_of_stays (keeps state [])).mono fun _ _ holds _ _ => holds.1

/-- A pass comes back to the phase that it began in, or it ends the loop. -/
def passTo (start : φ) (post : φ → Except ε α × σ → Prop) (reached : φ) :
    Except ε (β ⊕ α) × σ → Prop
  | (.ok (.inl _), _) => reached = start
  | (.ok (.inr value), after) => post reached (.ok value, after)
  | (.error error, after) => post reached (.error error, after)

theorem follows_iterate {post : φ → Except ε α × σ → Prop} {body : β → Method sig σ ε (β ⊕ α)}
    (pass : ∀ locals state, protocol.Follows (passTo start post) (body locals state) start)
    (fuel : Nat) (locals : β) (state : σ) :
    protocol.Follows post (Method.iterate body fuel locals state) start := by
  induction fuel generalizing locals state with
  | zero => exact fun _ _ => trivial
  | succ fuel ih =>
      refine follows_bind (pass locals state) ?_
      rintro reached ⟨result, after⟩ ends
      match result with
      | .error error => exact follows_pure ends
      | .ok (.inr value) => exact follows_pure ends
      | .ok (.inl locals) =>
          obtain rfl : reached = start := ends
          exact ih locals after

/-- The phases at the end of a pass: one if the loop goes on, one if it stops. -/
def passEnds (start target : φ) (reached : φ) : Except ε (β ⊕ α) × σ → Prop
  | (.ok (.inl _), _) => reached = start
  | (.ok (.inr _), _) => reached = target
  | (.error _, _) => True

theorem leads_iterate {body : β → Method sig σ ε (β ⊕ α)}
    (pass : ∀ locals state, protocol.Follows (passEnds start target) (body locals state) start)
    (fuel : Nat) (locals : β) : protocol.Leads (Method.iterate body fuel locals) start target := by
  refine follows_iterate (fun locals state => (pass locals state).mono ?_) fuel locals
  rintro reached ⟨result, after⟩ ends
  match result with
  | .error error => exact fun _ equal => by cases equal
  | .ok (.inr value) => exact fun _ _ => ends
  | .ok (.inl locals) => exact ends

/-- A pass that always comes back to the phase that it began in. -/
theorem passEnds_of_leads {body : β → Method sig σ ε (β ⊕ α)} {locals : β} {state : σ}
    (leads : protocol.Leads (body locals) start start) :
    protocol.Follows (passEnds start start) (body locals state) start := by
  refine (leads state).mono ?_
  rintro reached ⟨result, after⟩ goesOn
  match result with
  | .ok (.inl _) | .ok (.inr _) => exact goesOn _ rfl
  | .error _ => trivial

end Leads

end Protocol

end RbctlDsl.Lib
