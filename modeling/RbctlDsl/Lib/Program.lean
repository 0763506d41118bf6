/-!
# Interaction programs

A program is a tree of external operations.  Each operation is answered by the
environment, and the rest of the program is a function of that answer.  This is the
common meaning of every piece of code that talks to something outside of itself: a
socket, a thread, a peer.

An oracle fixes the answer to every operation from the history so far, so one oracle
is one behaviour of the environment and `exec` is the complete run under it.
Quantifying over oracles quantifies over all environments.

Loops carry fuel.  A loop that uses it up ends in `spin`, an outcome of its own, so a
statement about the code's results never mistakes a cut-off loop for a return.
-/

namespace RbctlDsl.Lib

/-- The operations a program may perform and the type of the answer to each. -/
structure Signature where
  Op : Type
  Answer : Op → Type

variable {sig : Signature} {α β : Type}

/-- A program over the operations of `sig`. -/
inductive Program (sig : Signature) (α : Type) where
  | pure (value : α)
  | perform (op : sig.Op) (next : sig.Answer op → Program sig α)
  | panic (message : String)
  | spin

/-- One operation together with the answer it received. -/
structure Event (sig : Signature) where
  op : sig.Op
  answer : sig.Answer op

/-- Everything that has happened so far, oldest event first. -/
abbrev History (sig : Signature) := List (Event sig)

/-- One behaviour of the environment. -/
abbrev Oracle (sig : Signature) := History sig → (op : sig.Op) → sig.Answer op

/-- How a complete run ends. -/
inductive Outcome (α : Type) where
  | returned (value : α)
  | panicked (message : String)
  | spinning
  deriving DecidableEq, Repr

/-- A complete run: the events it adds to the history, and how it ends. -/
structure Run (sig : Signature) (α : Type) where
  events : History sig
  outcome : Outcome α

namespace Program

def bind : Program sig α → (α → Program sig β) → Program sig β
  | .pure value, next => next value
  | .perform op rest, next => .perform op fun answer => (rest answer).bind next
  | .panic message, _ => .panic message
  | .spin, _ => .spin

@[simp] theorem pure_bind (value : α) (next : α → Program sig β) :
    (Program.pure value).bind next = next value := rfl

@[simp] theorem perform_bind (op : sig.Op) (rest : sig.Answer op → Program sig α)
    (next : α → Program sig β) :
    (Program.perform op rest).bind next =
      .perform op fun answer => (rest answer).bind next := rfl

@[simp] theorem panic_bind (message : String) (next : α → Program sig β) :
    (Program.panic message).bind next = .panic message := rfl

@[simp] theorem spin_bind (next : α → Program sig β) :
    (Program.spin : Program sig α).bind next = .spin := rfl

/-- The complete run of a program under an oracle, started after `history`. -/
def exec (oracle : Oracle sig) : Program sig α → History sig → Run sig α
  | .pure value, _ => ⟨[], .returned value⟩
  | .perform op next, history =>
      let event : Event sig := ⟨op, oracle history op⟩
      let rest := (next event.answer).exec oracle (history ++ [event])
      ⟨event :: rest.events, rest.outcome⟩
  | .panic message, _ => ⟨[], .panicked message⟩
  | .spin, _ => ⟨[], .spinning⟩

section Exec

variable (oracle : Oracle sig) (history : History sig)

@[simp] theorem exec_pure (value : α) :
    (Program.pure value).exec oracle history = ⟨[], .returned value⟩ := rfl

@[simp] theorem exec_panic (message : String) :
    (Program.panic message : Program sig α).exec oracle history =
      ⟨[], .panicked message⟩ := rfl

@[simp] theorem exec_spin :
    (Program.spin : Program sig α).exec oracle history = ⟨[], .spinning⟩ := rfl

theorem exec_perform (op : sig.Op) (next : sig.Answer op → Program sig α) :
    (Program.perform op next).exec oracle history =
      ⟨⟨op, oracle history op⟩ ::
          ((next (oracle history op)).exec oracle
            (history ++ [⟨op, oracle history op⟩])).events,
        ((next (oracle history op)).exec oracle
          (history ++ [⟨op, oracle history op⟩])).outcome⟩ := rfl

/-- A sequence runs its first part, and its second part from where that one returned. -/
theorem exec_bind (program : Program sig α) (next : α → Program sig β) :
    (program.bind next).exec oracle history =
      match (program.exec oracle history).outcome with
      | .returned value =>
          ⟨(program.exec oracle history).events ++
              ((next value).exec oracle
                (history ++ (program.exec oracle history).events)).events,
            ((next value).exec oracle
              (history ++ (program.exec oracle history).events)).outcome⟩
      | .panicked message => ⟨(program.exec oracle history).events, .panicked message⟩
      | .spinning => ⟨(program.exec oracle history).events, .spinning⟩ := by
  induction program generalizing history with
  | pure value => simp
  | perform op rest ih =>
      rw [perform_bind, exec_perform, exec_perform, ih]
      cases ((rest (oracle history op)).exec oracle
        (history ++ [⟨op, oracle history op⟩])).outcome <;> simp
  | panic message => simp
  | spin => simp

/-- The events of a first part begin the events of a sequence. -/
theorem exec_bind_prefix (program : Program sig α) (next : α → Program sig β) :
    (program.exec oracle history).events <+:
      ((program.bind next).exec oracle history).events := by
  rw [exec_bind]
  cases (program.exec oracle history).outcome with
  | returned value => exact List.prefix_append _ _
  | panicked message => exact List.prefix_refl _
  | spinning => exact List.prefix_refl _

/-- The events of a sequence are those of its first part, and those of its second part where
the first one returned. -/
theorem mem_exec_bind {program : Program sig α} {next : α → Program sig β}
    {event : Event sig} :
    event ∈ ((program.bind next).exec oracle history).events ↔
      event ∈ (program.exec oracle history).events ∨
        ∃ value, (program.exec oracle history).outcome = .returned value ∧
          event ∈ ((next value).exec oracle
            (history ++ (program.exec oracle history).events)).events := by
  rw [exec_bind]
  cases (program.exec oracle history).outcome with
  | returned value => simp
  | panicked message => simp
  | spinning => simp

/-- A continuation that performs nothing adds no events. -/
theorem exec_bind_events (program : Program sig α) {next : α → Program sig β}
    (silent : ∀ value, ∃ result, next value = .pure result) :
    ((program.bind next).exec oracle history).events =
      (program.exec oracle history).events := by
  rw [exec_bind]
  cases (program.exec oracle history).outcome with
  | returned value =>
      obtain ⟨result, equal⟩ := silent value
      simp only [equal, exec_pure, List.append_nil]
  | panicked message => rfl
  | spinning => rfl

end Exec

end Program

/-! ## Contracts -/

/-- What a program may ask of its environment, what the environment promises to answer,
and whether the program may panic, each as a predicate of the history so far. -/
structure Contract (sig : Signature) where
  may : History sig → sig.Op → Prop
  answers : History sig → Event sig → Prop := fun _ _ => True
  mayPanic : History sig → Prop := fun _ => True

/-- `property` holds of every event of `events`, each at the history before it. -/
def Along (property : History sig → Event sig → Prop) :
    History sig → History sig → Prop
  | _, [] => True
  | before, event :: rest =>
      property before event ∧ Along property (before ++ [event]) rest

@[simp] theorem along_nil (property : History sig → Event sig → Prop)
    (before : History sig) : Along property before [] := trivial

/-- `Along` at one position of the run. -/
theorem Along.at {property : History sig → Event sig → Prop}
    {before earlier later : History sig} {event : Event sig}
    (along : Along property before (earlier ++ event :: later)) :
    property (before ++ earlier) event := by
  induction earlier generalizing before with
  | nil => simpa using along.1
  | cons head earlier ih => simpa using ih along.2

theorem along_append {property : History sig → Event sig → Prop}
    {before earlier later : History sig} :
    Along property before (earlier ++ later) ↔
      Along property before earlier ∧ Along property (before ++ earlier) later := by
  induction earlier generalizing before with
  | nil => simp
  | cons event earlier ih =>
      rw [List.cons_append, Along, Along, ih, and_assoc, List.append_assoc, List.singleton_append]

/-- What holds along a run holds of every event at the history before it. -/
theorem along_iff_forall_split {property : History sig → Event sig → Prop}
    {before events : History sig} :
    Along property before events ↔
      ∀ earlier event later, events = earlier ++ event :: later →
        property (before ++ earlier) event := by
  constructor
  · rintro along earlier event later rfl
    exact along.at
  · intro each
    induction events generalizing before with
    | nil => trivial
    | cons event events ih =>
        constructor
        · simpa using each [] event events rfl
        · apply ih
          rintro earlier other later rfl
          simpa using each (event :: earlier) other later rfl

theorem Along.mono {property weaker : History sig → Event sig → Prop}
    {before events : History sig} (along : Along property before events)
    (implies : ∀ earlier event, property earlier event → weaker earlier event) :
    Along weaker before events := by
  induction events generalizing before with
  | nil => trivial
  | cons event events ih => exact ⟨implies _ _ along.1, ih along.2⟩

/-- `Along` of a property that does not look at the past is membership. -/
theorem along_iff_forall_mem {property : Event sig → Prop} {before events : History sig} :
    Along (fun _ event => property event) before events ↔ ∀ event ∈ events, property event := by
  induction events generalizing before with
  | nil => simp
  | cons event events ih =>
      rw [List.forall_mem_cons]
      exact and_congr_right fun _ => ih

/-- Every answer in a run is the oracle's answer at that point. -/
theorem Program.exec_along (oracle : Oracle sig) (program : Program sig α)
    (history : History sig) :
    Along (fun before event => event.answer = oracle before event.op) history
      (program.exec oracle history).events := by
  induction program generalizing history with
  | pure value => trivial
  | perform op next ih => exact ⟨rfl, ih _ _⟩
  | panic message => trivial
  | spin => trivial

theorem along_true (before events : History sig) :
    Along (fun _ _ => True) before events := by
  induction events generalizing before with
  | nil => trivial
  | cons event events ih => exact ⟨trivial, ih _⟩

/-- A program keeps a contract and ends in `post`, from a given history on. -/
def Safe (contract : Contract sig) (post : History sig → α → Prop) :
    Program sig α → History sig → Prop
  | .pure value, history => post history value
  | .perform op next, history =>
      contract.may history op ∧
        ∀ answer, contract.answers history ⟨op, answer⟩ →
          Safe contract post (next answer) (history ++ [⟨op, answer⟩])
  | .panic _, history => contract.mayPanic history
  | .spin, _ => True

section Safe

variable {contract : Contract sig} {post : History sig → α → Prop}
  {history : History sig}

@[simp] theorem safe_pure (value : α) :
    Safe contract post (.pure value) history ↔ post history value := Iff.rfl

@[simp] theorem safe_perform (op : sig.Op) (next : sig.Answer op → Program sig α) :
    Safe contract post (.perform op next) history ↔
      contract.may history op ∧
        ∀ answer, contract.answers history ⟨op, answer⟩ →
          Safe contract post (next answer) (history ++ [⟨op, answer⟩]) := Iff.rfl

@[simp] theorem safe_panic (message : String) :
    Safe contract post (.panic message) history ↔ contract.mayPanic history := Iff.rfl

@[simp] theorem safe_spin : Safe contract post (.spin : Program sig α) history := trivial

theorem Safe.mono {weaker : History sig → α → Prop} {program : Program sig α}
    (safe : Safe contract post program history)
    (implies : ∀ later value, post later value → weaker later value) :
    Safe contract weaker program history := by
  induction program generalizing history with
  | pure value => exact implies _ _ safe
  | perform op next ih => exact ⟨safe.1, fun answer ok => ih answer (safe.2 answer ok)⟩
  | panic message => exact safe
  | spin => trivial

/-- A program that keeps a contract keeps every more permissive one. -/
theorem Safe.weaken {loose : Contract sig} {program : Program sig α}
    (safe : Safe contract post program history)
    (may : ∀ before op, contract.may before op → loose.may before op)
    (answers : ∀ before event, loose.answers before event → contract.answers before event)
    (panics : ∀ before, contract.mayPanic before → loose.mayPanic before) :
    Safe loose post program history := by
  induction program generalizing history with
  | pure value => exact safe
  | perform op next ih =>
      exact ⟨may _ _ safe.1, fun answer ok => ih answer (safe.2 answer (answers _ _ ok))⟩
  | panic message => exact panics _ safe
  | spin => trivial

/-- A program only adds to the history. -/
theorem Safe.extends {program : Program sig α} (safe : Safe contract post program history) :
    Safe contract (fun later value => history <+: later ∧ post later value)
      program history := by
  induction program generalizing history with
  | pure value => exact ⟨List.prefix_refl _, safe⟩
  | perform op next ih =>
      refine ⟨safe.1, fun answer ok => (ih answer (safe.2 answer ok)).mono ?_⟩
      intro later value holds
      exact ⟨(List.prefix_append _ _).trans holds.1, holds.2⟩
  | panic message => exact safe
  | spin => trivial

theorem Safe.bind {next : α → Program sig β} {program : Program sig α}
    {last : History sig → β → Prop}
    (safe : Safe contract post program history)
    (rest : ∀ later value, post later value → Safe contract last (next value) later) :
    Safe contract last (program.bind next) history := by
  induction program generalizing history with
  | pure value => exact rest _ _ safe
  | perform op next ih => exact ⟨safe.1, fun answer ok => ih answer (safe.2 answer ok)⟩
  | panic message => exact safe
  | spin => trivial

/-- What a contract says about a complete run whose answers keep the promise. -/
theorem Safe.exec {oracle : Oracle sig} {program : Program sig α}
    (safe : Safe contract post program history)
    (promised : Along contract.answers history (program.exec oracle history).events) :
    Along (fun before event => contract.may before event.op) history
        (program.exec oracle history).events ∧
      match (program.exec oracle history).outcome with
      | .returned value => post (history ++ (program.exec oracle history).events) value
      | .panicked _ => contract.mayPanic (history ++ (program.exec oracle history).events)
      | .spinning => True := by
  induction program generalizing history with
  | pure value => simpa using safe
  | perform op next ih =>
      rw [Program.exec_perform] at promised ⊢
      obtain ⟨asked, ended⟩ := ih _ (safe.2 _ promised.1) promised.2
      refine ⟨⟨safe.1, asked⟩, ?_⟩
      simpa using ended
  | panic message => simpa using safe
  | spin => simp

/-- Where the environment promises the answers of an oracle, a program ends as its run does. -/
theorem Safe.and_returned {oracle : Oracle sig} {program : Program sig α}
    (safe : Safe contract post program history)
    (promises : ∀ before event, contract.answers before event →
      event.answer = oracle before event.op) :
    Safe contract
      (fun later value => post later value ∧
        (program.exec oracle history).outcome = .returned value) program history := by
  induction program generalizing history with
  | pure value => exact ⟨safe, rfl⟩
  | perform op next ih =>
      refine ⟨safe.1, fun answer promised => ?_⟩
      obtain rfl : answer = oracle history op := promises history ⟨op, answer⟩ promised
      exact ih _ (safe.2 _ promised)
  | panic message => exact safe
  | spin => trivial

end Safe

end RbctlDsl.Lib
