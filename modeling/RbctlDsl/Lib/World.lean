import Mathlib.Order.Defs.Unbundled
import RbctlDsl.Lib.Method

/-!
# Worlds

An environment with a state of its own: which answers an operation can have there, and what it
does to the state, is a relation.  A program meets a postcondition if it does so wherever the
world takes it, and every run whose events are steps of the world ends in it.
-/

namespace RbctlDsl.Lib

variable {sig : Signature} {σ ε δ α β ω : Type}

/-- What an operation with its answer does to the state, as far as it is possible. -/
abbrev World (sig : Signature) (ω : Type) := ω → Event sig → ω → Prop

/-! ## Evolutions -/

/-- The events take the world from one state to another. -/
inductive Evolves (world : World sig ω) : ω → History sig → ω → Prop where
  | nil (state : ω) : Evolves world state [] state
  | cons {state middle after : ω} {event : Event sig} {events : History sig} :
    world state event middle → Evolves world middle events after →
      Evolves world state (event :: events) after

section Evolves

variable {world : World sig ω} {state middle after : ω} {event : Event sig}
  {earlier later events : History sig}

theorem evolves_nil_iff : Evolves world state [] after ↔ after = state := by
  constructor
  · rintro ⟨⟩
    rfl
  · rintro rfl
    exact .nil _

theorem evolves_cons_iff :
    Evolves world state (event :: events) after ↔
      ∃ middle, world state event middle ∧ Evolves world middle events after := by
  constructor
  · rintro ⟨⟩
    rename_i middle taken rest
    exact ⟨middle, taken, rest⟩
  · rintro ⟨middle, taken, rest⟩
    exact .cons taken rest

theorem evolves_append :
    Evolves world state (earlier ++ later) after ↔
      ∃ middle, Evolves world state earlier middle ∧ Evolves world middle later after := by
  induction earlier generalizing state with
  | nil => simp [evolves_nil_iff]
  | cons event earlier ih =>
      simp only [List.cons_append, evolves_cons_iff, ih]
      constructor
      · rintro ⟨next, taken, middle, first, rest⟩
        exact ⟨middle, ⟨next, taken, first⟩, rest⟩
      · rintro ⟨middle, ⟨next, taken, first⟩, rest⟩
        exact ⟨next, taken, middle, first, rest⟩

/-- A state that no one of the events changes stays as it is. -/
theorem Evolves.keeps (evolves : Evolves world state events after)
    (each : ∀ event ∈ events, ∀ before next, world before event next → next = before) :
    after = state := by
  induction evolves with
  | nil state => rfl
  | cons taken _ ih =>
      obtain ⟨here, there⟩ := List.forall_mem_cons.mp each
      exact (ih there).trans (here _ _ taken)

end Evolves

/-! ## Postconditions -/

/-- Wherever the world takes it, the program ends in `post`, as far as it comes to its end. -/
def Meets (world : World sig ω) (post : α → ω → Prop) : Program sig α → ω → Prop
  | .pure value, state => post value state
  | .perform op next, state =>
    ∀ answer after, world state ⟨op, answer⟩ after → Meets world post (next answer) after
  | .panic _, _ => True
  | .spin, _ => True

section Meets

variable {world : World sig ω} {post : α → ω → Prop} {state after : ω}

@[simp] theorem meets_pure {value : α} :
    Meets world post (.pure value) state ↔ post value state := Iff.rfl

@[simp] theorem meets_perform {op : sig.Op} {next : sig.Answer op → Program sig α} :
    Meets world post (.perform op next) state ↔
      ∀ answer after, world state ⟨op, answer⟩ after → Meets world post (next answer) after :=
  Iff.rfl

theorem Meets.mono {weaker : α → ω → Prop} {program : Program sig α}
    (meets : Meets world post program state)
    (implies : ∀ value after, post value after → weaker value after) :
    Meets world weaker program state := by
  induction program generalizing state with
  | pure value => exact implies _ _ meets
  | perform op next ih => exact fun answer after taken => ih answer (meets answer after taken)
  | panic message => trivial
  | spin => trivial

theorem Meets.bind {program : Program sig α} {next : α → Program sig β} {last : β → ω → Prop}
    (meets : Meets world post program state)
    (rest : ∀ value after, post value after → Meets world last (next value) after) :
    Meets world last (program.bind next) state := by
  induction program generalizing state with
  | pure value => exact rest _ _ meets
  | perform op next ih => exact fun answer after taken => ih answer (meets answer after taken)
  | panic message => trivial
  | spin => trivial

/-- A run through the world ends in the postcondition. -/
theorem Meets.exec {program : Program sig α} {oracle : Oracle sig} {history : History sig}
    {value : α} (meets : Meets world post program state)
    (evolves : Evolves world state (program.exec oracle history).events after)
    (returned : (program.exec oracle history).outcome = .returned value) : post value after := by
  induction program generalizing state history with
  | pure result =>
      cases returned
      rw [Program.exec_pure, evolves_nil_iff] at evolves
      exact evolves ▸ meets
  | perform op next ih =>
      rw [Program.exec_perform, evolves_cons_iff] at evolves
      obtain ⟨middle, taken, rest⟩ := evolves
      exact ih _ (meets _ _ taken) rest returned
  | panic message => cases returned
  | spin => cases returned

/-- The program can take the world from one state to another, and return the value. -/
def Takes (world : World sig ω) (program : Program sig α) (state : ω) (value : α) (after : ω) :
    Prop :=
  ∃ oracle, Evolves world state (program.exec oracle []).events after ∧
    (program.exec oracle []).outcome = .returned value

theorem Meets.takes {program : Program sig α} {value : α} (meets : Meets world post program state)
    (takes : Takes world program state value after) : post value after := by
  obtain ⟨oracle, evolves, returned⟩ := takes
  exact meets.exec evolves returned

/-- A method goes on where its first part succeeds. -/
theorem Method.meets_bind {method : Method sig σ ε α} {next : α → Method sig σ ε β} {receiver : σ}
    {first : Except ε α × σ → ω → Prop} {last : Except ε β × σ → ω → Prop}
    (meets : Meets world first (method receiver) state)
    (goes : ∀ value later after, first (.ok value, later) after →
      Meets world last (next value later) after)
    (stops : ∀ error later after, first (.error error, later) after →
      last (.error error, later) after) :
    Meets world last ((method >>= next) receiver) state := by
  rw [Method.bind_apply]
  refine meets.bind ?_
  rintro ⟨result, later⟩ after held
  cases result with
  | ok value => exact goes value later after held
  | error error => exact stops error later after held

/-- A method goes on after an attempt, whatever its result. -/
theorem Method.meets_attempt {method : Method sig σ δ α} {next : Except δ α → Method sig σ ε β}
    {receiver : σ} {first : Except δ α × σ → ω → Prop} {last : Except ε β × σ → ω → Prop}
    (meets : Meets world first (method receiver) state)
    (goes : ∀ result later after, first (result, later) after →
      Meets world last (next result later) after) :
    Meets world last ((Method.attempt method >>= next) receiver) state := by
  have tried : Meets world
      (fun result after => ∃ value later, result = (.ok value, later) ∧ first (value, later) after)
      ((Method.attempt method : Method sig σ ε (Except δ α)) receiver) state :=
    meets.bind fun result after held => ⟨result.1, result.2, rfl, held⟩
  rw [Method.bind_apply]
  refine tried.bind ?_
  rintro _ after ⟨value, later, rfl, held⟩
  exact goes value later after held

theorem Method.meets_perform {op : sig.Op} {next : sig.Answer op → Method sig σ ε α} {receiver : σ}
    {last : Except ε α × σ → ω → Prop}
    (each : ∀ answer after, world state ⟨op, answer⟩ after →
      Meets world last (next answer receiver) after) :
    Meets world last ((Method.perform op >>= next) receiver) state :=
  fun answer after taken => each answer after taken

end Meets

/-! ## Histories -/

/-- The world with the history so far. -/
def withHistory (world : World sig ω) : World sig (ω × History sig)
  | (state, history), event, (after, later) =>
    world state event after ∧ later = history ++ [event]

theorem evolves_withHistory {world : World sig ω} {state after : ω} {events : History sig}
    (evolves : Evolves world state events after) (history : History sig) :
    Evolves (withHistory world) (state, history) events (after, history ++ events) := by
  induction evolves generalizing history with
  | nil state => exact (List.append_nil history).symm ▸ .nil _
  | @cons state middle after event events taken _ ih =>
      have rest := ih (history ++ [event])
      rw [List.append_assoc, List.singleton_append] at rest
      exact .cons (show withHistory world (state, history) event (middle, history ++ [event]) from
        ⟨taken, rfl⟩) rest

/-! ## Relations -/

/-- A method moves its receiver and the world along a relation, wherever the world takes it. -/
def Moves (world : World sig ω) (rel : σ × ω → σ × ω → Prop) (method : Method sig σ ε α) : Prop :=
  ∀ receiver state,
    Meets world (fun result after => rel (receiver, state) (result.2, after)) (method receiver)
      state

section Moves

variable {world : World sig ω} {rel : σ × ω → σ × ω → Prop}

theorem Moves.mono {wider : σ × ω → σ × ω → Prop} {method : Method sig σ ε α}
    (moves : Moves world rel method)
    (implies : ∀ before after, rel before after → wider before after) :
    Moves world wider method :=
  fun receiver state => (moves receiver state).mono fun _ _ => implies _ _

/-- An operation moves the world as each of its answers does. -/
theorem moves_perform {op : sig.Op}
    (each : ∀ receiver state answer after, world state ⟨op, answer⟩ after →
      rel (receiver, state) (receiver, after)) :
    Moves world rel (Method.perform op : Method sig σ ε (sig.Answer op)) :=
  fun receiver state answer after taken => each receiver state answer after taken

theorem moves_update {change : σ → σ}
    (each : ∀ receiver state, rel (receiver, state) (change receiver, state)) :
    Moves world rel (Method.update change : Method sig σ ε Unit) :=
  fun receiver state => each receiver state

theorem moves_attempt {method : Method sig σ ε α} (moves : Moves world rel method) :
    Moves world rel (Method.attempt method : Method sig σ δ (Except ε α)) :=
  fun receiver state => (moves receiver state).bind fun _ _ moved => moved

theorem moves_ite {condition : Prop} [Decidable condition] {whenTrue whenFalse : Method sig σ ε α}
    (onTrue : Moves world rel whenTrue) (onFalse : Moves world rel whenFalse) :
    Moves world rel (if condition then whenTrue else whenFalse) := by
  split
  · exact onTrue
  · exact onFalse

variable [Std.Refl rel]

theorem moves_pure (value : α) : Moves world rel (pure value : Method sig σ ε α) :=
  fun _ _ => Std.Refl.refl _

theorem moves_fail (error : ε) : Moves world rel (Method.fail error : Method sig σ ε α) :=
  fun _ _ => Std.Refl.refl _

theorem moves_ofExcept (result : Except ε α) :
    Moves world rel (Method.ofExcept result : Method sig σ ε α) := by
  cases result with
  | ok value => exact moves_pure value
  | error error => exact moves_fail error

omit [Std.Refl rel] in
theorem moves_bind [IsTrans (σ × ω) rel] {method : Method sig σ ε α} {next : α → Method sig σ ε β}
    (first : Moves world rel method) (rest : ∀ value, Moves world rel (next value)) :
    Moves world rel (method >>= next) := by
  intro receiver state
  rw [Method.bind_apply]
  refine (first receiver state).bind ?_
  rintro ⟨result, later⟩ middle moved
  cases result with
  | error error => exact moved
  | ok value => exact (rest value later middle).mono fun _ _ => IsTrans.trans _ _ _ moved

end Moves

end RbctlDsl.Lib
