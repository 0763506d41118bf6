import RbctlDsl.Lib.Method

/-!
# Traces of programs

A trace is what one complete run did: the operations with their answers, and how it ended.
`Performs` says which traces a program has, without an oracle.  A program has exactly the
traces of its runs, and a trace fixes the run of every oracle that gives its answers, so two
runs under different environments can be compared through their traces alone.
-/

namespace RbctlDsl.Lib

variable {sig : Signature} {σ ε α β : Type}

/-- `program` may perform `events` and end in `outcome`. -/
inductive Performs : Program sig α → History sig → Outcome α → Prop where
  | pure (value : α) : Performs (.pure value) [] (.returned value)
  | perform {op : sig.Op} {next : sig.Answer op → Program sig α} {events : History sig}
      {outcome : Outcome α} (answer : sig.Answer op)
      (rest : Performs (next answer) events outcome) :
      Performs (.perform op next) (⟨op, answer⟩ :: events) outcome
  | panic (message : String) : Performs (.panic message) [] (.panicked message)
  | spin : Performs .spin [] .spinning

namespace Performs

theorem perform_iff {op : sig.Op} {next : sig.Answer op → Program sig α}
    {events : History sig} {outcome : Outcome α} :
    Performs (.perform op next) events outcome ↔
      ∃ answer rest, events = ⟨op, answer⟩ :: rest ∧ Performs (next answer) rest outcome := by
  constructor
  · intro performs
    cases performs with
    | perform answer rest => exact ⟨answer, _, rfl, rest⟩
  · rintro ⟨answer, rest, rfl, performs⟩
    exact .perform answer performs

theorem pure_iff {value : α} {events : History sig} {outcome : Outcome α} :
    Performs (.pure value) events outcome ↔ events = [] ∧ outcome = .returned value := by
  constructor
  · intro performs
    cases performs
    exact ⟨rfl, rfl⟩
  · rintro ⟨rfl, rfl⟩
    exact .pure value

/-- Every complete run is a trace of the program. -/
theorem of_exec (oracle : Oracle sig) (program : Program sig α) (history : History sig) :
    Performs program (program.exec oracle history).events
      (program.exec oracle history).outcome := by
  induction program generalizing history with
  | pure value => exact .pure value
  | perform op next ih => exact .perform _ (ih _ _)
  | panic message => exact .panic message
  | spin => exact .spin

/-- An oracle that gives the answers of a trace runs that trace. -/
theorem exec {oracle : Oracle sig} {program : Program sig α} {history events : History sig}
    {outcome : Outcome α} (performs : Performs program events outcome)
    (answered : Along (fun before event => event.answer = oracle before event.op)
      history events) : program.exec oracle history = ⟨events, outcome⟩ := by
  induction performs generalizing history with
  | pure value => rfl
  | panic message => rfl
  | spin => rfl
  | perform answer rest ih =>
      obtain ⟨given, later⟩ := answered
      dsimp only at given
      subst given
      rw [Program.exec_perform, ih later]

/-- A sequence runs its second part from a value that its first part returned. -/
theorem bind {program : Program sig α} {next : α → Program sig β} {events rest : History sig}
    {value : α} {outcome : Outcome β} (first : Performs program events (.returned value))
    (second : Performs (next value) rest outcome) :
    Performs (program.bind next) (events ++ rest) outcome := by
  induction program generalizing events with
  | pure _ =>
      cases first
      exact second
  | perform op _ ih =>
      cases first with
      | perform answer first => exact .perform answer (ih answer first)
  | panic message => cases first
  | spin => cases first

/-- The traces of a sequence. -/
theorem bind_cases {program : Program sig α} {next : α → Program sig β}
    {events : History sig} {outcome : Outcome β}
    (performs : Performs (program.bind next) events outcome) :
    (∃ value first rest, events = first ++ rest ∧ Performs program first (.returned value) ∧
        Performs (next value) rest outcome) ∨
      (∃ message, outcome = .panicked message ∧
        Performs program events (.panicked message)) ∨
      (outcome = .spinning ∧ Performs program events .spinning) := by
  induction program generalizing events with
  | pure value => exact .inl ⟨value, [], events, rfl, .pure value, performs⟩
  | perform op rest ih =>
      cases performs with
      | perform answer performs =>
          rcases ih answer performs with ⟨value, first, later, rfl, before, after⟩ |
            ⟨message, rfl, before⟩ | ⟨rfl, before⟩
          · exact .inl ⟨value, _, later, rfl, .perform answer before, after⟩
          · exact .inr (.inl ⟨message, rfl, .perform answer before⟩)
          · exact .inr (.inr ⟨rfl, .perform answer before⟩)
  | panic message =>
      cases performs
      exact .inr (.inl ⟨message, rfl, .panic message⟩)
  | spin =>
      cases performs
      exact .inr (.inr ⟨rfl, .spin⟩)

/-- The traces of a sequence of methods. -/
theorem method_cases {method : Method sig σ ε α} {next : α → Method sig σ ε β} {state : σ}
    {events : History sig} {outcome : Outcome (Except ε β × σ)}
    (performs : Performs ((method >>= next) state) events outcome) :
    (∃ value after first rest, events = first ++ rest ∧
        Performs (method state) first (.returned (.ok value, after)) ∧
        Performs (next value after) rest outcome) ∨
      (∃ error after, outcome = .returned (.error error, after) ∧
        Performs (method state) events (.returned (.error error, after))) ∨
      (∃ message, outcome = .panicked message ∧
        Performs (method state) events (.panicked message)) ∨
      (outcome = .spinning ∧ Performs (method state) events .spinning) := by
  rw [Method.bind_apply] at performs
  rcases performs.bind_cases with ⟨⟨result, after⟩, first, rest, rfl, before, later⟩ |
    panics | spins
  · cases result with
    | ok value => exact .inl ⟨value, after, first, rest, rfl, before, later⟩
    | error error =>
        obtain ⟨rfl, rfl⟩ := pure_iff.mp later
        rw [List.append_nil]
        exact .inr (.inl ⟨error, after, rfl, before⟩)
  · exact .inr (.inr (.inl panics))
  · exact .inr (.inr (.inr spins))

/-- What a contract without promises says about a trace. -/
theorem along {contract : Contract sig} {post : History sig → α → Prop}
    (noPromise : ∀ history event, contract.answers history event) {program : Program sig α}
    {history events : History sig} {outcome : Outcome α}
    (performs : Performs program events outcome) (safe : Safe contract post program history) :
    Along (fun before event => contract.may before event.op) history events ∧
      ∀ value, outcome = .returned value → post (history ++ events) value := by
  induction performs generalizing history with
  | pure value =>
      refine ⟨trivial, ?_⟩
      rintro _ ⟨⟩
      rw [List.append_nil]
      exact safe
  | panic message => exact ⟨trivial, fun _ ended => by cases ended⟩
  | spin => exact ⟨trivial, fun _ ended => by cases ended⟩
  | perform answer rest ih =>
      obtain ⟨kept, ended⟩ := ih (safe.2 answer (noPromise _ _))
      refine ⟨⟨safe.1, kept⟩, fun value returned => ?_⟩
      have holds := ended value returned
      rwa [List.append_assoc, List.singleton_append] at holds

end Performs

/-! ## Replaying a trace -/

section Replay

variable [DecidableEq sig.Op]

/-- The environment that gives the answers of a trace, and then those of another one. -/
def replay (recorded : History sig) (fallback : Oracle sig) : Oracle sig := fun history op =>
  match recorded[history.length]? with
  | some event => if same : event.op = op then same ▸ event.answer else fallback history op
  | none => fallback history op

theorem replay_at (before : History sig) (event : Event sig) (later : History sig)
    (fallback : Oracle sig) :
    replay (before ++ event :: later) fallback before event.op = event.answer := by
  have here : (before ++ event :: later)[before.length]? = some event := by simp
  simp only [replay, here, dite_true]

theorem along_replay (recorded : History sig) (fallback : Oracle sig) :
    Along (fun before event => event.answer = replay recorded fallback before event.op)
      [] recorded := by
  suffices general : ∀ before rest, recorded = before ++ rest →
      Along (fun before event => event.answer = replay recorded fallback before event.op)
        before rest from general [] recorded rfl
  intro before rest
  induction rest generalizing before with
  | nil => exact fun _ => trivial
  | cons event rest ih =>
      intro parts
      constructor
      · subst parts
        exact (replay_at before event rest fallback).symm
      · exact ih (before ++ [event]) (by rw [parts, List.append_assoc]; rfl)

end Replay

end RbctlDsl.Lib
