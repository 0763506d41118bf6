import Mathlib.Logic.Function.Basic
import RbctlDsl.Lib.Phases

/-!
# Threads

Programs that run in parallel on a shared state.  A step lets one thread perform its next
operation; what the operation does to the shared state, which answers it can have, and whether
it starts another thread, is the meaning of the operations.  Every order of steps is a run.

A contract that each thread keeps on its own holds of the thread in every run, and an invariant
of the whole has to survive the operations only that the contracts permit.
-/

namespace RbctlDsl.Lib

/-- A started thread: what it has done, and the rest of its program. -/
structure Thread (sig : Signature) (α : Type) where
  history : History sig
  rest : Program sig α

variable {ι : Type} {sig : ι → Signature} {α : ι → Type} {σ : Type}

/-- The thread has come to its end. -/
def Thread.returned {sig : Signature} {α : Type} (thread : Thread sig α) : Bool :=
  match thread.rest with
  | .pure _ => true
  | _ => false

/-- The thread has come to its end, or it has panicked. -/
def Thread.stopped {sig : Signature} {α : Type} (thread : Thread sig α) : Bool :=
  match thread.rest with
  | .pure _ | .panic _ => true
  | _ => false

/-- The shared state, and the threads as far as they are started. -/
structure Threads (sig : ι → Signature) (α : ι → Type) (σ : Type) where
  shared : σ
  thread : (i : ι) → Option (Thread (sig i) (α i))

/-- What the operations of the threads do, as far as they are possible: the shared state
afterwards, and the thread that is started. -/
structure Meaning (sig : ι → Signature) (α : ι → Type) (σ : Type) where
  effect : (i : ι) → Threads sig α σ → Event (sig i) → Option σ
  starts : (i : ι) → Event (sig i) → Option ((j : ι) × Program (sig j) (α j))

namespace Threads

variable [DecidableEq ι]

/-- One thread is put in. -/
def put (threads : Threads sig α σ) (i : ι) (thread : Thread (sig i) (α i)) :
    Threads sig α σ :=
  { threads with thread := Function.update threads.thread i (some thread) }

def start (threads : Threads sig α σ) : Option ((j : ι) × Program (sig j) (α j)) →
    Threads sig α σ
  | none => threads
  | some ⟨j, program⟩ => threads.put j ⟨[], program⟩

/-- A new thread is one that has not been started before. -/
def CanStart (threads : Threads sig α σ) (new : Option ((j : ι) × Program (sig j) (α j))) : Prop :=
  ∀ j program, new = some ⟨j, program⟩ → threads.thread j = none

/-- Thread `i` performs its next operation. -/
inductive Step (meaning : Meaning sig α σ) (threads : Threads sig α σ) (i : ι) :
    Event (sig i) → Threads sig α σ → Prop
  | perform {history : History (sig i)} {op : (sig i).Op} {answer : (sig i).Answer op}
      {next : (sig i).Answer op → Program (sig i) (α i)} {shared : σ}
      (current : threads.thread i = some ⟨history, .perform op next⟩)
      (effect : meaning.effect i threads ⟨op, answer⟩ = some shared)
      (canStart : threads.CanStart (meaning.starts i ⟨op, answer⟩)) :
      Step meaning threads i ⟨op, answer⟩
        ((({ threads with shared := shared }).start (meaning.starts i ⟨op, answer⟩)).put i
          ⟨history ++ [Event.mk op answer], next answer⟩)

/-- The states of a run whose steps are all allowed. -/
inductive Reaches (meaning : Meaning sig α σ)
    (allowed : Threads sig α σ → (i : ι) → Event (sig i) → Prop) (first : Threads sig α σ) :
    Threads sig α σ → Prop
  | first : Reaches meaning allowed first first
  | step {threads threads' : Threads sig α σ} {i : ι} {event : Event (sig i)}
      (reaches : Reaches meaning allowed first threads) (isAllowed : allowed threads i event)
      (step : Step meaning threads i event threads') : Reaches meaning allowed first threads'

theorem Reaches.mono {meaning : Meaning sig α σ}
    {allowed wider : Threads sig α σ → (i : ι) → Event (sig i) → Prop}
    {first threads : Threads sig α σ}
    (implies : ∀ threads i event, allowed threads i event → wider threads i event)
    (reaches : Reaches meaning allowed first threads) : Reaches meaning wider first threads := by
  induction reaches with
  | first => exact .first
  | step _ isAllowed step ih => exact .step ih (implies _ _ _ isAllowed) step

section Thread

variable {meaning : Meaning sig α σ} {threads threads' : Threads sig α σ} {i j : ι}
  {event : Event (sig i)}

@[simp] theorem put_self (thread : Thread (sig i) (α i)) :
    (threads.put i thread).thread i = some thread := Function.update_self ..

theorem put_of_ne (other : j ≠ i) (thread : Thread (sig i) (α i)) :
    (threads.put i thread).thread j = threads.thread j := Function.update_of_ne other ..

@[simp] theorem shared_start (new : Option ((j : ι) × Program (sig j) (α j))) :
    (threads.start new).shared = threads.shared := by
  cases new with
  | none => rfl
  | some started => rfl

/-- After a start, a thread is what it was, or it is the new one. -/
theorem start_thread (threads : Threads sig α σ)
    (new : Option ((j : ι) × Program (sig j) (α j))) (j : ι) :
    (threads.start new).thread j = threads.thread j ∨
      ∃ program, new = some ⟨j, program⟩ ∧
        (threads.start new).thread j = some ⟨[], program⟩ := by
  cases new with
  | none => exact .inl rfl
  | some started =>
      obtain ⟨k, program⟩ := started
      by_cases same : j = k
      · subst same
        exact .inr ⟨program, rfl, put_self _⟩
      · exact .inl (put_of_ne same _)

/-- The thread that takes a step. -/
theorem Step.thread_self (step : Step meaning threads i event threads') :
    ∃ history next, threads.thread i = some ⟨history, .perform event.op next⟩ ∧
      threads'.thread i = some ⟨history ++ [event], next event.answer⟩ := by
  cases step with
  | perform current effect canStart => exact ⟨_, _, current, put_self _⟩

/-- The other threads stay, but for one that is started. -/
theorem Step.thread_other (step : Step meaning threads i event threads') (other : j ≠ i) :
    threads'.thread j = threads.thread j ∨
      ∃ program, meaning.starts i event = some ⟨j, program⟩ ∧ threads.thread j = none ∧
        threads'.thread j = some ⟨[], program⟩ := by
  cases step with
  | perform current effect canStart =>
      rw [put_of_ne other]
      rcases start_thread _ _ j with same | ⟨program, new, started⟩
      · exact .inl same
      · exact .inr ⟨program, new, canStart j program new, started⟩

/-- A thread that takes a step has not come to its end. -/
theorem Step.any_self (step : Step meaning threads i event threads')
    (ended : Thread (sig i) (α i) → Bool)
    (active : ∀ history op next, ended ⟨history, .perform op next⟩ = false) :
    (threads.thread i).any ended = false := by
  obtain ⟨history, next, performs, _⟩ := step.thread_self
  rw [performs]
  exact active _ _ _

/-- A thread that has come to its end stays as it is. -/
theorem Step.thread_of_ended (step : Step meaning threads i event threads')
    (ended : Thread (sig j) (α j) → Bool)
    (active : ∀ history op next, ended ⟨history, .perform op next⟩ = false)
    (done : (threads.thread j).any ended = true) : threads'.thread j = threads.thread j := by
  by_cases same : j = i
  · subst same
    rw [step.any_self ended active] at done
    cases done
  · rcases step.thread_other same with kept | ⟨_, _, absent, _⟩
    · exact kept
    · rw [absent] at done
      cases done

/-- What a thread has done, which is nothing before it is started. -/
def history (threads : Threads sig α σ) (i : ι) : History (sig i) :=
  match threads.thread i with
  | some thread => thread.history
  | none => []

omit [DecidableEq ι] in
theorem history_of_thread {thread : Thread (sig i) (α i)}
    (there : threads.thread i = some thread) : threads.history i = thread.history := by
  rw [history, there]

theorem Step.history_self (step : Step meaning threads i event threads') :
    threads'.history i = threads.history i ++ [event] := by
  obtain ⟨history, next, performs, performed⟩ := step.thread_self
  rw [history_of_thread performed, history_of_thread performs]

theorem Step.history_other (step : Step meaning threads i event threads') (other : j ≠ i) :
    threads'.history j = threads.history j := by
  rcases step.thread_other other with same | ⟨program, _, absent, started⟩
  · rw [history, same, history]
  · rw [history_of_thread started, history, absent]

theorem Step.effect (step : Step meaning threads i event threads') :
    meaning.effect i threads event = some threads'.shared := by
  cases step with
  | perform current effect canStart =>
      rw [put, shared_start]
      exact effect

end Thread

end Threads

/-! ## Threads on their own -/

namespace Threads

variable [DecidableEq ι] {meaning : Meaning sig α σ}
  {allowed : Threads sig α σ → (i : ι) → Event (sig i) → Prop} {first threads : Threads sig α σ}
  {i : ι}

/-- What a contract says about a thread that is there from the start holds in every run. -/
theorem safe_of_reaches {contract : Contract (sig i)} {post : History (sig i) → α i → Prop}
    (noPromise : ∀ history event, contract.answers history event)
    {thread : Thread (sig i) (α i)} (there : first.thread i = some thread)
    (safe : Safe contract post thread.rest thread.history)
    (reaches : Reaches meaning allowed first threads) :
    ∃ thread', threads.thread i = some thread' ∧
      Safe contract post thread'.rest thread'.history := by
  induction reaches with
  | first => exact ⟨thread, there, safe⟩
  | @step threads threads' j event _ _ step ih =>
      obtain ⟨current, here, kept⟩ := ih
      by_cases same : i = j
      · subst same
        obtain ⟨history, next, performs, performed⟩ := step.thread_self
        obtain rfl := Option.some.inj (here.symm.trans performs)
        exact ⟨_, performed, kept.2 event.answer (noPromise _ _)⟩
      · rcases step.thread_other same with unchanged | ⟨program, _, absent, _⟩
        · exact ⟨current, unchanged.trans here, kept⟩
        · cases here.symm.trans absent

/-- A thread performs an operation that starts no other thread. -/
theorem Reaches.perform (reaches : Reaches meaning allowed first threads)
    {history : History (sig i)} {op : (sig i).Op} {answer : (sig i).Answer op}
    {next : (sig i).Answer op → Program (sig i) (α i)} {shared : σ}
    (current : threads.thread i = some ⟨history, .perform op next⟩)
    (isAllowed : allowed threads i ⟨op, answer⟩)
    (effect : meaning.effect i threads ⟨op, answer⟩ = some shared)
    (silent : meaning.starts i ⟨op, answer⟩ = none) :
    Reaches meaning allowed first
      (put { threads with shared := shared } i ⟨history ++ [⟨op, answer⟩], next answer⟩) := by
  have canStart : threads.CanStart (meaning.starts i ⟨op, answer⟩) := by
    rw [silent]
    exact fun _ _ new => by cases new
  have step := Step.perform current effect canStart
  rw [silent] at step
  exact .step reaches isAllowed step

/-- An operation that changes nothing but its own thread. -/
def Harmless (meaning : Meaning sig α σ)
    (allowed : Threads sig α σ → (i : ι) → Event (sig i) → Prop) (threads : Threads sig α σ)
    (i : ι) (event : Event (sig i)) : Prop :=
  allowed threads i event ∧ meaning.effect i threads event = some threads.shared ∧
    meaning.starts i event = none

@[simp] theorem put_put (thread thread' : Thread (sig i) (α i)) :
    (threads.put i thread).put i thread' = threads.put i thread' := by
  rw [put, put, put, Function.update_idem]

theorem put_eq_self {thread : Thread (sig i) (α i)} (there : threads.thread i = some thread) :
    threads.put i thread = threads := by
  rw [put, ← there, Function.update_eq_self]

/-- A thread comes to the end of a part of its program while the others do nothing. -/
theorem Reaches.exec (reaches : Reaches meaning allowed first threads) {β : Type}
    {oracle : Oracle (sig i)} {program : Program (sig i) β}
    {next : β → Program (sig i) (α i)} {history events : History (sig i)} {value : β}
    (there : threads.thread i = some ⟨history, program.bind next⟩)
    (run : program.exec oracle history = ⟨events, .returned value⟩)
    (harmless : ∀ thread, ∀ event ∈ events,
      Harmless meaning allowed (threads.put i thread) i event) :
    Reaches meaning allowed first (threads.put i ⟨history ++ events, next value⟩) := by
  induction program generalizing threads history events with
  | pure result =>
      cases run
      rw [Program.pure_bind] at there
      rw [List.append_nil, put_eq_self there]
      exact reaches
  | perform op rest ih =>
      rw [Program.exec_perform] at run
      obtain ⟨same, returned⟩ := Run.mk.inj run
      subst same
      obtain ⟨isAllowed, effect, silent⟩ := put_eq_self there ▸ harmless _ _ (List.mem_cons_self ..)
      have performed := reaches.perform there isAllowed effect silent
      have later := ih (oracle history op) performed (put_self _)
        (by rw [← returned]) ?_
      · rw [put_put, List.append_assoc] at later
        exact later
      · intro thread event member
        rw [put_put]
        exact harmless thread event (List.mem_cons_of_mem _ member)
  | panic message => cases run
  | spin => cases run

end Threads

/-! ## Threads that follow protocols -/

/-- A protocol for each thread, which the threads follow that are started, with what is known
of a thread at its end. -/
structure Discipline (meaning : Meaning sig α σ) (φ : ι → Type) where
  protocol : (i : ι) → Protocol (sig i) (φ i)
  ends : (i : ι) → φ i → α i → Prop
  starts : ∀ (i : ι) (start : φ i) (event : Event (sig i)) (j : ι)
    (program : Program (sig j) (α j)), (protocol i).permits start event.op →
      meaning.starts i event = some ⟨j, program⟩ →
        (protocol j).Follows (ends j) program (protocol j).initial

namespace Discipline

open Threads

variable {φ : ι → Type} {meaning : Meaning sig α σ} (discipline : Discipline meaning φ)

/-- Every thread keeps the contract of its protocol from now on. -/
def Obeyed (threads : Threads sig α σ) : Prop :=
  ∀ i thread, threads.thread i = some thread →
    Safe (discipline.protocol i).contract
      (fun later value => discipline.ends i ((discipline.protocol i).phase later) value)
      thread.rest thread.history

/-- The phase of a thread, the initial one before it is started. -/
def phase (threads : Threads sig α σ) (i : ι) : φ i :=
  match threads.thread i with
  | none => (discipline.protocol i).initial
  | some thread => (discipline.protocol i).phase thread.history

variable {discipline} {threads threads' : Threads sig α σ} {i : ι} {event : Event (sig i)}

theorem phase_of_thread {thread : Thread (sig i) (α i)}
    (there : threads.thread i = some thread) :
    discipline.phase threads i = (discipline.protocol i).phase thread.history := by
  rw [phase, there]

theorem phase_eq_history (i : ι) :
    discipline.phase threads i = (discipline.protocol i).phase (threads.history i) := by
  rw [phase, Threads.history]
  cases threads.thread i with
  | none => rfl
  | some thread => rfl

variable [DecidableEq ι]

/-- The phase of the thread that takes a step. -/
theorem phase_step_self (step : Step meaning threads i event threads') :
    discipline.phase threads' i =
      (discipline.protocol i).after (discipline.phase threads i) event := by
  rw [phase_eq_history, step.history_self, Protocol.phase_snoc, phase_eq_history]

/-- The other phases stay. -/
theorem phase_step_other (step : Step meaning threads i event threads') {j : ι}
    (other : j ≠ i) : discipline.phase threads' j = discipline.phase threads j := by
  rw [phase_eq_history, step.history_other other, phase_eq_history]

/-- What a thread does is permitted by its protocol. -/
theorem Obeyed.permits (obeyed : discipline.Obeyed threads)
    (step : Step meaning threads i event threads') :
    (discipline.protocol i).permits (discipline.phase threads i) event.op := by
  obtain ⟨history, next, performs, _⟩ := step.thread_self
  rw [phase_of_thread performs]
  exact (obeyed i _ performs).1

omit [DecidableEq ι] in
/-- A thread that has returned is at one of its ends. -/
theorem Obeyed.ends (obeyed : discipline.Obeyed threads) {history : History (sig i)} {value : α i}
    (there : threads.thread i = some ⟨history, .pure value⟩) :
    discipline.ends i (discipline.phase threads i) value := by
  rw [phase_of_thread there]
  exact obeyed i _ there

theorem Obeyed.step (obeyed : discipline.Obeyed threads)
    (step : Step meaning threads i event threads') : discipline.Obeyed threads' := by
  intro j thread there
  by_cases same : j = i
  · subst same
    obtain ⟨history, next, performs, performed⟩ := step.thread_self
    obtain rfl := Option.some.inj (performed.symm.trans there)
    exact (obeyed j _ performs).2 event.answer trivial
  · rcases step.thread_other same with kept | ⟨program, new, _, started⟩
    · exact obeyed j thread (kept.symm.trans there)
    · obtain rfl := Option.some.inj (started.symm.trans there)
      exact discipline.starts i _ _ j program (obeyed.permits step) new [] rfl

theorem obeyed_of_reaches {allowed : Threads sig α σ → (i : ι) → Event (sig i) → Prop}
    {first : Threads sig α σ} (obeyed : discipline.Obeyed first)
    (reaches : Reaches meaning allowed first threads) : discipline.Obeyed threads := by
  induction reaches with
  | first => exact obeyed
  | step _ _ taken ih => exact ih.step taken

/-- The invariant rule: every step is allowed, and permitted by the protocol of its thread. -/
theorem invariant (discipline : Discipline meaning φ)
    {allowed : Threads sig α σ → (i : ι) → Event (sig i) → Prop} {first : Threads sig α σ}
    (obeyed : discipline.Obeyed first) (holds : Threads sig α σ → Prop) (base : holds first)
    (step : ∀ (threads threads' : Threads sig α σ) (i : ι) (event : Event (sig i)),
      holds threads → allowed threads i event →
        (discipline.protocol i).permits (discipline.phase threads i) event.op →
          Step meaning threads i event threads' → holds threads')
    (reaches : Reaches meaning allowed first threads) : holds threads := by
  induction reaches with
  | first => exact base
  | step reaches isAllowed taken ih =>
      have permitted := (obeyed_of_reaches obeyed reaches).permits taken
      exact step _ _ _ _ ih isAllowed permitted taken

end Discipline

/-! ## Schedules -/

namespace Threads

variable [DecidableEq ι] {meaning : Meaning sig α σ}

/-- Whether a thread can be started. -/
def canStart (threads : Threads sig α σ) : Option ((j : ι) × Program (sig j) (α j)) → Bool
  | none => true
  | some ⟨j, _⟩ => (threads.thread j).isNone

/-- Let thread `i` perform its next operation, with the answer that its oracle gives. -/
def advance (meaning : Meaning sig α σ) (oracle : (i : ι) → Oracle (sig i))
    (threads : Threads sig α σ) (i : ι) : Option (Threads sig α σ) :=
  match threads.thread i with
  | some ⟨history, .perform op next⟩ =>
    let event : Event (sig i) := ⟨op, oracle i history op⟩
    if threads.canStart (meaning.starts i event) then
      (meaning.effect i threads event).map fun shared =>
        (({ threads with shared := shared }).start (meaning.starts i event)).put i
          ⟨history ++ [event], next event.answer⟩
    else
      none
  | _ => none

/-- Let the threads take steps in a given order. -/
def play (meaning : Meaning sig α σ) (oracle : (i : ι) → Oracle (sig i)) :
    List ι → Threads sig α σ → Option (Threads sig α σ)
  | [], threads => some threads
  | i :: schedule, threads => (threads.advance meaning oracle i).bind (play meaning oracle schedule)

variable {oracle : (i : ι) → Oracle (sig i)} {threads threads' : Threads sig α σ} {i : ι}

omit [DecidableEq ι] in
theorem canStart_iff {new : Option ((j : ι) × Program (sig j) (α j))} :
    threads.canStart new = true ↔ threads.CanStart new := by
  cases new with
  | none => exact iff_of_true rfl fun _ _ equal => by cases equal
  | some started =>
      rw [canStart, Option.isNone_iff_eq_none]
      exact ⟨fun unused _ _ equal => by cases equal; exact unused, fun can => can _ _ rfl⟩

/-- What a schedule does is a step. -/
theorem step_of_advance (advanced : threads.advance meaning oracle i = some threads') :
    ∃ event, Step meaning threads i event threads' := by
  unfold advance at advanced
  split at advanced
  · next history op next current =>
      dsimp only at advanced
      split at advanced
      · next can =>
          obtain ⟨shared, effect, rfl⟩ := Option.map_eq_some_iff.mp advanced
          exact ⟨_, .perform current effect (canStart_iff.mp can)⟩
      · cases advanced
  · cases advanced

/-- A schedule whose steps are allowed in the states of an invariant, which they keep. -/
theorem reaches_of_play_keeping (keeps : Threads sig α σ → Prop)
    {allowed : Threads sig α σ → (i : ι) → Event (sig i) → Prop} {first : Threads sig α σ}
    {schedule : List ι}
    (areAllowed : ∀ i ∈ schedule, ∀ threads event, keeps threads → allowed threads i event)
    (kept : ∀ i ∈ schedule, ∀ threads threads' event, Step meaning threads i event threads' →
      keeps threads → keeps threads')
    (reaches : Reaches meaning allowed first threads) (holds : keeps threads)
    (played : threads.play meaning oracle schedule = some threads') :
    Reaches meaning allowed first threads' := by
  induction schedule generalizing threads with
  | nil =>
      cases played
      exact reaches
  | cons i schedule ih =>
      obtain ⟨hop, advanced, later⟩ := Option.bind_eq_some_iff.mp played
      obtain ⟨event, taken⟩ := step_of_advance advanced
      obtain ⟨here, there⟩ := List.forall_mem_cons.mp areAllowed
      obtain ⟨keptHere, keptThere⟩ := List.forall_mem_cons.mp kept
      have stepped := Reaches.step reaches (here threads event holds) taken
      exact ih there keptThere stepped (keptHere _ _ _ taken holds) later

/-- A schedule of allowed steps reaches its end. -/
theorem reaches_of_play {allowed : Threads sig α σ → (i : ι) → Event (sig i) → Prop}
    {first : Threads sig α σ} {schedule : List ι}
    (areAllowed : ∀ i ∈ schedule, ∀ threads event, allowed threads i event)
    (reaches : Reaches meaning allowed first threads)
    (played : threads.play meaning oracle schedule = some threads') :
    Reaches meaning allowed first threads' :=
  reaches_of_play_keeping (fun _ => True)
    (fun i member threads event _ => areAllowed i member threads event)
    (fun _ _ _ _ _ _ _ => trivial) reaches trivial played

end Threads

end RbctlDsl.Lib
