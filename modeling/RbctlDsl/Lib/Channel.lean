import RbctlDsl.Lib.Threads

/-!
# Channels

A channel in the shared state of parallel threads.  Any thread may put messages in at the end,
one thread takes them out at the front, and once that thread is gone nothing goes in any more.
The history of the reader and of one sender tell what has become of the sender's messages in
every order of steps, without a history of the whole.
-/

namespace RbctlDsl.Lib

variable {ι : Type} {sig : ι → Signature} {α : ι → Type} {σ μ : Type}

/-- What a channel holds, what an operation puts in and takes out, and whether it is closed. -/
structure Channel (sig : ι → Signature) (α : ι → Type) (σ μ : Type) where
  contents : σ → List μ
  puts : (i : ι) → Event (sig i) → List μ
  takes : (i : ι) → Event (sig i) → List μ
  closed : Threads sig α σ → Bool

namespace Channel

open Threads

variable [DecidableEq ι]

/-- First in, first out; one reader; and closed for good. -/
structure Lawful (channel : Channel sig α σ μ) (meaning : Meaning sig α σ) (reader : ι) : Prop where
  fifo : ∀ threads threads' i event, Step meaning threads i event threads' →
    channel.takes i event ++ channel.contents threads'.shared =
      channel.contents threads.shared ++
        if channel.closed threads then [] else channel.puts i event
  reads : ∀ i event, i ≠ reader → channel.takes i event = []
  stays : ∀ threads threads' i event, Step meaning threads i event threads' →
    channel.closed threads = true → channel.closed threads' = true

variable (channel : Channel sig α σ μ)

/-- The messages that a thread has had for the channel. -/
def sent (threads : Threads sig α σ) (i : ι) : List μ :=
  (threads.history i).flatMap (channel.puts i)

/-- The messages that the reader has taken. -/
def received (reader : ι) (threads : Threads sig α σ) : List μ :=
  (threads.history reader).flatMap (channel.takes reader)

/-- The messages that have got into the channel. -/
def accepted (reader : ι) (threads : Threads sig α σ) : List μ :=
  channel.received reader threads ++ channel.contents threads.shared

/-- The messages of one thread. -/
def of (owner : μ → ι) (i : ι) (messages : List μ) : List μ :=
  messages.filter fun message => owner message = i

section Step

variable {channel} {meaning : Meaning sig α σ} {reader : ι} {owner : μ → ι}
  {threads threads' : Threads sig α σ} {i j : ι} {event : Event (sig i)}

theorem sent_step_self (step : Step meaning threads i event threads') :
    channel.sent threads' i = channel.sent threads i ++ channel.puts i event := by
  rw [sent, step.history_self, List.flatMap_append, List.flatMap_singleton, sent]

theorem sent_step_other (step : Step meaning threads i event threads') (other : j ≠ i) :
    channel.sent threads' j = channel.sent threads j := by
  rw [sent, step.history_other other, sent]

/-- The messages of a thread are never taken back. -/
theorem isPrefix_sent_step (step : Step meaning threads i event threads') :
    channel.sent threads j <+: channel.sent threads' j := by
  by_cases same : j = i
  · subst same
    rw [sent_step_self step]
    exact List.prefix_append _ _
  · exact ⟨[], (List.append_nil _).trans (sent_step_other step same).symm⟩

theorem received_step_self (step : Step meaning threads i event threads') :
    channel.received i threads' = channel.received i threads ++ channel.takes i event := by
  rw [received, step.history_self, List.flatMap_append, List.flatMap_singleton, received]

theorem received_step_other (step : Step meaning threads i event threads') (other : j ≠ i) :
    channel.received j threads' = channel.received j threads := by
  rw [received, step.history_other other, received]

/-- What gets into the channel with one step. -/
theorem accepted_step (lawful : channel.Lawful meaning reader)
    (step : Step meaning threads i event threads') :
    channel.accepted reader threads' = channel.accepted reader threads ++
      if channel.closed threads then [] else channel.puts i event := by
  have fifo := lawful.fifo _ _ _ _ step
  by_cases same : i = reader
  · subst same
    rw [accepted, received_step_self step, List.append_assoc, fifo, accepted, List.append_assoc]
  · rw [lawful.reads i event same, List.nil_append] at fifo
    rw [accepted, received_step_other step (Ne.symm same), fifo, accepted, List.append_assoc]

omit [DecidableEq ι] in
/-- An operation puts in messages of its own thread only. -/
def Owned (channel : Channel sig α σ μ) (owner : μ → ι) (i : ι) (event : Event (sig i)) : Prop :=
  ∀ message ∈ channel.puts i event, owner message = i

theorem of_puts_self (owned : Owned channel owner i event) :
    of owner i (channel.puts i event) = channel.puts i event := by
  rw [of, List.filter_eq_self]
  exact fun message member => decide_eq_true (owned message member)

theorem of_puts_of_ne (owned : Owned channel owner i event) (ne : i ≠ j) :
    of owner j (channel.puts i event) = [] := by
  rw [of, List.filter_eq_nil_iff]
  intro message member isOther
  exact ne ((owned message member).symm.trans (of_decide_eq_true isOther))

end Step

/-! ## Delivery -/

/-- Of a thread's messages the first ones have got into the channel, in their order, and all of
them as long as the channel is open. -/
structure Delivers (owner : μ → ι) (reader : ι) (threads : Threads sig α σ) (i : ι) : Prop where
  isPrefix : of owner i (channel.accepted reader threads) <+: channel.sent threads i
  complete : channel.closed threads = false →
    of owner i (channel.accepted reader threads) = channel.sent threads i

section Delivers

variable {channel} {meaning : Meaning sig α σ} {reader : ι} {owner : μ → ι}
  {threads threads' : Threads sig α σ} {i j : ι} {event : Event (sig i)}

/-- What of one thread's messages gets in with a step of an open channel is what it has. -/
theorem of_accepted_step (lawful : channel.Lawful meaning reader)
    (owned : Owned channel owner i event) (step : Step meaning threads i event threads')
    (isOpen : channel.closed threads = false)
    (complete : of owner j (channel.accepted reader threads) = channel.sent threads j) :
    of owner j (channel.accepted reader threads') = channel.sent threads' j := by
  rw [accepted_step lawful step, isOpen, if_neg Bool.false_ne_true, of, List.filter_append, ← of,
    ← of, complete]
  by_cases same : j = i
  · subst same
    rw [sent_step_self step, of_puts_self owned]
  · rw [sent_step_other step same, of_puts_of_ne owned (Ne.symm same), List.append_nil]

theorem Delivers.step (delivers : channel.Delivers owner reader threads j)
    (lawful : channel.Lawful meaning reader) (owned : Owned channel owner i event)
    (step : Step meaning threads i event threads') :
    channel.Delivers owner reader threads' j := by
  cases shut : channel.closed threads with
  | false =>
      have all := of_accepted_step lawful owned step shut (delivers.complete shut)
      exact ⟨all ▸ List.prefix_refl _, fun _ => all⟩
  | true =>
      have same : channel.accepted reader threads' = channel.accepted reader threads := by
        rw [accepted_step lawful step, shut, if_pos rfl, List.append_nil]
      refine ⟨?_, fun isOpen => ?_⟩
      · rw [same]
        exact delivers.isPrefix.trans (isPrefix_sent_step step)
      · rw [lawful.stays _ _ _ _ step shut] at isOpen
        cases isOpen

/-- A thread that puts nothing into a closed channel loses nothing. -/
theorem complete_step (lawful : channel.Lawful meaning reader) (owned : Owned channel owner i event)
    (careful : channel.closed threads = true → j = i → channel.puts i event = [])
    (step : Step meaning threads i event threads')
    (complete : of owner j (channel.accepted reader threads) = channel.sent threads j) :
    of owner j (channel.accepted reader threads') = channel.sent threads' j := by
  cases shut : channel.closed threads with
  | false => exact of_accepted_step lawful owned step shut complete
  | true =>
      rw [accepted_step lawful step, shut, if_pos rfl, List.append_nil, complete]
      by_cases same : j = i
      · subst same
        rw [sent_step_self step, careful shut rfl, List.append_nil]
      · rw [sent_step_other step same]

end Delivers

end Channel

end RbctlDsl.Lib
