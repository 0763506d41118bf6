import RbctlDsl.Dsl.UbusTransport
import RbctlDsl.Lib.Traces

/-!
# Sending ubus frames

What calls of `send` leave on the stream.  One call puts its frame there whole, or fails with a
part of it behind.  The transport does not remember such a failure, so the next frame follows
in the middle of the broken one; the frames stay apart as long as the caller stops there.
-/

namespace RbctlDsl.Dsl

open RbctlDsl.Lib RbctlDsl.Proto UnixUbusTransport

variable {Frame : Type}

/-! ## One call -/

/-- What the socket took of one write. -/
def takenBy : Event unixStream → Bytes
  | ⟨.write data, .ok count⟩ => data.take count.val
  | _ => []

/-- The bytes on the stream. -/
def taken (events : History unixStream) : Bytes := events.flatMap takenBy

@[simp] theorem taken_append (first second : History unixStream) :
    taken (first ++ second) = taken first ++ taken second := List.flatMap_append

/-- How a loop that has `bytes` to send ends. -/
inductive Puts (transport : UnixUbusTransport) (bytes : Bytes) (events : History unixStream) :
    Outcome (Except UbusError Unit × UnixUbusTransport) → Prop where
  | whole (all : taken events = bytes) :
      Puts transport bytes events (.returned (.ok (), transport))
  | broken (error : UbusError) {missing : Bytes} (short : missing ≠ [])
      (part : taken events ++ missing = bytes) :
      Puts transport bytes events (.returned (.error error, transport))
  | unfinished (part : taken events <+: bytes) : Puts transport bytes events .spinning

theorem Puts.after {transport : UnixUbusTransport} {bytes rest : Bytes}
    {first events : History unixStream}
    {outcome : Outcome (Except UbusError Unit × UnixUbusTransport)}
    (puts : Puts transport rest events outcome) (split : taken first ++ rest = bytes) :
    Puts transport bytes (first ++ events) outcome := by
  subst split
  cases puts with
  | whole all => exact .whole (by rw [taken_append, all])
  | broken error short part =>
      exact .broken error short (by rw [taken_append, List.append_assoc, part])
  | unfinished part =>
      rw [← List.prefix_append_right_inj (taken first), ← taken_append] at part
      exact .unfinished part

section Send

variable {transport : UnixUbusTransport} {bytes : Bytes} {deadline sent : Nat}
  {events : History unixStream}

/-- One pass goes on behind what the socket took, or takes nothing and fails. -/
theorem sendPass_cases {outcome : Outcome (Except UbusError (Nat ⊕ Unit) × UnixUbusTransport)}
    (more : sent < bytes.length)
    (performs : Performs ((sendPass bytes deadline sent) transport) events outcome) :
    (∃ next, outcome = .returned (.ok (.inl next), transport) ∧ next ≤ bytes.length ∧
        taken events ++ bytes.drop next = bytes.drop sent) ∨
      ∃ error, outcome = .returned (.error error, transport) ∧ taken events = [] := by
  rw [sendPass, Method.ite_apply, if_pos more, Method.perform_bind_apply] at performs
  obtain ⟨answer, rest, rfl, later⟩ := Performs.perform_iff.mp performs
  match answer with
  | .ok accepted =>
      dsimp only at later
      split at later
      next none =>
        obtain ⟨rfl, rfl⟩ := Performs.pure_iff.mp later
        refine .inr ⟨.closed, rfl, ?_⟩
        simp [taken, takenBy, none]
      next some =>
        obtain ⟨rfl, rfl⟩ := Performs.pure_iff.mp later
        refine .inl ⟨_, rfl, ?_, ?_⟩
        · have bound := accepted.isLt
          have left : (bytes.drop sent).length = bytes.length - sent := List.length_drop
          omega
        · simp [taken, takenBy, ← List.drop_drop]
  | .error .interrupted =>
      obtain ⟨rfl, rfl⟩ := Performs.pure_iff.mp later
      exact .inl ⟨sent, rfl, Nat.le_of_lt more, rfl⟩
  | .error .wouldBlock =>
      dsimp only at later
      rw [Method.perform_bind_apply] at later
      obtain ⟨now, rest, rfl, waits⟩ := Performs.perform_iff.mp later
      split at waits
      next late =>
        obtain ⟨rfl, rfl⟩ := Performs.pure_iff.mp waits
        exact .inr ⟨_, rfl, rfl⟩
      next early =>
        rw [Method.perform_bind_apply] at waits
        obtain ⟨_, rest, rfl, slept⟩ := Performs.perform_iff.mp waits
        obtain ⟨rfl, rfl⟩ := Performs.pure_iff.mp slept
        exact .inl ⟨sent, rfl, Nat.le_of_lt more, rfl⟩
  | .error (.other text) =>
      obtain ⟨rfl, rfl⟩ := Performs.pure_iff.mp later
      exact .inr ⟨.io text, rfl, rfl⟩

theorem puts_sendLoop {outcome : Outcome (Except UbusError Unit × UnixUbusTransport)} (fuel : Nat)
    (inside : sent ≤ bytes.length)
    (performs : Performs (Method.iterate (sendPass bytes deadline) fuel sent transport)
      events outcome) :
    Puts transport (bytes.drop sent) events outcome := by
  induction fuel generalizing sent events with
  | zero =>
      cases performs
      exact .unfinished List.nil_prefix
  | succ fuel ih =>
      by_cases more : sent < bytes.length
      · rcases performs.method_cases with ⟨value, after, first, rest, rfl, pass, later⟩ |
          ⟨error, after, rfl, pass⟩ | ⟨message, rfl, pass⟩ | ⟨rfl, pass⟩
        · rcases sendPass_cases more pass with ⟨next, same, bound, split⟩ | ⟨_, same, _⟩
          · cases same
            exact (ih bound later).after split
          · cases same
        · rcases sendPass_cases more pass with ⟨_, same, _⟩ | ⟨_, same, none⟩
          · cases same
          · cases same
            have missing : bytes.drop sent ≠ [] := by
              rw [Ne, List.drop_eq_nil_iff]
              exact Nat.not_le.mpr more
            exact .broken error missing (by rw [none, List.nil_append])
        · rcases sendPass_cases more pass with ⟨_, same, _⟩ | ⟨_, same, _⟩ <;> cases same
        · rcases sendPass_cases more pass with ⟨_, same, _⟩ | ⟨_, same, _⟩ <;> cases same
      · obtain rfl := Nat.le_antisymm inside (Nat.le_of_not_lt more)
        rw [Method.iterate, Method.bind_apply, sendPass, if_neg more] at performs
        obtain ⟨rfl, rfl⟩ := Performs.pure_iff.mp performs
        exact .whole List.drop_length.symm

/-- A call puts its frame on the stream as a whole, or fails with a part of it there. -/
theorem puts_send {outcome : Outcome (Except UbusError Unit × UnixUbusTransport)}
    (codec : UbusCodec Frame) (fuel : Nat) (frame : Frame)
    (performs : Performs ((send codec fuel frame) transport) events outcome) :
    Puts transport (codec.writeFrame frame) events outcome := by
  rw [send, Method.perform_bind_apply] at performs
  obtain ⟨start, rest, rfl, later⟩ := Performs.perform_iff.mp performs
  have silent : taken [⟨.now, start⟩] ++ codec.writeFrame frame = codec.writeFrame frame := rfl
  exact (puts_sendLoop fuel (Nat.zero_le _) later).after silent

end Send

/-! ## Many calls -/

/-- One call that was made, and its run. -/
structure SendRecord (Frame : Type) where
  frame : Frame
  run : Run unixStream (Except UbusError Unit × UnixUbusTransport)

/-- Calls of `send` on one transport, whatever the calls before them returned.  A call that does
not return is the last one. -/
def sends (codec : UbusCodec Frame) (fuel : Nat) (oracle : Oracle unixStream) :
    List Frame → UnixUbusTransport → History unixStream → List (SendRecord Frame)
  | [], _, _ => []
  | frame :: frames, transport, history =>
      let run := ((send codec fuel frame) transport).exec oracle history
      ⟨frame, run⟩ ::
        match run.outcome with
        | .returned (_, after) => sends codec fuel oracle frames after (history ++ run.events)
        | _ => []

namespace SendRecord

def succeeded (record : SendRecord Frame) : Bool :=
  match record.run.outcome with
  | .returned (.ok _, _) => true
  | _ => false

/-- The call did not return `Ok`, and the socket had taken something of its frame. -/
def StoppedMidway (record : SendRecord Frame) : Prop :=
  record.succeeded = false ∧ taken record.run.events ≠ []

instance (record : SendRecord Frame) : Decidable record.StoppedMidway :=
  inferInstanceAs (Decidable (_ ∧ _))

/-- What a call that did not return `Ok` may leave: less than its frame, once it has failed. -/
structure Leaves (codec : UbusCodec Frame) (record : SendRecord Frame) (part : Bytes) : Prop where
  failed : record.succeeded = false
  inside : part <+: codec.writeFrame record.frame
  short : record.run.outcome ≠ .spinning → part ≠ codec.writeFrame record.frame

end SendRecord

/-- The bytes that a list of calls put on the stream. -/
def wireBytes (records : List (SendRecord Frame)) : Bytes :=
  records.flatMap fun record => taken record.run.events

/-- The frames whose calls returned `Ok`. -/
def sentFrames (records : List (SendRecord Frame)) : List Frame :=
  (records.filter SendRecord.succeeded).map SendRecord.frame

/-- The stream is the frames of the calls that returned `Ok`, in their order, and then `part`:
nothing, or less than the frame of a call that did not return `Ok`. -/
structure EndsIn (codec : UbusCodec Frame) (records : List (SendRecord Frame)) (part : Bytes) :
    Prop where
  stream : wireBytes records = (sentFrames records).flatMap codec.writeFrame ++ part
  left : part = [] ∨ ∃ record ∈ records, record.Leaves codec part

/-- There is at most one partial frame, and nothing behind it. -/
structure KeepsFraming (codec : UbusCodec Frame) (records : List (SendRecord Frame)) : Prop where
  framed : ∃ part, EndsIn codec records part
  alone : ∀ earlier record later, records = earlier ++ record :: later →
    record.StoppedMidway → wireBytes later = []

/-- Every call finds the stream between two frames: no call before it failed midway. -/
def BetweenFrames (records : List (SendRecord Frame)) : Prop :=
  records.Pairwise fun earlier _ => ¬ earlier.StoppedMidway

instance (records : List (SendRecord Frame)) : Decidable (BetweenFrames records) :=
  inferInstanceAs (Decidable (List.Pairwise _ records))

/-- Nothing is sent after a call that fails midway. -/
theorem BetweenFrames.last {earlier later : List (SendRecord Frame)} {record : SendRecord Frame}
    (between : BetweenFrames (earlier ++ record :: later)) (stopped : record.StoppedMidway) :
    later = [] := by
  have behind := (List.pairwise_cons.mp (List.pairwise_append.mp between).2.1).1
  exact List.eq_nil_iff_forall_not_mem.mpr fun next member => behind next member stopped

section Sends

variable {codec : UbusCodec Frame} {records : List (SendRecord Frame)} {part : Bytes}

theorem sentFrames_cons (record : SendRecord Frame) (records : List (SendRecord Frame)) :
    sentFrames (record :: records) =
      if record.succeeded then record.frame :: sentFrames records else sentFrames records := by
  rw [sentFrames, List.filter_cons]
  split <;> rfl

/-- A call that puts its frame on the stream as a whole, or nothing, does not change how the
stream ends. -/
theorem EndsIn.cons {record : SendRecord Frame} (ends : EndsIn codec records part)
    (puts : taken record.run.events =
      if record.succeeded then codec.writeFrame record.frame else []) :
    EndsIn codec (record :: records) part where
  stream := by
    rw [wireBytes, List.flatMap_cons, puts, ← wireBytes, ends.stream, sentFrames_cons]
    split
    · rw [List.flatMap_cons, List.append_assoc]
    · rfl
  left := ends.left.imp_right fun ⟨other, member, leaves⟩ =>
    ⟨other, List.mem_cons_of_mem _ member, leaves⟩

/-- A call that fails is the end, if none comes after it. -/
theorem EndsIn.last {record : SendRecord Frame}
    (leaves : record.Leaves codec (taken record.run.events)) :
    EndsIn codec [record] (taken record.run.events) where
  stream := by
    rw [sentFrames_cons, leaves.failed]
    exact List.append_nil _
  left := .inr ⟨record, List.mem_singleton_self record, leaves⟩

theorem exists_endsIn (codec : UbusCodec Frame) (fuel : Nat) (oracle : Oracle unixStream)
    (frames : List Frame) (transport : UnixUbusTransport) (history : History unixStream)
    (between : BetweenFrames (sends codec fuel oracle frames transport history)) :
    ∃ part, EndsIn codec (sends codec fuel oracle frames transport history) part := by
  induction frames generalizing transport history with
  | nil => exact ⟨[], rfl, .inl rfl⟩
  | cons frame frames ih =>
      have puts := puts_send codec fuel frame
        (Performs.of_exec oracle ((send codec fuel frame) transport) history)
      rw [sends] at between ⊢
      generalize ((send codec fuel frame) transport).exec oracle history = run at *
      obtain ⟨events, outcome⟩ := run
      dsimp only at *
      cases puts with
      | whole all =>
          obtain ⟨part, ends⟩ := ih transport (history ++ events)
            (List.pairwise_cons.mp between).2
          exact ⟨part, ends.cons all⟩
      | @broken error missing short split =>
          by_cases none : taken events = []
          · obtain ⟨part, ends⟩ := ih transport (history ++ events)
              (List.pairwise_cons.mp between).2
            exact ⟨part, ends.cons none⟩
          · rw [@BetweenFrames.last _ [] _ _ between ⟨rfl, none⟩]
            refine ⟨_, .last ⟨rfl, ⟨missing, split⟩, ?_⟩⟩
            rintro - whole
            dsimp only at whole
            rw [← whole] at split
            exact short (List.append_right_eq_self.mp split)
      | unfinished inside =>
          exact ⟨_, .last ⟨rfl, inside, fun returned => absurd rfl returned⟩⟩

/-- Calls of `send` keep the stream framed in every run in which none is made after one that
failed midway. -/
theorem keepsFraming_of_betweenFrames (codec : UbusCodec Frame) (fuel : Nat)
    (oracle : Oracle unixStream) (frames : List Frame) (transport : UnixUbusTransport)
    (history : History unixStream)
    (between : BetweenFrames (sends codec fuel oracle frames transport history)) :
    KeepsFraming codec (sends codec fuel oracle frames transport history) where
  framed := exists_endsIn codec fuel oracle frames transport history between
  alone := by
    intro earlier record later split stopped
    rw [split] at between
    rw [between.last stopped]
    rfl

end Sends

/-! ## A peer that stops reading -/

/-- The socket takes three bytes with its operation number `start`, then blocks for longer than
`send` waits, and takes everything after that. -/
def clogged (start : Nat) : Oracle unixStream := fun history op =>
  match op with
  | .read _ => .error .wouldBlock
  | .write _ =>
      if history.length = start then .ok (Fin.ofNat _ 3)
      else if history.length = start + 1 then .error .wouldBlock
      else .ok (Fin.last _)
  | .now => if history.length ≤ start then 0 else sendTimeout
  | .sleep _ => ()

def helloInvoke : List UbusHeader := [⟨0, 1, 7⟩, ⟨5, 2, 7⟩]

/-- The first message goes out whole, the second one in part. -/
theorem keepsFraming_of_betweenFrames_clogged :
    BetweenFrames (sends emptyMessages 3 (clogged 3) helloInvoke connected []) ∧
      KeepsFraming emptyMessages
        (sends emptyMessages 3 (clogged 3) helloInvoke connected []) :=
  ⟨by decide, keepsFraming_of_betweenFrames _ _ _ _ _ _ (by decide)⟩

/-- The first message stops after three bytes, and the second one follows it. -/
theorem not_keepsFraming_clogged : ¬ KeepsFraming emptyMessages
    (sends emptyMessages 3 (clogged 1) helloInvoke connected []) := by
  rintro ⟨⟨part, split, -⟩, -⟩
  have bytes : wireBytes (sends emptyMessages 3 (clogged 1) helloInvoke connected []) =
      [0, 0, 0] ++ [0, 5, 0, 2, 0, 0, 0, 7, 0, 0, 0, 4] := by
    decide
  have frames : sentFrames (sends emptyMessages 3 (clogged 1) helloInvoke connected []) =
      [⟨5, 2, 7⟩] := by
    decide
  rw [bytes, frames] at split
  have second : some (0 : UInt8) = some 5 := congrArg (fun stream => stream[1]?) split
  exact absurd second (by decide)

end RbctlDsl.Dsl
