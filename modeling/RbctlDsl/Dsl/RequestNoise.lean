import RbctlDsl.Dsl.Session

/-!
# `Board::request` under noise

What a transport may deliver besides the answer to a request: malformed and foreign frames,
echoes, frames with a wrong checksum, reads that a signal interrupts.  A call passes over
the first kinds, and stops at the last two.  It has no bound of its own on how many packets it
passes over, so an endless sequence of them keeps it from returning.
-/

namespace RbctlDsl.Dsl

open RbctlDsl.Lib RbctlDsl.Proto

namespace Board

/-! ## Noise -/

/-- A receive that a signal interrupts. -/
abbrev interrupted : Event transport := broken "Interrupted system call (os error 4)"

/-- An event that is no valid answer: a packet that is not accepted, or an interrupted read. -/
inductive Noise (subtype : UInt8) (seq : UInt32) : Event transport → Prop where
  | packet {packet : Received rxBufSize}
      (refused : ∀ payload, ¬ Accepts subtype seq packet.data payload) :
      Noise subtype seq (received packet)
  | interrupted : Noise subtype seq interrupted

/-- Noise that a call does not pass over: a response to it that was corrupted on the way, and an
interrupted read. -/
inductive Fatal (subtype : UInt8) (seq : UInt32) : Event transport → Prop where
  | corrupt {packet : Received rxBufSize} (corrupted : Corrupted subtype seq packet.data) :
      Fatal subtype seq (received packet)
  | interrupted : Fatal subtype seq interrupted

/-- `noisy` is a trace with `noise` inserted into it.  A call that is about to send does not
receive, so what is inserted stands before a reception. -/
inductive Inserted : (noise events noisy : History transport) → Prop where
  | nil : Inserted [] [] []
  | keep {noise events noisy : History transport} (event : Event transport)
      (rest : Inserted noise events noisy) : Inserted noise (event :: events) (event :: noisy)
  | insert {noise events noisy : History transport}
      {answer : Except IoError (Received rxBufSize)} (event : Event transport)
      (rest : Inserted noise (⟨.recvInto rxBufSize, answer⟩ :: events) noisy) :
      Inserted (event :: noise) (⟨.recvInto rxBufSize, answer⟩ :: events) (event :: noisy)

namespace Inserted

variable {noise events noisy : History transport}

theorem nil_iff : Inserted noise [] noisy ↔ noise = [] ∧ noisy = [] := by
  constructor
  · intro inserted
    cases inserted
    exact ⟨rfl, rfl⟩
  · rintro ⟨rfl, rfl⟩
    exact .nil

theorem send_cases {tx : Bytes} {answer : Except IoError Unit}
    (inserted : Inserted noise (⟨.send tx, answer⟩ :: events) noisy) :
    ∃ rest, noisy = ⟨.send tx, answer⟩ :: rest ∧ Inserted noise events rest := by
  cases inserted with
  | keep event rest => exact ⟨_, rfl, rest⟩

/-- What is inserted into a sequence is inserted into its first or its second part. -/
theorem append_cases {first second : History transport}
    (inserted : Inserted noise (first ++ second) noisy) :
    ∃ early late before after, noise = early ++ late ∧ noisy = before ++ after ∧
      Inserted early first before ∧ Inserted late second after := by
  generalize parts : first ++ second = events at inserted
  induction inserted generalizing first with
  | nil =>
      obtain ⟨rfl, rfl⟩ := List.append_eq_nil_iff.mp parts
      exact ⟨[], [], [], [], rfl, rfl, .nil, .nil⟩
  | keep event rest ih =>
      cases first with
      | nil =>
          subst parts
          exact ⟨[], _, [], _, rfl, rfl, .nil, .keep event rest⟩
      | cons head first =>
          obtain ⟨rfl, same⟩ := List.cons.inj parts
          obtain ⟨early, late, before, after, rfl, rfl, left, right⟩ := ih same
          exact ⟨early, late, _ :: before, after, rfl, rfl, .keep _ left, right⟩
  | insert event rest ih =>
      cases first with
      | nil =>
          subst parts
          exact ⟨[], _, [], _, rfl, rfl, .nil, .insert event rest⟩
      | cons head first =>
          obtain ⟨early, late, before, after, rfl, rfl, left, right⟩ := ih parts
          obtain ⟨rfl, same⟩ := List.cons.inj parts
          exact ⟨event :: early, late, event :: before, after, rfl, rfl, .insert event left, right⟩

end Inserted

section Noisy

variable {subtype : UInt8} {seq : UInt32} {tx : Bytes} {board : Board} {left : Nat}
  {noise events noisy : History transport}

/-- Noise that is not fatal is a packet that is passed over. -/
theorem Noise.ignored {event : Event transport} (isNoise : Noise subtype seq event)
    (harmless : ¬ Fatal subtype seq event) :
    ∃ packet, event = received packet ∧ Ignored subtype seq packet.data := by
  cases isNoise with
  | interrupted => exact absurd .interrupted harmless
  | @packet packet refused =>
      rcases packet_cases subtype seq packet.data with ignored | ⟨payload, accepts⟩ | corrupted
      · exact ⟨packet, rfl, ignored⟩
      · exact absurd accepts (refused payload)
      · exact absurd (.corrupt corrupted) harmless

/-- Fatal noise ends the drain loop with an error. -/
theorem Fatal.drains {event : Event transport} (board : Board)
    (fatal : Fatal subtype seq event) :
    ∃ error, Drains subtype seq board [event] (.returned (.error error, board)) := by
  cases fatal with
  | corrupt corrupted => exact ⟨_, .corrupt corrupted⟩
  | interrupted => exact ⟨_, .failure _⟩

/-- The first event of a drain is passed over, or it is the last one. -/
theorem Drains.cons_cases {event : Event transport}
    {outcome : Outcome (Except BoardError (Option Bytes) × Board)}
    (drains : Drains subtype seq board (event :: events) outcome) :
    (∃ packet, event = received packet ∧ Ignored subtype seq packet.data ∧
        Drains subtype seq board events outcome) ∨ events = [] := by
  cases drains with
  | skip ignored rest => exact .inl ⟨_, rfl, ignored, rest⟩
  | silence => exact .inr rfl
  | answer accepts => exact .inr rfl
  | corrupt corrupted => exact .inr rfl
  | failure text => exact .inr rfl

/-- Harmless noise leaves the end of a drain as it was. -/
theorem Drains.undisturbed {outcome : Outcome (Except BoardError (Option Bytes) × Board)}
    (drains : Drains subtype seq board events outcome) (inserted : Inserted noise events noisy)
    (isNoise : ∀ event ∈ noise, Noise subtype seq event)
    (harmless : ∀ event ∈ noise, ¬ Fatal subtype seq event) :
    Drains subtype seq board noisy outcome := by
  induction inserted with
  | nil => exact drains
  | insert event rest ih =>
      obtain ⟨packet, rfl, ignored⟩ := (isNoise _ (.head _)).ignored (harmless _ (.head _))
      rw [List.forall_mem_cons] at isNoise harmless
      exact .skip ignored (ih drains isNoise.2 harmless.2)
  | keep event rest ih =>
      rcases drains.cons_cases with ⟨packet, rfl, ignored, later⟩ | rfl
      · exact .skip ignored (ih later isNoise harmless)
      · obtain ⟨rfl, rfl⟩ := Inserted.nil_iff.mp rest
        exact drains

/-- Fatal noise before the end of a drain ends it with an error. -/
theorem Drains.broken_off {outcome : Outcome (Except BoardError (Option Bytes) × Board)}
    (drains : Drains subtype seq board events outcome) (inserted : Inserted noise events noisy)
    (isNoise : ∀ event ∈ noise, Noise subtype seq event)
    (fatal : ∃ event ∈ noise, Fatal subtype seq event) :
    ∃ heard error, heard <+: noisy ∧
      Drains subtype seq board heard (.returned (.error error, board)) := by
  induction inserted with
  | nil =>
      obtain ⟨event, member, _⟩ := fatal
      cases member
  | @insert noise events noisy answer event rest ih =>
      by_cases here : Fatal subtype seq event
      · obtain ⟨error, stops⟩ := here.drains board
        exact ⟨[event], error, ⟨noisy, rfl⟩, stops⟩
      · obtain ⟨packet, rfl, ignored⟩ := (isNoise _ (.head _)).ignored here
        rw [List.forall_mem_cons] at isNoise
        obtain ⟨other, member, isFatal⟩ := fatal
        have later := (List.mem_cons.mp member).resolve_left (fun same => here (same ▸ isFatal))
        obtain ⟨heard, error, ⟨after, rfl⟩, stops⟩ := ih drains isNoise.2 ⟨other, later, isFatal⟩
        exact ⟨received packet :: heard, error, ⟨after, rfl⟩, .skip ignored stops⟩
  | keep event rest ih =>
      rcases drains.cons_cases with ⟨packet, rfl, ignored, later⟩ | rfl
      · obtain ⟨heard, error, ⟨after, rfl⟩, stops⟩ := ih later isNoise fatal
        exact ⟨received packet :: heard, error, ⟨after, rfl⟩, .skip ignored stops⟩
      · -- nothing is inserted behind the last event
        obtain ⟨rfl, rfl⟩ := Inserted.nil_iff.mp rest
        obtain ⟨event, member, _⟩ := fatal
        cases member

/-- Harmless noise leaves the end of a call as it was. -/
theorem Attempts.undisturbed {outcome : Outcome (Except BoardError Bytes × Board)}
    (trace : Attempts subtype seq tx board left events outcome)
    (inserted : Inserted noise events noisy)
    (isNoise : ∀ event ∈ noise, Noise subtype seq event)
    (harmless : ∀ event ∈ noise, ¬ Fatal subtype seq event) :
    Attempts subtype seq tx board left noisy outcome := by
  induction trace generalizing noise noisy with
  | exhausted =>
      obtain ⟨rfl, rfl⟩ := Inserted.nil_iff.mp inserted
      exact .exhausted
  | unsent error =>
      obtain ⟨rest, rfl, after⟩ := inserted.send_cases
      obtain ⟨rfl, rfl⟩ := Inserted.nil_iff.mp after
      exact .unsent error
  | answered drains =>
      obtain ⟨rest, rfl, after⟩ := inserted.send_cases
      exact .answered (drains.undisturbed after isNoise harmless)
  | failed drains =>
      obtain ⟨rest, rfl, after⟩ := inserted.send_cases
      exact .failed (drains.undisturbed after isNoise harmless)
  | cut drains =>
      obtain ⟨rest, rfl, after⟩ := inserted.send_cases
      exact .cut (drains.undisturbed after isNoise harmless)
  | again drains later ih =>
      obtain ⟨rest, rfl, after⟩ := inserted.send_cases
      obtain ⟨early, late, first, second, rfl, rfl, inRound, inRest⟩ := after.append_cases
      rw [List.forall_mem_append] at isNoise harmless
      exact .again (drains.undisturbed inRound isNoise.1 harmless.1)
        (ih inRest isNoise.2 harmless.2)

/-- Fatal noise in the drain of a transmission ends the call with an error. -/
theorem Drains.attempt_broken_off {left : Nat}
    {outcome : Outcome (Except BoardError (Option Bytes) × Board)}
    (drains : Drains subtype seq board events outcome)
    (inserted : Inserted noise (sent tx :: events) noisy)
    (isNoise : ∀ event ∈ noise, Noise subtype seq event)
    (fatal : ∃ event ∈ noise, Fatal subtype seq event) :
    ∃ heard error, heard <+: noisy ∧
      Attempts subtype seq tx board (left + 1) heard (.returned (.error error, board)) := by
  obtain ⟨rest, rfl, after⟩ := inserted.send_cases
  obtain ⟨heard, error, ⟨unheard, rfl⟩, stops⟩ := drains.broken_off after isNoise fatal
  exact ⟨sent tx :: heard, error, ⟨unheard, rfl⟩, .failed stops⟩

/-- Fatal noise before the end of a call ends it with an error. -/
theorem Attempts.broken_off {outcome : Outcome (Except BoardError Bytes × Board)}
    (trace : Attempts subtype seq tx board left events outcome)
    (inserted : Inserted noise events noisy)
    (isNoise : ∀ event ∈ noise, Noise subtype seq event)
    (fatal : ∃ event ∈ noise, Fatal subtype seq event) :
    ∃ heard error, heard <+: noisy ∧
      Attempts subtype seq tx board left heard (.returned (.error error, board)) := by
  induction trace generalizing noise noisy with
  | exhausted =>
      obtain ⟨rfl, rfl⟩ := Inserted.nil_iff.mp inserted
      obtain ⟨event, member, _⟩ := fatal
      cases member
  | unsent error =>
      obtain ⟨rest, rfl, after⟩ := inserted.send_cases
      exact ⟨_, _, ⟨rest, rfl⟩, .unsent error⟩
  | answered drains => exact drains.attempt_broken_off inserted isNoise fatal
  | failed drains => exact drains.attempt_broken_off inserted isNoise fatal
  | cut drains => exact drains.attempt_broken_off inserted isNoise fatal
  | again drains later ih =>
      obtain ⟨rest, rfl, after⟩ := inserted.send_cases
      obtain ⟨early, late, first, second, rfl, rfl, inRound, inRest⟩ := after.append_cases
      rw [List.forall_mem_append] at isNoise
      by_cases inEarly : ∃ event ∈ early, Fatal subtype seq event
      · obtain ⟨heard, error, ⟨unheard, rfl⟩, stops⟩ :=
          drains.broken_off inRound isNoise.1 inEarly
        exact ⟨sent tx :: heard, error, ⟨unheard ++ second, by simp⟩, .failed stops⟩
      · obtain ⟨event, member, isFatal⟩ := fatal
        have inLate : event ∈ late :=
          (List.mem_append.mp member).resolve_left fun found => inEarly ⟨event, found, isFatal⟩
        obtain ⟨heard, error, ⟨unheard, rfl⟩, stops⟩ :=
          ih inRest isNoise.2 ⟨event, inLate, isFatal⟩
        have quietly := drains.undisturbed inRound isNoise.1
          fun event found isFatal => inEarly ⟨event, found, isFatal⟩
        exact ⟨sent tx :: (first ++ heard), error, ⟨unheard, by simp⟩, .again quietly stops⟩

end Noisy

/-- A call that returns an answer returns it also with noise before the answer, exactly if no
noise is a corrupted response to it or an interrupted read. -/
theorem noise_harmless_iff (fuel longer : Nat) (subtype : UInt8) (payload answer : Bytes)
    (board after : Board) (oracle noisyOracle : Oracle transport)
    (history noisyHistory noise noisy : History transport)
    (returned : ((request fuel subtype payload board).exec oracle history).outcome =
      .returned (.ok answer, after))
    (isNoise : ∀ event ∈ noise, Noise subtype board.seq.next.last event)
    (inserted : Inserted noise
      ((request fuel subtype payload board).exec oracle history).events noisy)
    (delivers : Delivers noisyOracle noisyHistory noisy) (enough : noisy.length ≤ longer) :
    ((request longer subtype payload board).exec noisyOracle noisyHistory).outcome =
        .returned (.ok answer, after) ↔
      ∀ event ∈ noise, ¬ Fatal subtype board.seq.next.last event := by
  have fits : fitsTxBuf payload := by
    by_contra large
    rw [request_panics fuel subtype payload board large] at returned
    cases returned
  have trace := attempts_of_request fuel subtype board oracle history fits
  constructor
  · intro same event member isFatal
    obtain ⟨heard, error, ⟨unheard, rfl⟩, stops⟩ :=
      trace.broken_off inserted isNoise ⟨event, member, isFatal⟩
    rw [List.length_append] at enough
    have run := stops.request fits (fun h => by cases h) (Nat.le_of_add_right_le enough)
      (along_append.mp delivers).1
    rw [run] at same
    cases same
  · intro harmless
    have quietly := trace.undisturbed inserted isNoise harmless
    have ends : ((request fuel subtype payload board).exec oracle history).outcome ≠ .spinning := by
      rw [returned]
      exact fun h => by cases h
    rw [quietly.request fits ends enough delivers]
    exact returned

/-! ### One poll, with and without noise -/

/-- The answer to a status poll. -/
def pollAnswer : Received rxBufSize :=
  ⟨(mirror pollCommand).bytes.take rxBufSize, List.length_take_le _ _⟩

/-- A packet of no bytes. -/
def emptyPacket : Received rxBufSize := ⟨[], Nat.zero_le _⟩

theorem ignored_emptyPacket (subtype : UInt8) (seq : UInt32) :
    Ignored subtype seq emptyPacket.data := by
  intro f found
  cases found

theorem noise_emptyPacket (subtype : UInt8) (seq : UInt32) :
    Noise subtype seq (received emptyPacket) := by
  apply Noise.packet
  rintro payload ⟨f, parsed, _⟩
  cases parsed

/-- A fresh board that has made one call. -/
def polledBoard : Board := { Board.new broadcastMac with seq := ⟨1⟩ }

/-- A poll that is answered at once. -/
def promptPoll : History transport := [sent pollCommand.bytes, received pollAnswer]

theorem attempts_promptPoll :
    Attempts 2 1 pollCommand.bytes polledBoard 4 promptPoll
      (.returned (.ok [0x02], polledBoard)) :=
  .answered (.answer (accepts_response (mirror_responds pollCommand) mirror_pollCommand_short))

theorem request_promptPoll :
    (request 2 2 [0x02] (.new broadcastMac)).exec (replay promptPoll quietChannel) [] =
      ⟨promptPoll, .returned (.ok [0x02], polledBoard)⟩ :=
  Attempts.request (by decide) attempts_promptPoll (fun h => by cases h) (by decide)
    (along_replay _ _)

/-- The poll with an event before its answer. -/
def noisyPoll (event : Event transport) : History transport :=
  [sent pollCommand.bytes, event, received pollAnswer]

theorem inserted_noisyPoll (event : Event transport) :
    Inserted [event] promptPoll (noisyPoll event) :=
  .keep _ (.insert event (.keep _ .nil))

theorem noise_harmless_iff_emptyPacket :
    ((request 3 2 [0x02] (.new broadcastMac)).exec
      (replay (noisyPoll (received emptyPacket)) quietChannel) []).outcome =
        .returned (.ok [0x02], polledBoard) ↔
      ∀ event ∈ [received emptyPacket], ¬ Fatal 2 1 event := by
  refine noise_harmless_iff 2 3 2 [0x02] [0x02] (.new broadcastMac) polledBoard
    (replay promptPoll quietChannel) _ [] [] _ (noisyPoll (received emptyPacket)) ?_ ?_ ?_
    (along_replay _ _) (by decide)
  · rw [request_promptPoll]
  · intro event member
    rw [List.mem_singleton] at member
    rw [member]
    exact noise_emptyPacket _ _
  · rw [request_promptPoll]
    exact inserted_noisyPoll _

/-- A read that a signal interrupts makes the poll fail. -/
theorem not_noise_immune :
    ¬ ∀ (fuel longer : Nat) (subtype : UInt8) (payload answer : Bytes) (board after : Board)
      (oracle noisyOracle : Oracle transport)
      (history noisyHistory noise noisy : History transport),
      ((request fuel subtype payload board).exec oracle history).outcome =
        .returned (.ok answer, after) →
      (∀ event ∈ noise, Noise subtype board.seq.next.last event) →
      Inserted noise ((request fuel subtype payload board).exec oracle history).events noisy →
      Delivers noisyOracle noisyHistory noisy → noisy.length ≤ longer →
      ((request longer subtype payload board).exec noisyOracle noisyHistory).outcome =
        .returned (.ok answer, after) := by
  intro immune
  have isNoise : ∀ event ∈ [interrupted], Noise 2 1 event := by
    intro event member
    rw [List.mem_singleton] at member
    rw [member]
    exact .interrupted
  have survives := immune 2 3 2 [0x02] [0x02] (.new broadcastMac) polledBoard
    (replay promptPoll quietChannel) (replay (noisyPoll interrupted) quietChannel) [] []
    [interrupted] (noisyPoll interrupted) (by rw [request_promptPoll]) isNoise
    (by rw [request_promptPoll]; exact inserted_noisyPoll _) (along_replay _ _) (by decide)
  -- the call ends at the interrupted read, and the answer behind it is never received
  have trace : Attempts 2 1 pollCommand.bytes polledBoard 4
      [sent pollCommand.bytes, interrupted]
      (.returned (.error (.io (.other "Interrupted system call (os error 4)")), polledBoard)) :=
    .failed (.failure _)
  have heard : Delivers (replay (noisyPoll interrupted) quietChannel) []
      ([sent pollCommand.bytes, interrupted] ++ [received pollAnswer]) := along_replay _ _
  have run : (request 3 2 [0x02] (.new broadcastMac)).exec
      (replay (noisyPoll interrupted) quietChannel) [] = ⟨_, _⟩ :=
    Attempts.request (by decide) trace (fun h => by cases h) (by decide) (along_append.mp heard).1
  rw [run] at survives
  cases survives

/-! ## Endless noise -/

/-- What has happened after a number of further receptions. -/
def listened (oracle : Oracle transport) : Nat → History transport → History transport
  | 0, history => history
  | count + 1, history =>
      listened oracle count
        (history ++ [⟨.recvInto rxBufSize, oracle history (.recvInto rxBufSize)⟩])

/-- From here on, the transport delivers packets that a call passes over, and never anything
else. -/
def Endless (oracle : Oracle transport) (subtype : UInt8) (seq : UInt32)
    (history : History transport) : Prop :=
  ∀ count, ∃ packet : Received rxBufSize,
    oracle (listened oracle count history) (.recvInto rxBufSize) = .ok packet ∧
      Ignored subtype seq packet.data

/-- One of the transmissions of a call, and not only silent ones before it, is followed by
endless noise. -/
inductive Flooded (oracle : Oracle transport) (subtype : UInt8) (seq : UInt32) (tx : Bytes) :
    Nat → History transport → Prop where
  | now {left : Nat} {history : History transport} (accepted : oracle history (.send tx) = .ok ())
      (endless : Endless oracle subtype seq (history ++ [sent tx])) :
      Flooded oracle subtype seq tx (left + 1) history
  | later {left : Nat} {history : History transport} (packets : List (Received rxBufSize))
      (passed : ∀ packet ∈ packets, Ignored subtype seq packet.data)
      (delivers : Delivers oracle history (sent tx :: (packets.map received ++ [quiet])))
      (rest : Flooded oracle subtype seq tx left
        (history ++ sent tx :: (packets.map received ++ [quiet]))) :
      Flooded oracle subtype seq tx (left + 1) history

section Endless

variable {oracle : Oracle transport} {subtype : UInt8} {seq : UInt32} {tx : Bytes}
  {board : Board} {left : Nat} {history events : History transport}

theorem Endless.step (endless : Endless oracle subtype seq history) :
    ∃ packet, oracle history (.recvInto rxBufSize) = .ok packet ∧
      Ignored subtype seq packet.data ∧
      Endless oracle subtype seq (history ++ [received packet]) := by
  obtain ⟨packet, first, ignored⟩ := endless 0
  have delivered : oracle history (.recvInto rxBufSize) = .ok packet := first
  refine ⟨packet, delivered, ignored, fun count => ?_⟩
  have later := endless (count + 1)
  rw [listened, delivered] at later
  exact later

/-- A drain under endless noise does not end. -/
theorem Endless.spins {outcome : Outcome (Except BoardError (Option Bytes) × Board)}
    (endless : Endless oracle subtype seq history)
    (drains : Drains subtype seq board events outcome)
    (delivers : Delivers oracle history events) : outcome = .spinning := by
  induction drains generalizing history with
  | cut => rfl
  | skip ignored rest ih =>
      obtain ⟨packet, delivered, _, later⟩ := endless.step
      obtain ⟨given, delivers⟩ := delivers
      cases given.trans delivered
      exact ih later delivers
  | silence =>
      obtain ⟨packet, delivered, _, _⟩ := endless.step
      cases delivers.1.trans delivered
  | failure text =>
      obtain ⟨packet, delivered, _, _⟩ := endless.step
      cases delivers.1.trans delivered
  | answer accepts =>
      obtain ⟨packet, delivered, ignored, _⟩ := endless.step
      cases delivers.1.trans delivered
      obtain ⟨f, parsed, isMatch, _⟩ := accepts
      cases isMatch.symm.trans (ignored f parsed)
  | corrupt corrupted =>
      obtain ⟨packet, delivered, ignored, _⟩ := endless.step
      cases delivers.1.trans delivered
      obtain ⟨f, parsed, isMatch, _⟩ := corrupted
      cases isMatch.symm.trans (ignored f parsed)

/-- The next reception is passed over, or it ends the drain. -/
theorem drain_next (oracle : Oracle transport) (subtype : UInt8) (seq : UInt32) (board : Board)
    (history : History transport) :
    (∃ packet : Received rxBufSize, oracle history (.recvInto rxBufSize) = .ok packet ∧
        Ignored subtype seq packet.data) ∨
      ∃ events result, Drains subtype seq board events (.returned (result, board)) ∧
        Delivers oracle history events := by
  cases delivered : oracle history (.recvInto rxBufSize) with
  | error error =>
      right
      cases error with
      | wouldBlock => exact ⟨_, _, .silence, delivered.symm, trivial⟩
      | other text => exact ⟨_, _, .failure text, delivered.symm, trivial⟩
  | ok packet =>
      rcases packet_cases subtype seq packet.data with ignored | ⟨payload, accepts⟩ | corrupted
      · exact .inl ⟨packet, rfl, ignored⟩
      · exact .inr ⟨_, _, .answer accepts, delivered.symm, trivial⟩
      · exact .inr ⟨_, _, .corrupt corrupted, delivered.symm, trivial⟩

/-- A drain whose noise is not endless ends. -/
theorem drain_ends (board : Board) (finite : ¬ Endless oracle subtype seq history) :
    ∃ events result, Drains subtype seq board events (.returned (result, board)) ∧
      Delivers oracle history events := by
  obtain ⟨count, stops⟩ := not_forall.mp finite
  clear finite
  induction count generalizing history with
  | zero => exact (drain_next oracle subtype seq board history).resolve_left stops
  | succ count ih =>
      rcases drain_next oracle subtype seq board history with ⟨packet, delivered, ignored⟩ | ends
      · rw [listened, delivered] at stops
        obtain ⟨events, result, drains, delivers⟩ := ih stops
        exact ⟨_, result, .skip ignored drains, delivered.symm, delivers⟩
      · exact ends

/-- What a transport delivers determines how a drain ends. -/
theorem Drains.unique {other : History transport}
    {outcome second : Outcome (Except BoardError (Option Bytes) × Board)}
    (drains : Drains subtype seq board events outcome)
    (others : Drains subtype seq board other second)
    (ends : outcome ≠ .spinning) (otherEnds : second ≠ .spinning)
    (delivers : Delivers oracle history events) (otherDelivers : Delivers oracle history other) :
    events = other ∧ outcome = second := by
  have long := drains.performs ends (Nat.le_add_right events.length other.length)
  have otherLong := others.performs otherEnds (Nat.le_add_left other.length events.length)
  have same := (long.exec delivers).symm.trans (otherLong.exec otherDelivers)
  exact ⟨congrArg Run.events same, congrArg Run.outcome same⟩

/-- A call whose transport floods it does not end. -/
theorem Flooded.spins {outcome : Outcome (Except BoardError Bytes × Board)}
    (flooded : Flooded oracle subtype seq tx left history)
    (trace : Attempts subtype seq tx board left events outcome)
    (delivers : Delivers oracle history events) : outcome = .spinning := by
  induction flooded generalizing events with
  | now accepted endless =>
      cases trace with
      | cut drains => rfl
      | unsent error => cases delivers.1.trans accepted
      | answered drains => cases endless.spins drains delivers.2
      | failed drains => cases endless.spins drains delivers.2
      | again drains later => cases endless.spins drains (along_append.mp delivers.2).1
  | later packets passed silent rest ih =>
      have quietly : Drains subtype seq board (packets.map received ++ [quiet])
          (.returned (.ok none, board)) := drains_silent passed
      cases trace with
      | cut drains => rfl
      | unsent error => cases delivers.1.trans silent.1.symm
      | answered drains =>
          cases (drains.unique quietly (fun h => by cases h) (fun h => by cases h)
            delivers.2 silent.2).2
      | failed drains =>
          cases (drains.unique quietly (fun h => by cases h) (fun h => by cases h)
            delivers.2 silent.2).2
      | @again left round events outcome drains later =>
          obtain ⟨rfl, _⟩ := drains.unique quietly (fun h => by cases h) (fun h => by cases h)
            (along_append.mp delivers.2).1 silent.2
          apply ih later
          have whole :
              Delivers oracle _ ((sent tx :: (packets.map received ++ [quiet])) ++ events) :=
            delivers
          exact (along_append.mp whole).2

/-- A call whose transport does not flood it ends. -/
theorem attempts_end (board : Board) (finite : ¬ Flooded oracle subtype seq tx left history) :
    ∃ events result, Attempts subtype seq tx board left events (.returned (result, board)) ∧
      Delivers oracle history events := by
  induction left generalizing history with
  | zero => exact ⟨[], _, .exhausted, trivial⟩
  | succ left ih =>
      cases accepted : oracle history (.send tx) with
      | error error => exact ⟨_, _, .unsent error, accepted.symm, trivial⟩
      | ok sending =>
          have quietens : ¬ Endless oracle subtype seq (history ++ [sent tx]) :=
            fun endless => finite (.now accepted endless)
          obtain ⟨round, result, drains, delivers⟩ := drain_ends board quietens
          cases result with
          | error error => exact ⟨_, _, .failed drains, accepted.symm, delivers⟩
          | ok answer =>
              cases answer with
              | some payload => exact ⟨_, _, .answered drains, accepted.symm, delivers⟩
              | none =>
                  obtain ⟨packets, passed, rfl⟩ := drains.silent
                  have whole : Delivers oracle history
                      (sent tx :: (packets.map received ++ [quiet])) := ⟨accepted.symm, delivers⟩
                  obtain ⟨rest, result, later, after⟩ :=
                    ih fun flooded => finite (.later packets passed whole flooded)
                  exact ⟨_, result, .again drains later, along_append.mpr ⟨whole, after⟩⟩

/-- A flooded call never returns, however long it is given. -/
theorem request_spins {payload : Bytes} (fuel : Nat) (fits : fitsTxBuf payload)
    (flooded : Flooded oracle subtype board.seq.next.last
      (transmitted subtype board.seq.next.last board.mac payload fits).bytes
      (board.retries.toNat + 1) history) :
    ((request fuel subtype payload board).exec oracle history).outcome = .spinning :=
  flooded.spins (attempts_of_request fuel subtype board oracle history fits)
    (Program.exec_along oracle _ history)

end Endless

/-- A call returns after finitely many events exactly if its payload fits the transmit buffer
and none of its transmissions is followed by endless noise. -/
theorem request_returns_iff (subtype : UInt8) (payload : Bytes) (board : Board)
    (oracle : Oracle transport) (history : History transport) :
    (∃ fuel result, ((request fuel subtype payload board).exec oracle history).outcome =
        .returned result) ↔
      ∃ fits : fitsTxBuf payload, ¬ Flooded oracle subtype board.seq.next.last
        (transmitted subtype board.seq.next.last board.mac payload fits).bytes
        (board.retries.toNat + 1) history := by
  constructor
  · rintro ⟨fuel, result, returned⟩
    by_cases fits : fitsTxBuf payload
    · refine ⟨fits, fun flooded => ?_⟩
      cases returned.symm.trans (request_spins fuel fits flooded)
    · rw [request_panics fuel subtype payload board fits] at returned
      cases returned
  · rintro ⟨fits, finite⟩
    obtain ⟨events, result, trace, delivers⟩ :=
      attempts_end { board with seq := board.seq.next } finite
    refine ⟨events.length, (result, { board with seq := board.seq.next }), ?_⟩
    rw [trace.request fits (fun h => by cases h) (Nat.le_refl _) delivers]

/-- A transport on which an empty packet arrives whenever one is awaited. -/
def floodChannel : Oracle transport
  | _, .send _ => .ok ()
  | _, .recvInto _ => .ok ⟨[], Nat.zero_le _⟩
  | _, .setTimeout _ => .ok ()

theorem not_request_terminates :
    ¬ ∀ (subtype : UInt8) (payload : Bytes) (board : Board) (oracle : Oracle transport)
      (history : History transport), ∃ fuel result,
        ((request fuel subtype payload board).exec oracle history).outcome =
          .returned result := by
  intro terminates
  obtain ⟨fuel, result, returned⟩ := terminates 2 [0x02] (.new broadcastMac) floodChannel []
  have flooded : Flooded floodChannel 2 1 pollCommand.bytes 4 [] :=
    .now rfl fun count => ⟨emptyPacket, rfl, ignored_emptyPacket 2 1⟩
  cases returned.symm.trans (request_spins fuel (by decide) flooded)

end Board

end RbctlDsl.Dsl
