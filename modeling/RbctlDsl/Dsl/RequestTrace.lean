import RbctlDsl.Dsl.Request
import RbctlDsl.Lib.Traces

/-!
# Traces of `Board::request`

Everything that a call can do on a transport, whatever the transport delivers: which
receptions end the wait after one transmission, and which transmissions make up a call.  A
call never panics, repeats one frame, returns what a valid answer carries, and gives up only
when its budget is spent.
-/

namespace RbctlDsl.Dsl

open RbctlDsl.Lib RbctlDsl.Proto

namespace Board

/-! ## What a received packet is to a call -/

/-- The call goes on past this packet: it is malformed, or no response to the request. -/
def Ignored (subtype : UInt8) (seq : UInt32) (data : Bytes) : Prop :=
  ∀ f, Frame.parse data = some f → matchesRequest subtype seq f = false

/-- A response to the request whose checksum is wrong. -/
def Corrupted (subtype : UInt8) (seq : UInt32) (data : Bytes) : Prop :=
  ∃ f, Frame.parse data = some f ∧ matchesRequest subtype seq f = true ∧
    verifyChecksum f.buf = some false

/-- A valid answer to the request, at the offsets of the wire format. -/
structure Answers (subtype : UInt8) (seq : UInt32) (data payload : Bytes) : Prop where
  magic : data[0x0e]? = some 0x10
  subtype : data[0x0f]? = some subtype
  seq : be32At? data 0x10 = some seq
  payload : ∃ plen, readPayloadLen data = some plen ∧ 0x18 + plen ≤ data.length ∧
    be16At? data 0x16 = some (computeChecksum (coveredBytes data plen)) ∧
    payload = (data.drop 0x18).take plen

section Packets

variable {subtype : UInt8} {seq : UInt32} {data payload : Bytes}

/-- Every packet is passed over, accepted or found corrupted. -/
theorem packet_cases (subtype : UInt8) (seq : UInt32) (data : Bytes) :
    Ignored subtype seq data ∨ (∃ payload, Accepts subtype seq data payload) ∨
      Corrupted subtype seq data := by
  cases parsed : Frame.parse data with
  | none =>
      left
      intro f found
      cases parsed.symm.trans found
  | some f =>
      cases isMatch : matchesRequest subtype seq f with
      | false =>
          left
          intro other found
          cases parsed.symm.trans found
          exact isMatch
      | true =>
          obtain ⟨valid, verified⟩ :=
            Option.isSome_iff_exists.mp (verifyChecksum_isSome f.buf)
          cases valid with
          | true => exact .inr (.inl ⟨f.payload, f, parsed, isMatch, verified, rfl⟩)
          | false => exact .inr (.inr ⟨f, parsed, isMatch, verified⟩)

theorem examine_ignored (ignored : Ignored subtype seq data) (board : Board) :
    examine subtype seq data board = .pure (.ok (.inl ()), board) := by
  unfold examine
  cases parsed : Frame.parse data with
  | none => rfl
  | some f =>
      dsimp only
      rw [ignored f parsed, if_pos rfl, Method.pure_apply]

theorem examine_accepts (accepts : Accepts subtype seq data payload) (board : Board) :
    examine subtype seq data board = .pure (.ok (.inr (some payload)), board) := by
  obtain ⟨f, parsed, isMatch, verified, rfl⟩ := accepts
  simp only [examine, parsed, isMatch, verified]
  rfl

theorem examine_corrupted (corrupted : Corrupted subtype seq data) (board : Board) :
    examine subtype seq data board =
      .pure (.error (.badFrame "checksum mismatch"), board) := by
  obtain ⟨f, parsed, isMatch, verified⟩ := corrupted
  simp only [examine, parsed, isMatch, verified]
  rfl

/-- What is accepted is a valid answer. -/
theorem Accepts.answers (accepts : Accepts subtype seq data payload) :
    Answers subtype seq data payload := by
  obtain ⟨f, parsed, isMatch, verified, rfl⟩ := accepts
  have buffer := Frame.parse_eq_some parsed
  subst buffer
  simp only [matchesRequest, Frame.isResponse, Bool.and_eq_true, beq_iff_eq] at isMatch
  obtain ⟨⟨magic, sub⟩, number⟩ := isMatch
  constructor
  · rw [← show magicResponse = 0x10 from rfl, ← magic]
    exact List.getElem?_eq_getElem _
  · rw [← sub]
    exact List.getElem?_eq_getElem _
  · rw [← number]
    exact (Option.some_get _).symm
  · obtain ⟨plen, read, long, field⟩ := verifyChecksum_eq_true verified
    have declared : f.payloadLen.toNat = plen := by
      have same := read
      rw [readPayloadLen, Option.map_eq_some_iff] at same
      obtain ⟨word, found, rfl⟩ := same
      simp only [Frame.payloadLen, found, Option.get_some]
    refine ⟨plen, read, f.payload_fits plen read, field, ?_⟩
    rw [Frame.payload, declared]
    rfl

end Packets

/-! ## One transmission -/

abbrev sent (tx : Bytes) : Event transport := ⟨.send tx, .ok ()⟩

abbrev received (packet : Received rxBufSize) : Event transport :=
  ⟨.recvInto rxBufSize, .ok packet⟩

/-- The receive timeout. -/
abbrev quiet : Event transport := ⟨.recvInto rxBufSize, .error .wouldBlock⟩

/-- A receive that fails for another reason. -/
abbrev broken (text : String) : Event transport := ⟨.recvInto rxBufSize, .error (.other text)⟩

abbrev drain (fuel : Nat) (subtype : UInt8) (seq : UInt32) :
    Method transport Board BoardError (Option Bytes) :=
  Method.iterate (receive subtype seq) fuel ()

/-- The traces of the drain loop: packets that are passed over, then what ends it. -/
inductive Drains (subtype : UInt8) (seq : UInt32) (board : Board) :
    History transport → Outcome (Except BoardError (Option Bytes) × Board) → Prop where
  | silence : Drains subtype seq board [quiet] (.returned (.ok none, board))
  | answer {packet : Received rxBufSize} {payload : Bytes}
      (accepts : Accepts subtype seq packet.data payload) :
      Drains subtype seq board [received packet] (.returned (.ok (some payload), board))
  | corrupt {packet : Received rxBufSize} (corrupted : Corrupted subtype seq packet.data) :
      Drains subtype seq board [received packet]
        (.returned (.error (.badFrame "checksum mismatch"), board))
  | failure (text : String) :
      Drains subtype seq board [broken text] (.returned (.error (.io (.other text)), board))
  | skip {packet : Received rxBufSize} {events : History transport}
      {outcome : Outcome (Except BoardError (Option Bytes) × Board)}
      (ignored : Ignored subtype seq packet.data) (rest : Drains subtype seq board events outcome) :
      Drains subtype seq board (received packet :: events) outcome
  | cut : Drains subtype seq board [] .spinning

section Drain

variable {subtype : UInt8} {seq : UInt32} {board : Board} {fuel : Nat} {events : History transport}
  {outcome : Outcome (Except BoardError (Option Bytes) × Board)}

/-- The rest of the drain loop, after a packet. -/
def afterExamine (fuel : Nat) (subtype : UInt8) (seq : UInt32) :
    Unit ⊕ Option Bytes → Method transport Board BoardError (Option Bytes)
  | .inl () => drain fuel subtype seq
  | .inr value => pure value

/-- The rest of the drain loop, after a reception. -/
def afterReceive (fuel : Nat) (subtype : UInt8) (seq : UInt32) (board : Board)
    (answer : Except IoError (Received rxBufSize)) :
    Program transport (Except BoardError (Option Bytes) × Board) :=
  match answer with
  | .ok packet =>
      (examine subtype seq packet.data board).bind
        (Method.resume (afterExamine fuel subtype seq))
  | .error .wouldBlock => .pure (.ok none, board)
  | .error (.other text) => .pure (.error (.io (.other text)), board)

theorem drain_succ (fuel : Nat) (subtype : UInt8) (seq : UInt32) (board : Board) :
    drain (fuel + 1) subtype seq board =
      .perform (.recvInto rxBufSize) (afterReceive fuel subtype seq board) := by
  rw [drain, Method.iterate, receive, Method.bind_apply, Method.perform_bind_apply,
    Program.perform_bind]
  congr 1
  funext answer
  cases answer with
  | ok packet =>
      rw [afterReceive]
      congr 2
      funext next
      cases next with
      | inl locals => rfl
      | inr value => rfl
  | error error =>
      cases error with
      | wouldBlock => rfl
      | other text => rfl

theorem afterReceive_ignored {packet : Received rxBufSize}
    (ignored : Ignored subtype seq packet.data) :
    afterReceive fuel subtype seq board (.ok packet) = drain fuel subtype seq board := by
  rw [afterReceive, examine_ignored ignored]
  rfl

theorem afterReceive_accepts {packet : Received rxBufSize} {payload : Bytes}
    (accepts : Accepts subtype seq packet.data payload) :
    afterReceive fuel subtype seq board (.ok packet) = .pure (.ok (some payload), board) := by
  rw [afterReceive, examine_accepts accepts]
  rfl

theorem afterReceive_corrupted {packet : Received rxBufSize}
    (corrupted : Corrupted subtype seq packet.data) :
    afterReceive fuel subtype seq board (.ok packet) =
      .pure (.error (.badFrame "checksum mismatch"), board) := by
  rw [afterReceive, examine_corrupted corrupted]
  rfl

/-- Every trace of the drain loop is one of these. -/
theorem drains_of_performs (performs : Performs (drain fuel subtype seq board) events outcome) :
    Drains subtype seq board events outcome := by
  induction fuel generalizing events with
  | zero =>
      cases performs
      exact .cut
  | succ fuel ih =>
      rw [drain_succ] at performs
      obtain ⟨answer, rest, rfl, later⟩ := Performs.perform_iff.mp performs
      cases answer with
      | error error =>
          cases error with
          | wouldBlock =>
              cases later
              exact .silence
          | other text =>
              cases later
              exact .failure text
      | ok packet =>
          rcases packet_cases subtype seq packet.data with ignored | ⟨payload, accepts⟩ | corrupted
          · rw [afterReceive_ignored ignored] at later
            exact .skip ignored (ih later)
          · rw [afterReceive_accepts accepts] at later
            cases later
            exact .answer accepts
          · rw [afterReceive_corrupted corrupted] at later
            cases later
            exact .corrupt corrupted

/-- The drain loop returns or is cut off, and leaves the board alone. -/
theorem Drains.ends (drains : Drains subtype seq board events outcome) :
    outcome = .spinning ∨ ∃ result, outcome = .returned (result, board) := by
  induction drains with
  | silence => exact .inr ⟨_, rfl⟩
  | answer accepts => exact .inr ⟨_, rfl⟩
  | corrupt corrupted => exact .inr ⟨_, rfl⟩
  | failure text => exact .inr ⟨_, rfl⟩
  | skip ignored rest ih => exact ih
  | cut => exact .inl rfl

/-- A trace that ends is one of the drain loop, as soon as the fuel covers its receptions. -/
theorem Drains.performs (drains : Drains subtype seq board events outcome)
    (ends : outcome ≠ .spinning) (enough : events.length ≤ fuel) :
    Performs (drain fuel subtype seq board) events outcome := by
  induction drains generalizing fuel with
  | cut => exact absurd rfl ends
  | skip ignored rest ih =>
      obtain ⟨fuel, rfl⟩ := Nat.exists_eq_succ_of_ne_zero (Nat.ne_zero_of_lt enough)
      rw [drain_succ]
      refine .perform _ ?_
      rw [afterReceive_ignored ignored]
      exact ih ends (Nat.le_of_succ_le_succ enough)
  | silence =>
      obtain ⟨fuel, rfl⟩ := Nat.exists_eq_succ_of_ne_zero (Nat.ne_zero_of_lt enough)
      rw [drain_succ]
      exact .perform _ (.pure _)
  | failure text =>
      obtain ⟨fuel, rfl⟩ := Nat.exists_eq_succ_of_ne_zero (Nat.ne_zero_of_lt enough)
      rw [drain_succ]
      exact .perform _ (.pure _)
  | answer accepts =>
      obtain ⟨fuel, rfl⟩ := Nat.exists_eq_succ_of_ne_zero (Nat.ne_zero_of_lt enough)
      rw [drain_succ]
      refine .perform _ ?_
      rw [afterReceive_accepts accepts]
      exact .pure _
  | corrupt corrupted =>
      obtain ⟨fuel, rfl⟩ := Nat.exists_eq_succ_of_ne_zero (Nat.ne_zero_of_lt enough)
      rw [drain_succ]
      refine .perform _ ?_
      rw [afterReceive_corrupted corrupted]
      exact .pure _

end Drain

/-! ## A call -/

/-- The traces of a call with a number of attempts left: transmissions that stay without an
answer, then what ends the call. -/
inductive Attempts (subtype : UInt8) (seq : UInt32) (tx : Bytes) (board : Board) :
    Nat → History transport → Outcome (Except BoardError Bytes × Board) → Prop where
  | exhausted : Attempts subtype seq tx board 0 [] (.returned (.error .timeout, board))
  | unsent {left : Nat} (error : IoError) :
      Attempts subtype seq tx board (left + 1) [⟨.send tx, .error error⟩]
        (.returned (.error (.io error), board))
  | answered {left : Nat} {round : History transport} {payload : Bytes}
      (drains : Drains subtype seq board round (.returned (.ok (some payload), board))) :
      Attempts subtype seq tx board (left + 1) (sent tx :: round)
        (.returned (.ok payload, board))
  | failed {left : Nat} {round : History transport} {error : BoardError}
      (drains : Drains subtype seq board round (.returned (.error error, board))) :
      Attempts subtype seq tx board (left + 1) (sent tx :: round)
        (.returned (.error error, board))
  | cut {left : Nat} {round : History transport}
      (drains : Drains subtype seq board round .spinning) :
      Attempts subtype seq tx board (left + 1) (sent tx :: round) .spinning
  | again {left : Nat} {round rest : History transport}
      {outcome : Outcome (Except BoardError Bytes × Board)}
      (drains : Drains subtype seq board round (.returned (.ok none, board)))
      (later : Attempts subtype seq tx board left rest outcome) :
      Attempts subtype seq tx board (left + 1) (sent tx :: (round ++ rest)) outcome

section Call

variable {subtype : UInt8} {seq : UInt32} {tx : Bytes} {board : Board} {fuel left : Nat}
  {events : History transport} {outcome : Outcome (Except BoardError Bytes × Board)}

/-- The rest of a call, after the drain loop of one transmission has ended. -/
def afterDrain (fuel : Nat) (subtype : UInt8) (seq : UInt32) (tx : Bytes) (left : Nat) :
    Option Bytes → Method transport Board BoardError Bytes
  | some payload => pure payload
  | none => attempts fuel subtype seq tx left

/-- The rest of a call, after a transmission. -/
def afterSend (fuel : Nat) (subtype : UInt8) (seq : UInt32) (tx : Bytes) (left : Nat)
    (board : Board) :
    Except IoError Unit → Program transport (Except BoardError Bytes × Board)
  | .error error => .pure (.error (.io error), board)
  | .ok () => (drain fuel subtype seq board).bind
      (Method.resume (afterDrain fuel subtype seq tx left))

theorem attempts_succ (fuel left : Nat) (subtype : UInt8) (seq : UInt32) (tx : Bytes)
    (board : Board) :
    attempts fuel subtype seq tx (left + 1) board =
      .perform (.send tx) (afterSend fuel subtype seq tx left board) := by
  rw [attempts, Method.perform_bind_apply]
  congr 1
  funext answer
  cases answer with
  | ok sent =>
      dsimp only [afterSend]
      congr 2
  | error error => rfl

/-- Every trace of a call is one of these. -/
theorem attempts_of_performs
    (performs : Performs (attempts fuel subtype seq tx left board) events outcome) :
    Attempts subtype seq tx board left events outcome := by
  induction left generalizing events with
  | zero =>
      cases performs
      exact .exhausted
  | succ left ih =>
      rw [attempts_succ] at performs
      obtain ⟨answer, rest, rfl, later⟩ := Performs.perform_iff.mp performs
      cases answer with
      | error error =>
          cases later
          exact .unsent error
      | ok sent =>
          rcases later.bind_cases with ⟨⟨result, after⟩, round, others, rfl, first, second⟩ |
            ⟨message, rfl, first⟩ | ⟨rfl, first⟩
          · have drains := drains_of_performs first
            obtain spins | ⟨_, returned⟩ := drains.ends
            · cases spins
            cases returned
            cases result with
            | error error =>
                cases second
                rw [List.append_nil]
                exact .failed drains
            | ok payload =>
                cases payload with
                | some payload =>
                    cases second
                    rw [List.append_nil]
                    exact .answered drains
                | none => exact .again drains (ih second)
          · obtain spins | ⟨_, returned⟩ := (drains_of_performs first).ends
            · cases spins
            · cases returned
          · exact .cut (drains_of_performs first)

/-- A trace that ends is one of a call, as soon as the fuel covers its receptions. -/
theorem Attempts.performs (trace : Attempts subtype seq tx board left events outcome)
    (ends : outcome ≠ .spinning) (enough : events.length ≤ fuel) :
    Performs (attempts fuel subtype seq tx left board) events outcome := by
  induction trace with
  | exhausted => exact .pure _
  | cut drains => exact absurd rfl ends
  | unsent error =>
      rw [attempts_succ]
      exact .perform _ (.pure _)
  | @answered left round payload drains =>
      rw [attempts_succ, ← List.append_nil round]
      have covered : round.length ≤ fuel := Nat.le_of_succ_le enough
      exact .perform _ ((drains.performs (fun h => by cases h) covered).bind (.pure _))
  | @failed left round error drains =>
      rw [attempts_succ, ← List.append_nil round]
      have covered : round.length ≤ fuel := Nat.le_of_succ_le enough
      exact .perform _ ((drains.performs (fun h => by cases h) covered).bind (.pure _))
  | @again left round rest outcome drains later ih =>
      rw [List.length_cons, List.length_append] at enough
      rw [attempts_succ]
      have first := drains.performs (fun h => by cases h) (by omega : round.length ≤ fuel)
      exact .perform _ (first.bind (ih ends (by omega)))

end Call

/-- The transport gives the answers of `events`, from `history` on. -/
def Delivers (oracle : Oracle transport) (history events : History transport) : Prop :=
  Along (fun before event => event.answer = oracle before event.op) history events

/-- A trace of a call that ends is the run of every transport that delivers it. -/
theorem Attempts.request {subtype : UInt8} {payload : Bytes} {board : Board} {fuel : Nat}
    {oracle : Oracle transport} {history events : History transport}
    {outcome : Outcome (Except BoardError Bytes × Board)} (fits : fitsTxBuf payload)
    (trace : Attempts subtype board.seq.next.last
      (transmitted subtype board.seq.next.last board.mac payload fits).bytes
      { board with seq := board.seq.next } (board.retries.toNat + 1) events outcome)
    (ends : outcome ≠ .spinning) (enough : events.length ≤ fuel)
    (delivers : Delivers oracle history events) :
    (request fuel subtype payload board).exec oracle history = ⟨events, outcome⟩ := by
  rw [request_apply fuel subtype payload board fits]
  exact (trace.performs ends enough).exec delivers

/-! ## What a call guarantees -/

/-- The frames that were handed to the transport, in order. -/
def transmissions (events : History transport) : List Bytes :=
  events.filterMap fun event =>
    match event.op with
    | .send data => some data
    | _ => none

@[simp] theorem transmissions_append (earlier later : History transport) :
    transmissions (earlier ++ later) = transmissions earlier ++ transmissions later :=
  List.filterMap_append

@[simp] theorem transmissions_send (data : Bytes) (answer : Except IoError Unit)
    (events : History transport) :
    transmissions (⟨.send data, answer⟩ :: events) = data :: transmissions events := rfl

/-- A transmission that was followed by packets only, until the receive timeout. -/
def TimedOut (tx : Bytes) (round : History transport) : Prop :=
  ∃ packets : List (Received rxBufSize), round = sent tx :: (packets.map received ++ [quiet])

section Traces

variable {subtype : UInt8} {seq : UInt32} {tx : Bytes} {board : Board} {left : Nat}
  {events : History transport}

theorem Drains.transmissions {outcome : Outcome (Except BoardError (Option Bytes) × Board)}
    (drains : Drains subtype seq board events outcome) : transmissions events = [] := by
  induction drains with
  | skip ignored rest ih => exact ih
  | silence => rfl
  | answer accepts => rfl
  | corrupt corrupted => rfl
  | failure text => rfl
  | cut => rfl

/-- A drain that ends in silence is packets that are passed over, and the timeout. -/
theorem Drains.silent
    (drains : Drains subtype seq board events (.returned (.ok none, board))) :
    ∃ packets : List (Received rxBufSize),
      (∀ packet ∈ packets, Ignored subtype seq packet.data) ∧
        events = packets.map received ++ [quiet] := by
  generalize ended : Outcome.returned (Except.ok none, board) = outcome at drains
  induction drains with
  | silence => exact ⟨[], List.forall_mem_nil _, rfl⟩
  | @skip packet events outcome ignored rest ih =>
      obtain ⟨packets, passed, rfl⟩ := ih ended
      exact ⟨packet :: packets, List.forall_mem_cons.mpr ⟨ignored, passed⟩, rfl⟩
  | answer accepts => cases ended
  | corrupt corrupted => cases ended
  | failure text => cases ended
  | cut => cases ended

theorem drains_silent {packets : List (Received rxBufSize)}
    (passed : ∀ packet ∈ packets, Ignored subtype seq packet.data) :
    Drains subtype seq board (packets.map received ++ [quiet])
      (.returned (.ok none, board)) := by
  induction packets with
  | nil => exact .silence
  | cons packet packets ih =>
      rw [List.forall_mem_cons] at passed
      exact .skip passed.1 (ih passed.2)

/-- The last reception of an answered drain is the answer. -/
theorem Drains.accepted {payload : Bytes}
    (drains : Drains subtype seq board events (.returned (.ok (some payload), board))) :
    ∃ earlier packet, events = earlier ++ [received packet] ∧
      Accepts subtype seq packet.data payload := by
  generalize ended : Outcome.returned (Except.ok (some payload), board) = outcome at drains
  induction drains with
  | answer accepts =>
      cases ended
      exact ⟨[], _, rfl, accepts⟩
  | @skip packet events outcome ignored rest ih =>
      obtain ⟨earlier, last, rfl, accepts⟩ := ih ended
      exact ⟨received packet :: earlier, last, rfl, accepts⟩
  | silence => cases ended
  | corrupt corrupted => cases ended
  | failure text => cases ended
  | cut => cases ended

/-- The drain loop itself does not report a timeout. -/
theorem Drains.ne_timeout :
    ¬ Drains subtype seq board events (.returned (.error .timeout, board)) := by
  intro drains
  generalize ended : Outcome.returned (Except.error BoardError.timeout, board) = outcome at drains
  induction drains with
  | skip ignored rest ih => exact ih ended
  | silence => cases ended
  | answer accepts => cases ended
  | corrupt corrupted => cases ended
  | failure text => cases ended
  | cut => cases ended

variable {outcome : Outcome (Except BoardError Bytes × Board)}

theorem Attempts.ends (trace : Attempts subtype seq tx board left events outcome) :
    outcome = .spinning ∨ ∃ result, outcome = .returned (result, board) := by
  induction trace with
  | again drains later ih => exact ih
  | cut drains => exact .inl rfl
  | exhausted => exact .inr ⟨_, rfl⟩
  | unsent error => exact .inr ⟨_, rfl⟩
  | answered drains => exact .inr ⟨_, rfl⟩
  | failed drains => exact .inr ⟨_, rfl⟩

/-- A call repeats one frame, as often as it has attempts. -/
theorem Attempts.transmissions (trace : Attempts subtype seq tx board left events outcome) :
    ∃ count ≤ left, transmissions events = List.replicate count tx := by
  induction trace with
  | exhausted => exact ⟨0, Nat.le_refl 0, rfl⟩
  | unsent error => exact ⟨1, Nat.succ_pos _, rfl⟩
  | answered drains =>
      exact ⟨1, Nat.succ_pos _, by rw [transmissions_send, drains.transmissions]; rfl⟩
  | failed drains =>
      exact ⟨1, Nat.succ_pos _, by rw [transmissions_send, drains.transmissions]; rfl⟩
  | cut drains =>
      exact ⟨1, Nat.succ_pos _, by rw [transmissions_send, drains.transmissions]; rfl⟩
  | again drains later ih =>
      obtain ⟨count, few, same⟩ := ih
      refine ⟨count + 1, Nat.succ_le_succ few, ?_⟩
      rw [transmissions_send, transmissions_append, drains.transmissions, same]
      rfl

/-- The last reception of an answered call is the answer. -/
theorem Attempts.accepted {payload : Bytes}
    (trace : Attempts subtype seq tx board left events (.returned (.ok payload, board))) :
    ∃ earlier packet, events = earlier ++ [received packet] ∧
      Accepts subtype seq packet.data payload := by
  generalize ended : Outcome.returned (Except.ok payload, board) = outcome at trace
  induction trace with
  | answered drains =>
      cases ended
      obtain ⟨earlier, packet, rfl, accepts⟩ := drains.accepted
      exact ⟨sent tx :: earlier, packet, rfl, accepts⟩
  | @again left round rest outcome drains later ih =>
      obtain ⟨earlier, packet, rfl, accepts⟩ := ih ended
      exact ⟨sent tx :: (round ++ earlier), packet, by simp, accepts⟩
  | exhausted => cases ended
  | unsent error => cases ended
  | failed drains => cases ended
  | cut drains => cases ended

/-- A call that reports a timeout has seen one after each of its transmissions. -/
theorem Attempts.timedOut
    (trace : Attempts subtype seq tx board left events (.returned (.error .timeout, board))) :
    ∃ rounds : List (History transport), rounds.length = left ∧
      (∀ round ∈ rounds, TimedOut tx round) ∧ events = rounds.flatten := by
  generalize ended : Outcome.returned (Except.error BoardError.timeout, board) = outcome at trace
  induction trace with
  | exhausted => exact ⟨[], rfl, List.forall_mem_nil _, rfl⟩
  | again drains later ih =>
      obtain ⟨rounds, count, silent, rfl⟩ := ih ended
      refine ⟨(sent tx :: _) :: rounds, congrArg (· + 1) count, ?_, rfl⟩
      rw [List.forall_mem_cons]
      obtain ⟨packets, _, rfl⟩ := drains.silent
      exact ⟨⟨packets, rfl⟩, silent⟩
  | failed drains =>
      cases ended
      exact absurd drains Drains.ne_timeout
  | unsent error => cases ended
  | answered drains => cases ended
  | cut drains => cases ended

end Traces

/-- A payload fits the transmit buffer up to this length. -/
theorem fitsTxBuf_iff {payload : Bytes} : fitsTxBuf payload ↔ payload.length ≤ 188 := by
  simp only [fitsTxBuf, headerLen, txBufSize, maxPayload, minFrame]
  omega

/-- Every complete run of a call is one of the traces. -/
theorem attempts_of_request (fuel : Nat) (subtype : UInt8) {payload : Bytes} (board : Board)
    (oracle : Oracle transport) (history : History transport) (fits : fitsTxBuf payload) :
    Attempts subtype board.seq.next.last
      (transmitted subtype board.seq.next.last board.mac payload fits).bytes
      { board with seq := board.seq.next } (board.retries.toNat + 1)
      ((request fuel subtype payload board).exec oracle history).events
      ((request fuel subtype payload board).exec oracle history).outcome := by
  have performs := Performs.of_exec oracle (request fuel subtype payload board) history
  rw [request_apply fuel subtype payload board fits] at performs ⊢
  exact attempts_of_performs performs

/-- The frame that a call repeats carries its subtype and its number, and is long enough. -/
structure CommandBytes (subtype : UInt8) (seq : UInt32) (tx : Bytes) : Prop where
  long : 60 ≤ tx.length
  subtype : tx[0x0f]? = some subtype
  seq : be32At? tx 0x10 = some seq

theorem commandBytes_transmitted (subtype : UInt8) (seq : UInt32) (mac : Mac) (payload : Bytes)
    (fits : fitsTxBuf payload) :
    CommandBytes subtype seq (transmitted subtype seq mac payload fits).bytes := by
  constructor
  · rw [transmitted_bytes, List.length_append, WireFrame.length_bytes, List.length_replicate]
    simp only [commandFrame, blankCommand, WireFrame.sealed, minFrame, headerLen]
    omega
  · exact WireFrame.getElem?_subtype _
  · exact WireFrame.be32At?_seq _

/-- What holds of every complete run of a call. -/
structure SoundRun (subtype : UInt8) (seq : UInt32) (retries : UInt8) (tx : Bytes)
    (run : Run transport (Except BoardError Bytes × Board)) : Prop where
  no_panic : ∀ message, run.outcome ≠ .panicked message
  budget : (transmissions run.events).length ≤ retries.toNat + 1
  same_bytes : ∀ data ∈ transmissions run.events, data = tx
  answer : ∀ payload after, run.outcome = .returned (.ok payload, after) →
    ∃ earlier packet, run.events = earlier ++ [received packet] ∧
      Answers subtype seq packet.data payload
  timeout : ∀ after, run.outcome = .returned (.error .timeout, after) →
    ∃ rounds : List (History transport), rounds.length = retries.toNat + 1 ∧
      (∀ round ∈ rounds, TimedOut tx round) ∧ run.events = rounds.flatten

/-- A request is sound, whatever its transport delivers. -/
theorem request_sound (fuel : Nat) (subtype : UInt8) (payload : Bytes) (board : Board)
    (oracle : Oracle transport) (history : History transport) (short : payload.length ≤ 188) :
    ∃ tx, CommandBytes subtype board.seq.next.last tx ∧
      SoundRun subtype board.seq.next.last board.retries tx
        ((request fuel subtype payload board).exec oracle history) := by
  have fits := fitsTxBuf_iff.mpr short
  have trace := attempts_of_request fuel subtype board oracle history fits
  refine ⟨_, commandBytes_transmitted _ _ board.mac payload fits, ?_⟩
  obtain ⟨count, few, sends⟩ := trace.transmissions
  -- a run that returns leaves this board behind
  have leaves (result : Except BoardError Bytes) (after : Board)
      (returned : ((request fuel subtype payload board).exec oracle history).outcome =
        .returned (result, after)) : after = { board with seq := board.seq.next } := by
    rcases trace.ends with spins | ⟨other, ended⟩
    · cases returned.symm.trans spins
    · cases returned.symm.trans ended
      rfl
  constructor
  · intro message panicked
    rcases trace.ends with spins | ⟨result, ended⟩
    · cases panicked.symm.trans spins
    · cases panicked.symm.trans ended
  · rw [sends, List.length_replicate]
    exact few
  · intro data member
    rw [sends] at member
    exact List.eq_of_mem_replicate member
  · intro payload after returned
    obtain rfl := leaves _ _ returned
    rw [returned] at trace
    obtain ⟨earlier, packet, split, accepts⟩ := trace.accepted
    exact ⟨earlier, packet, split, accepts.answers⟩
  · intro after returned
    obtain rfl := leaves _ _ returned
    rw [returned] at trace
    exact trace.timedOut

/-- A transport on which nothing ever arrives. -/
def quietChannel : Oracle transport
  | _, .send _ => .ok ()
  | _, .recvInto _ => .error .wouldBlock
  | _, .setTimeout _ => .ok ()

theorem request_sound_quietChannel :
    ∃ tx, CommandBytes 2 1 tx ∧
      SoundRun 2 1 3 tx ((request 1 2 [0x02] (.new broadcastMac)).exec quietChannel []) :=
  request_sound 1 2 [0x02] (.new broadcastMac) quietChannel [] (by decide)

end Board

end RbctlDsl.Dsl
