import RbctlDsl.Lib.Method
import RbctlDsl.Proto.Frame

/-!
# `Board::request`

The request loop of `board.rs` over an arbitrary transport: one command is sent up to
`retries + 1` times, and after each transmission the receive queue is drained until a
matching response or a timeout.  `fuel` bounds one drain, which the source leaves
unbounded.
-/

namespace RbctlDsl.Dsl

open RbctlDsl.Lib RbctlDsl.Proto

/-- `io::Error`, as far as the request loop looks at it. -/
inductive IoError where
  | wouldBlock
  | other (text : String)
  deriving DecidableEq, Repr

inductive BoardError where
  | timeout
  | badFrame (reason : String)
  | badResponse (reason : String)
  | io (error : IoError)
  deriving DecidableEq, Repr

/-- What was received into a buffer of a given size. -/
structure Received (capacity : Nat) where
  data : Bytes
  fits : data.length ≤ capacity

/-- `trait Transport`, without the address, which never changes. -/
inductive TransportOp where
  | send (data : Bytes)
  | recvInto (capacity : Nat)
  | setTimeout (millis : Nat)
  deriving DecidableEq, Repr

abbrev transport : Signature where
  Op := TransportOp
  Answer
    | .send _ => Except IoError Unit
    | .recvInto capacity => Except IoError (Received capacity)
    | .setTimeout _ => Except IoError Unit

/-- Call the transport. -/
abbrev onSocket {σ ε : Type} (op : transport.Op) : Method transport σ ε (transport.Answer op) :=
  Method.perform op

def defaultTimeout : Nat := 2000
def defaultRetries : UInt8 := 3

def maxPayload : Nat := 128
def txBufSize : Nat := headerLen + maxPayload + minFrame
def rxBufSize : Nat := headerLen + maxPayload + minFrame

/-- `Board`, apart from its socket. -/
structure Board where
  mac : Mac
  seq : SeqCounter
  timeout : Nat
  retries : UInt8

namespace Board

def new (mac : Mac) : Board := ⟨mac, .new, defaultTimeout, defaultRetries⟩

variable {ε : Type}

/-- The board's own timeout changes even if the socket refuses the new one. -/
def setTimeout (timeout : Nat) : Method transport Board ε Unit := do
  Method.update fun board => { board with timeout := timeout }
  let _ ← onSocket (.setTimeout timeout)

def setRetries (retries : UInt8) : Method transport Board ε Unit :=
  Method.update fun board => { board with retries := retries }

/-- Whether a received frame is a response to the command with this subtype and number. -/
def matchesRequest (subtype : UInt8) (seq : UInt32) (f : Frame) : Bool :=
  f.isResponse && f.subtype == subtype && f.seq == seq

/-- The drain loop on one packet.  It goes on past a malformed or foreign frame, and leaves
with the payload of a match. -/
def examine (subtype : UInt8) (seq : UInt32) (data : Bytes) :
    Method transport Board BoardError (Unit ⊕ Option Bytes) :=
  match Frame.parse data with
  | none => pure (.inl ())
  | some f =>
    if matchesRequest subtype seq f = false then
      pure (.inl ())
    else do
      let valid ← Method.orPanic "frame too short" (verifyChecksum f.buf)
      if valid = false then
        Method.fail (.badFrame "checksum mismatch")
      else
        pure (.inr (some f.payload))

/-- One turn of the drain loop, which a timeout ends with nothing. -/
def receive (subtype : UInt8) (seq : UInt32) (_ : Unit) :
    Method transport Board BoardError (Unit ⊕ Option Bytes) := do
  match ← onSocket (.recvInto rxBufSize) with
  | .ok packet => examine subtype seq packet.data
  | .error .wouldBlock => pure (.inr none)
  | .error error => Method.fail (.io error)

/-- `for attempt in 0..=retries`, with the attempts that are left. -/
def attempts (fuel : Nat) (subtype : UInt8) (seq : UInt32) (tx : Bytes) :
    Nat → Method transport Board BoardError Bytes
  | 0 => Method.fail .timeout
  | left + 1 => do
    match ← onSocket (.send tx) with
    | .error error => Method.fail (.io error)
    | .ok () =>
      match ← Method.iterate (receive subtype seq) fuel () with
      | some payload => pure payload
      | none => attempts fuel subtype seq tx left

/-- The assertion of the frame builder. -/
def tooSmall (payload : Bytes) : String :=
  s!"buf too small: need {headerLen + payload.length}, have {txBufSize}"

def request (fuel : Nat) (subtype : UInt8) (payload : Bytes) :
    Method transport Board BoardError Bytes := do
  Method.update fun board => { board with seq := board.seq.next }
  let board ← Method.read
  let seq := board.seq.last
  let (frame, txBuf) ← Method.orPanic (tooSmall payload)
    (buildCommandFrame (List.replicate txBufSize 0) subtype seq board.mac payload)
  let txLen := max frame.length minFrame
  attempts fuel subtype seq (txBuf.take txLen) (board.retries.toNat + 1)

/-! ## What a request puts on the wire -/

/-- The payloads for which the transmit buffer is large enough. -/
def fitsTxBuf (payload : Bytes) : Prop := headerLen + payload.length ≤ txBufSize

instance (payload : Bytes) : Decidable (fitsTxBuf payload) :=
  inferInstanceAs (Decidable (_ ≤ _))

/-- The builder's assertion holds for exactly these payloads. -/
theorem buildCommandFrame_isSome_iff (subtype : UInt8) (seq : UInt32) (mac : Mac)
    (payload : Bytes) :
    (buildCommandFrame (List.replicate txBufSize 0) subtype seq mac payload).isSome = true ↔
      fitsTxBuf payload := by
  have capacity : (List.replicate txBufSize (0 : UInt8)).length = txBufSize :=
    List.length_replicate
  by_cases fits : headerLen + payload.length ≤ txBufSize
  · have bound : payload.length < 65536 := by
      simp only [headerLen, txBufSize, maxPayload, minFrame] at fits
      omega
    rw [buildCommandFrame_eq _ subtype seq mac payload bound (capacity.symm ▸ fits)]
    simp [fitsTxBuf, fits]
  · rw [buildCommandFrame_eq_none _ subtype seq mac payload
      (capacity.symm ▸ Nat.not_le.mp fits)]
    simp [fitsTxBuf, fits]

/-- A payload that fits the transmit buffer fits the length field. -/
theorem fitsTxBuf.bound {payload : Bytes} (fits : fitsTxBuf payload) :
    payload.length < 65536 := by
  simp only [fitsTxBuf, headerLen, txBufSize, maxPayload, minFrame] at fits
  omega

/-- The bytes that every transmission of a call carries: the command frame, filled up to
the minimum frame length from the zeroed transmit buffer. -/
def transmitted (subtype : UInt8) (seq : UInt32) (mac : Mac) (payload : Bytes)
    (fits : fitsTxBuf payload) : WireFrame :=
  { commandFrame subtype seq mac payload fits.bound with
    padding := List.replicate (minFrame - (headerLen + payload.length)) 0 }

theorem transmitted_bytes (subtype : UInt8) (seq : UInt32) (mac : Mac) (payload : Bytes)
    (fits : fitsTxBuf payload) :
    (transmitted subtype seq mac payload fits).bytes =
      (commandFrame subtype seq mac payload fits.bound).bytes ++
        List.replicate (minFrame - (headerLen + payload.length)) 0 := by
  simp [transmitted, WireFrame.bytes, WireFrame.ethernet, WireFrame.lead, commandFrame,
    blankCommand, WireFrame.sealed]

/-- What `request` sends when the payload fits. -/
theorem request_apply (fuel : Nat) (subtype : UInt8) (payload : Bytes) (board : Board)
    (fits : fitsTxBuf payload) :
    request fuel subtype payload board =
      attempts fuel subtype board.seq.next.last
        (transmitted subtype board.seq.next.last board.mac payload fits).bytes
        (board.retries.toNat + 1) { board with seq := board.seq.next } := by
  have room : headerLen + payload.length ≤ (List.replicate txBufSize (0 : UInt8)).length := by
    rw [List.length_replicate]
    exact fits
  have length : (commandFrame subtype board.seq.next.last board.mac payload
      fits.bound).bytes.length = headerLen + payload.length := by
    simp [WireFrame.length_bytes, commandFrame, blankCommand, WireFrame.sealed]
  have available : minFrame ≤ txBufSize := by decide
  have sent :
      ((commandFrame subtype board.seq.next.last board.mac payload fits.bound).bytes ++
          (List.replicate txBufSize (0 : UInt8)).drop (headerLen + payload.length)).take
        (max (commandFrame subtype board.seq.next.last board.mac payload
          fits.bound).bytes.length minFrame) =
      (transmitted subtype board.seq.next.last board.mac payload fits).bytes := by
    rw [transmitted_bytes, List.take_append, length, List.drop_replicate,
      List.take_replicate, List.take_of_length_le (by rw [length]; exact Nat.le_max_left ..)]
    congr 2
    have fits' := fits
    simp only [fitsTxBuf] at fits'
    omega
  simp only [request, bind, Program.bind, Method.resume, Method.update, Method.read,
    buildCommandFrame_eq _ subtype board.seq.next.last board.mac payload fits.bound room,
    Method.orPanic, pure, sent]

/-- A payload that does not fit makes `request` panic before anything is sent. -/
theorem request_panics (fuel : Nat) (subtype : UInt8) (payload : Bytes) (board : Board)
    (large : ¬ fitsTxBuf payload) :
    request fuel subtype payload board = .panic (tooSmall payload) := by
  have refused : buildCommandFrame (List.replicate txBufSize 0) subtype
      board.seq.next.last board.mac payload = none := by
    have notSome := mt (buildCommandFrame_isSome_iff subtype board.seq.next.last board.mac
      payload).mp large
    simpa using notSome
  simp only [request, bind, Program.bind, Method.resume, Method.update, Method.read, refused,
    Method.orPanic, Method.panic]

/-! ## The contract of a call -/

/-- A received packet that `request` takes for the answer to this subtype and number. -/
def Accepts (subtype : UInt8) (seq : UInt32) (data payload : Bytes) : Prop :=
  ∃ f, Frame.parse data = some f ∧ matchesRequest subtype seq f = true ∧
    verifyChecksum f.buf = some true ∧ f.payload = payload

/-- A call sends one frame only, receives into its buffer, and does not panic. -/
def callContract (tx : Bytes) : Contract transport where
  may _ op := op = .send tx ∨ op = .recvInto rxBufSize
  mayPanic _ := False

/-- A payload among the results of a call is that of an accepted packet among its events. -/
def FromAccepted (subtype : UInt8) (seq : UInt32) (events : History transport)
    (payload : Bytes) : Prop :=
  ∃ packet, (⟨.recvInto rxBufSize, .ok packet⟩ : Event transport) ∈ events ∧
    Accepts subtype seq packet.data payload

/-- How a call that began at `start` ends: the board is `after`, and a payload is that of an
accepted packet received since. -/
def CallEnds (start : History transport) (subtype : UInt8) (seq : UInt32) (after : Board)
    (later : History transport) : Except BoardError Bytes × Board → Prop
  | (result, board) => board = after ∧ ∃ events, later = start ++ events ∧
      ∀ payload, result = .ok payload → FromAccepted subtype seq events payload

/-- How one drain ends, in the same terms. -/
def DrainEnds (start : History transport) (subtype : UInt8) (seq : UInt32) (after : Board)
    (later : History transport) : Except BoardError (Option Bytes) × Board → Prop
  | (result, board) => board = after ∧ ∃ events, later = start ++ events ∧
      ∀ payload, result = .ok (some payload) → FromAccepted subtype seq events payload

/-- What the drain loop maintains. -/
def Draining (start : History transport) (after : Board) (later : History transport)
    (_ : Unit) (board : Board) : Prop :=
  board = after ∧ ∃ events, later = start ++ events

section Call

variable {subtype : UInt8} {seq : UInt32} {tx : Bytes} {board : Board}
  {start history : History transport}

theorem safe_examine {events : History transport} {packet : Received rxBufSize}
    (received : (⟨.recvInto rxBufSize, .ok packet⟩ : Event transport) ∈ events) :
    Safe (callContract tx)
      (Method.passOwes (Draining start board) (DrainEnds start subtype seq board))
      (examine subtype seq packet.data board) (start ++ events) := by
  unfold examine
  cases parsed : Frame.parse packet.data with
  | none => exact ⟨rfl, events, rfl⟩
  | some f =>
      dsimp only
      cases isMatch : matchesRequest subtype seq f with
      | false => exact ⟨rfl, events, rfl⟩
      | true =>
          obtain ⟨valid, verified⟩ :=
            Option.isSome_iff_exists.mp (verifyChecksum_isSome f.buf)
          rw [if_neg (by decide), verified, Method.bind_apply, Method.orPanic_some,
            Program.pure_bind, Method.resume_ok]
          cases valid with
          | false => exact ⟨rfl, events, rfl, fun payload equal => by cases equal⟩
          | true =>
              refine ⟨rfl, events, rfl, fun payload equal => ?_⟩
              cases equal
              exact ⟨packet, received, f, parsed, isMatch, verified, rfl⟩

theorem safe_receive {events : History transport} :
    Safe (callContract tx)
      (Method.passOwes (Draining start board) (DrainEnds start subtype seq board))
      (receive subtype seq () board) (start ++ events) := by
  refine Method.safe_perform_bind.mpr ⟨.inr rfl, fun answer _ => ?_⟩
  rw [List.append_assoc]
  cases answer with
  | error error =>
      cases error with
      | wouldBlock => exact ⟨rfl, _, rfl, fun payload equal => by cases equal⟩
      | other text => exact ⟨rfl, _, rfl, fun payload equal => by cases equal⟩
  | ok packet => exact safe_examine (by simp)

theorem safe_attempts (fuel left : Nat) (events : History transport) :
    Safe (callContract tx) (CallEnds start subtype seq board)
      (attempts fuel subtype seq tx left board) (start ++ events) := by
  induction left generalizing events with
  | zero => exact ⟨rfl, events, rfl, fun payload equal => by cases equal⟩
  | succ left ih =>
      refine Method.safe_perform_bind.mpr ⟨.inl rfl, fun answer _ => ?_⟩
      rw [List.append_assoc]
      cases answer with
      | error error => exact ⟨rfl, _, rfl, fun payload equal => by cases equal⟩
      | ok sent =>
          have turn (before : History transport) (_ : Unit) (current : Board)
              (holds : Draining start board before () current) :
              Safe (callContract tx)
                (Method.passOwes (Draining start board) (DrainEnds start subtype seq board))
                (receive subtype seq () current) before := by
            obtain ⟨rfl, events, rfl⟩ := holds
            exact safe_receive
          have drained : Safe (callContract tx) (DrainEnds start subtype seq board)
              (Method.iterate (receive subtype seq) fuel () board)
              (start ++ (events ++ [⟨.send tx, .ok sent⟩])) :=
            Method.safe_iterate turn fuel () ⟨rfl, _, rfl⟩
          refine Method.safe_bind drained ?_ ?_
          · intro later payload after ended
            obtain ⟨rfl, events, rfl, found⟩ := ended
            cases payload with
            | none => exact ih events
            | some payload =>
                refine ⟨rfl, events, rfl, fun result same => ?_⟩
                cases same
                exact found payload rfl
          · intro later error after ended
            obtain ⟨rfl, events, rfl, _⟩ := ended
            exact ⟨rfl, events, rfl, fun payload same => by cases same⟩

/-- What a call of `request` does: it sends one frame under the next number, and returns the
payload of a packet accepted for that number. -/
theorem safe_request (fuel : Nat) (subtype : UInt8) (payload : Bytes) (board : Board)
    (history : History transport) (fits : fitsTxBuf payload) :
    Safe
      (callContract (transmitted subtype board.seq.next.last board.mac payload fits).bytes)
      (CallEnds history subtype board.seq.next.last { board with seq := board.seq.next })
      (request fuel subtype payload board) history := by
  rw [request_apply fuel subtype payload board fits]
  simpa using safe_attempts fuel _ []

/-- Every transmission of a call carries the same frame. -/
theorem eq_transmitted {fuel : Nat} {payload data : Bytes} {oracle : Oracle transport}
    {answer : transport.Answer (.send data)} (fits : fitsTxBuf payload)
    (member : (⟨.send data, answer⟩ : Event transport) ∈
      ((request fuel subtype payload board).exec oracle history).events) :
    data = (transmitted subtype board.seq.next.last board.mac payload fits).bytes := by
  have kept := (safe_request fuel subtype payload board history fits).exec
    (along_true history ((request fuel subtype payload board).exec oracle history).events)
  cases along_iff_forall_mem.mp kept.1 _ member with
  | inl isSend => exact TransportOp.send.inj isSend
  | inr isRecv => cases isRecv

/-- A call transmits at least once. -/
theorem sends_transmitted {payload : Bytes} (fuel : Nat) (oracle : Oracle transport)
    (fits : fitsTxBuf payload) :
    ∃ answer, (⟨.send (transmitted subtype board.seq.next.last board.mac payload fits).bytes,
      answer⟩ : Event transport) ∈
        ((request fuel subtype payload board).exec oracle history).events := by
  rw [request_apply fuel subtype payload board fits, attempts, Method.perform_bind_apply]
  exact ⟨_, .head _⟩

end Call

end Board

end RbctlDsl.Dsl
