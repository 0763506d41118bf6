import RbctlDsl.Dsl.Request

/-!
# The ubus transport

`transport.rs`: ubus frames over a non-blocking stream socket.  Frames are made and read by
the `Codec` of `ubus-zero`, a parameter here.  `fuel` bounds the loops over the socket, which
the source leaves unbounded.
-/

namespace RbctlDsl.Dsl

open RbctlDsl.Lib RbctlDsl.Proto

/-- `UbusError`, by the variants that the transport names. -/
inductive UbusError where
  | malformed (text : String)
  | short
  | closed
  | io (text : String)
  deriving DecidableEq, Repr

/-- `ubus::wire`: the codec, and `MAX_MSG_LEN`. -/
structure UbusCodec (Frame : Type) where
  writeFrame : Frame → Bytes
  readFrame : Bytes → Except UbusError (Frame × Nat)
  maxMsgLen : Nat

/-- `io::Error` of the stream, by the kinds that the transport tells apart. -/
inductive StreamError where
  | wouldBlock
  | interrupted
  | other (text : String)
  deriving DecidableEq, Repr

/-- What the transport asks of its `UnixStream`, of the clock and of the scheduler.  Times
are in milliseconds.  A write accepts at most the bytes that it is given. -/
inductive StreamOp where
  | read (room : Nat)
  | write (data : Bytes)
  | now
  | sleep (millis : Nat)
  deriving DecidableEq, Repr

abbrev unixStream : Signature where
  Op := StreamOp
  Answer
    | .read room => Except StreamError (Received room)
    | .write data => Except StreamError (Fin (data.length + 1))
    | .now => Nat
    | .sleep _ => Unit

/-- Call the stream. -/
abbrev onStream {σ ε : Type} (op : unixStream.Op) :
    Method unixStream σ ε (unixStream.Answer op) :=
  Method.perform op

/-- `UnixUbusTransport`, apart from its stream. -/
structure UnixUbusTransport where
  rxBuf : Bytes
  deriving DecidableEq, Repr

namespace UnixUbusTransport

variable {Frame : Type}

/-- The transport of a new connection. -/
def connected : UnixUbusTransport := ⟨[]⟩

def clearRx : UnixUbusTransport → UnixUbusTransport := fun _ => ⟨[]⟩

def rxChunkSize : Nat := 2048

def rxBufCap (codec : UbusCodec Frame) : Nat := codec.maxMsgLen * 2

/-- One read of `fill_rx`. -/
def fillPass (codec : UbusCodec Frame) (_ : Unit) :
    Method unixStream UnixUbusTransport UbusError (Unit ⊕ Bool) := do
  match ← onStream (.read rxChunkSize) with
  | .ok chunk =>
      if chunk.data = [] then
        pure (.inr true)
      else
        let transport ← Method.read
        if rxBufCap codec < transport.rxBuf.length + chunk.data.length then
          Method.update clearRx
          Method.fail (.malformed "rx buffer exceeded cap")
        else
          Method.update fun transport => ⟨transport.rxBuf ++ chunk.data⟩
          pure (.inl ())
  | .error .wouldBlock => pure (.inr false)
  | .error .interrupted => pure (.inl ())
  | .error (.other text) => Method.fail (.io text)

/-- Drain the socket into the buffer.  The result says whether the peer closed. -/
def fillRx (codec : UbusCodec Frame) (fuel : Nat) :
    Method unixStream UnixUbusTransport UbusError Bool :=
  Method.iterate (fillPass codec) fuel ()

/-- `rx_buf.drain(..consumed)`. -/
def drain (consumed : Nat) : Method unixStream UnixUbusTransport UbusError Unit := do
  let transport ← Method.read
  if consumed ≤ transport.rxBuf.length then
    Method.update fun transport => ⟨transport.rxBuf.drop consumed⟩
  else
    Method.panic "range end index out of range"

def recv (codec : UbusCodec Frame) (fuel : Nat) :
    Method unixStream UnixUbusTransport UbusError (Option Frame) := do
  match ← Method.attempt (fillRx codec fuel) with
  | .error error =>
      Method.update clearRx
      Method.fail error
  | .ok closed =>
      let transport ← Method.read
      match codec.readFrame transport.rxBuf with
      | .ok (frame, consumed) =>
          drain consumed
          pure (some frame)
      | .error .short => if closed then Method.fail .closed else pure none
      | .error error =>
          Method.update clearRx
          Method.fail error

def sendTimeout : Nat := 5000

/-- One pass of the loop of `send`: the number of bytes sent is its only variable. -/
def sendPass (bytes : Bytes) (deadline : Nat) (sent : Nat) :
    Method unixStream UnixUbusTransport UbusError (Nat ⊕ Unit) :=
  if sent < bytes.length then do
    match ← onStream (.write (bytes.drop sent)) with
    | .ok accepted =>
        if accepted.val = 0 then
          Method.fail .closed
        else
          pure (.inl (sent + accepted.val))
    | .error .interrupted => pure (.inl sent)
    | .error .wouldBlock =>
        let now ← onStream .now
        if deadline ≤ now then
          Method.fail (.io "send timed out")
        else
          onStream (.sleep 1)
          pure (.inl sent)
    | .error (.other text) => Method.fail (.io text)
  else
    pure (.inr ())

def send (codec : UbusCodec Frame) (fuel : Nat) (frame : Frame) :
    Method unixStream UnixUbusTransport UbusError Unit := do
  let start ← onStream .now
  Method.iterate (sendPass (codec.writeFrame frame) (start + sendTimeout)) fuel 0

end UnixUbusTransport

/-! ## Messages without attributes -/

/-- The part of a ubus message header that varies. -/
structure UbusHeader where
  kind : UInt8
  seq : UInt16
  peer : UInt32
  deriving DecidableEq, Repr

/-- The wire format of messages that carry no attributes: the header, and the length of an
empty blob. -/
def emptyMessages : UbusCodec UbusHeader where
  writeFrame header :=
    [0, header.kind] ++ beBytes16 header.seq ++ beBytes32 header.peer ++ [0, 0, 0, 4]
  readFrame
    | version :: kind :: s₁ :: s₂ :: p₁ :: p₂ :: p₃ :: p₄ :: l₁ :: l₂ :: l₃ :: l₄ :: _ =>
        if version = 0 ∧ be32 l₁ l₂ l₃ l₄ = 4 then
          .ok (⟨kind, be16 s₁ s₂, be32 p₁ p₂ p₃ p₄⟩, 12)
        else
          .error (.malformed "message")
    | _ => .error .short
  maxMsgLen := 1048576

end RbctlDsl.Dsl
