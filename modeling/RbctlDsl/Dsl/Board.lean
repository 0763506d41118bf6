import RbctlDsl.Dsl.Request
import RbctlDsl.Proto.Unpack
import RbctlDsl.Proto.Firmware
import RbctlDsl.Lib.Interp

/-!
# The typed methods of `Board`

Each opcode method of `board.rs` over an arbitrary answer to `Board::request`.  A typed
method reads and writes the timeout and the retry budget; the address and the sequence
counter belong to `request` alone.  `onTransport` puts the real request loop below.
-/

namespace RbctlDsl.Dsl

open RbctlDsl.Lib RbctlDsl.Proto

/-- Progress update from `firmware_upgrade`. -/
structure FwProgress where
  stage : UInt8
  pct : UInt8
  deriving DecidableEq, Repr

namespace FwProgress

def ofStage (stage : UInt8) : FwProgress := ⟨stage, 0⟩

def streaming (pct : UInt8) : FwProgress := ⟨stageStream, pct⟩

end FwProgress

/-- What a typed method does outside of itself: it makes requests, and it calls the
progress callback. -/
inductive BoardOp where
  | request (retries subtype : UInt8) (payload : Bytes)
  | progress (update : FwProgress)
  deriving DecidableEq, Repr

abbrev boardCalls : Signature where
  Op := BoardOp
  Answer
    | .request .. => Except BoardError Bytes
    | .progress _ => Unit

/-- The fields of `Board` that a typed method works on. -/
structure Settings where
  timeout : Nat
  retries : UInt8
  deriving DecidableEq, Repr

/-- A typed method of `Board`. -/
abbrev Typed (α : Type) := Method boardCalls Settings BoardError α

abbrev onBoard (op : boardCalls.Op) : Typed (boardCalls.Answer op) := Method.perform op

/-- `self.request(subtype, payload)?`. -/
def ask (subtype : UInt8) (payload : Bytes) : Typed Bytes := do
  let board ← Method.read
  match ← onBoard (.request board.retries subtype payload) with
  | .ok reply => pure reply
  | .error error => Method.fail error

def notify (update : FwProgress) : Typed Unit :=
  onBoard (.progress update)

/-- Strip the echoed opcode byte if present. -/
def stripEcho (payload : Bytes) (opcode : UInt8) : Bytes :=
  if payload.head? = some opcode then payload.drop 1 else payload

/-- One command and what is made of its reply, less the echoed opcode. -/
def exchange {α : Type} (opcode : UInt8) (payload : Bytes)
    (decode : Bytes → Except BoardError α) : Typed α := do
  let r ← ask opcode payload
  Method.ofExcept (decode (stripEcho r opcode))

/-- `!data.is_empty() && data[0] != 0` is a rejection. -/
def lineStatusByte : Bytes → Except BoardError Unit
  | [] => .ok ()
  | status :: _ => if status ≠ 0 then .error (.badResponse "status != 0") else .ok ()

/-- Opcode 1. -/
def lineConfigUp (modulation : Modulation) (annex : Annex) (profiles : Vdsl2Profiles)
    (bitswap sra : Bool) : Typed Unit :=
  exchange 1 (0x01 :: packDslLine modulation annex bitswap sra profiles) lineStatusByte

/-- Opcode 3. -/
def lineConfigDown : Typed Unit := exchange 3 [0x03] lineStatusByte

/-- A report of a fixed size. -/
def decodeReport {α : Type} (size : Nat) (short : String) (parse : Bytes → Except String α)
    (data : Bytes) : Except BoardError α :=
  if data.length < size then
    .error (.badResponse short)
  else
    (parse data).mapError .badResponse

/-- Opcode 2. -/
def getLineObj : Typed LineObj :=
  exchange 2 [0x02] (decodeReport 63 "line obj reply too short" parseLineObj)

/-- Opcode 4. -/
def getChannelStats : Typed ChannelStats :=
  exchange 4 [0x04] (decodeReport 28 "channel stats reply too short" parseChannelStats)

/-- The VLAN id at an offset of a link-add reply, or the requested one if the reply ends
before it. -/
def assignedVlan (offset : Nat) (requested : UInt16) (data : Bytes) : UInt16 :=
  if long : offset + 2 ≤ data.length then
    u16At long offset (Nat.le_refl _)
  else
    requested

theorem assignedVlan_eq (offset : Nat) (requested : UInt16) (data : Bytes) :
    assignedVlan offset requested data = (be16At? data offset).getD requested := by
  unfold assignedVlan
  split
  · next long =>
      have present := (be16At?_isSome_iff data offset).mpr long
      rw [u16At, ← Option.get_eq_getD _]
  · next short =>
      have absent : be16At? data offset = none := by
        rw [← Option.not_isSome_iff_eq_none, be16At?_isSome_iff]
        exact short
      rw [absent, Option.getD_none]

/-- Opcode 5. -/
def atmLinkAdd (params : AtmLinkParams) : Typed UInt16 :=
  exchange 5 (0x05 :: packAtmLink params) fun data => .ok (assignedVlan 0x12 params.vlanId data)

/-- Opcode 6. -/
def atmLinkDel (vlanId : UInt16) : Typed Unit :=
  exchange 6 (0x06 :: packLinkDel vlanId 3) fun _ => .ok ()

/-- Opcode 15. -/
def ptmLinkAdd (tagEnable : UInt8) (tagVid tagPri vlanId : UInt16) : Typed UInt16 :=
  exchange 15 (0x0F :: packPtmLink tagEnable tagVid tagPri vlanId) fun data =>
    .ok (assignedVlan 6 vlanId data)

/-- Opcode 16. -/
def ptmLinkDel (vlanId : UInt16) : Typed Unit :=
  exchange 16 (0x10 :: packLinkDel vlanId 3) fun _ => .ok ()

def lineStatus : Typed LinkStatus := do
  let line ← getLineObj
  return line.linkStatus

/-! ## Contracts of the typed methods -/

section Contracts

variable {contract : Contract boardCalls} {history : History boardCalls}
  {settings : Settings}

theorem ask_apply (subtype : UInt8) (payload : Bytes) :
    ask subtype payload settings =
      .perform (.request settings.retries subtype payload) fun reply =>
        .pure (reply, settings) := by
  simp only [ask, bind, Program.bind, Method.resume, Method.read, onBoard, Method.perform]
  congr
  funext reply
  cases reply <;> rfl

/-- A method that makes one request and then only looks at the reply. -/
theorem safe_ask {α : Type} {subtype : UInt8} {payload : Bytes}
    {post : History boardCalls → Except BoardError α × Settings → Prop}
    {next : Bytes → Typed α}
    (allowed : contract.may history (.request settings.retries subtype payload))
    (success : ∀ reply,
      contract.answers history ⟨.request settings.retries subtype payload, .ok reply⟩ →
      Safe contract post (next reply settings)
        (history ++ [⟨.request settings.retries subtype payload, .ok reply⟩]))
    (failure : ∀ error,
      contract.answers history ⟨.request settings.retries subtype payload, .error error⟩ →
      post (history ++ [⟨.request settings.retries subtype payload, .error error⟩])
        (.error error, settings)) :
    Safe contract post ((ask subtype payload >>= next) settings) history := by
  rw [Method.bind_apply, ask_apply]
  refine ⟨allowed, fun answer promised => ?_⟩
  cases answer with
  | ok reply => exact success reply promised
  | error error => exact failure error promised

/-- An exchange is one request, and its result is a function of the answer. -/
theorem exchange_apply {α : Type} (opcode : UInt8) (payload : Bytes)
    (decode : Bytes → Except BoardError α) :
    exchange opcode payload decode settings =
      .perform (.request settings.retries opcode payload) fun reply =>
        .pure (reply.bind fun r => decode (stripEcho r opcode), settings) := by
  rw [exchange, Method.bind_apply, ask_apply, Program.perform_bind]
  congr
  funext reply
  cases reply with
  | ok r => exact Method.ofExcept_apply _ _
  | error error => rfl

end Contracts

/-! ## The request loop below the typed methods -/

/-- The handler that answers a request by running `Board::request` on the transport.  The
callback is outside of the transport. -/
def onTransport (fuel : Nat) : Handler boardCalls transport Board Empty
  | .request retries subtype payload => do
    Board.setRetries retries
    Method.attempt (Board.request fuel subtype payload)
  | .progress _ => pure ()

/-! ## A board inside a larger state -/

section Inside

variable {sig : Signature} {σ ε α : Type}

/-- The handler of a caller that passes requests on and has its own callback. -/
def passOn (request : UInt8 → UInt8 → Bytes → Method sig σ ε (Except BoardError Bytes))
    (progress : FwProgress → Method sig σ ε Unit) : Handler boardCalls sig σ ε
  | .request retries subtype payload => request retries subtype payload
  | .progress update => progress update

/-- Call a typed method of a board that is a part of the caller's state.  Its error is a
value. -/
def callTyped (board : σ → Settings) (setBoard : Settings → σ → σ)
    (handler : Handler boardCalls sig σ ε) (method : Typed α) :
    Method sig σ ε (Except BoardError α) := do
  let state ← Method.read
  let (result, settings) ← (method (board state)).interp handler
  Method.update (setBoard settings)
  return result

end Inside

end RbctlDsl.Dsl
