import RbctlDsl.Dsl.FrameCapacity
import RbctlDsl.Lib.Stamps

/-!
# Access to the board

The upload of `board.rs` over an arbitrary way to reach the fields of `Board`, its requests and
the callback.  On the settings alone it is the typed method; on the whole board its requests
are the real ones, and what it assigns is in the board when a request is made.
-/

namespace RbctlDsl.Dsl

open RbctlDsl.Lib RbctlDsl.Proto

/-- What `firmware_upgrade` does with the board. -/
structure BoardAccess (sig : Signature) (σ : Type) where
  /-- `self.timeout` and `self.retries`. -/
  settings : Method sig σ BoardError Settings
  assign : Settings → Method sig σ BoardError Unit
  /-- `self.request(8, &payload)?`. -/
  request : Bytes → Method sig σ BoardError Bytes
  progress : FwProgress → Method sig σ BoardError Unit

namespace BoardAccess

section Stages

variable {sig : Signature} {σ : Type} (access : BoardAccess sig σ)

def rejectStatus (saved : Settings) (reason : String) (data : Bytes) :
    Method sig σ BoardError Unit :=
  match replyWord data with
  | none => pure ()
  | some status =>
    if status ≠ 0 then do
      access.assign saved
      Method.fail (.badResponse reason)
    else
      pure ()

def statusStage (saved : Settings) (timeout : Nat) (retries : UInt8) (payload : Bytes)
    (reason : String) (stage : UInt8) : Method sig σ BoardError Unit := do
  access.assign ⟨timeout, retries⟩
  let resp ← access.request payload
  access.rejectStatus saved reason (stripEcho resp 0x08)
  access.progress (.ofStage stage)

def announceStage (saved : Settings) (image : Bytes) : Method sig σ BoardError Unit :=
  access.statusStage saved timeoutAnnounceMs retriesAnnounce
    (announcePayload image.length.toUInt32) "announce rejected by board" stageAnnounce

def reportChunk (total : UInt32) (lastPct : UInt8) (chunkIdx : UInt32) :
    Method sig σ BoardError (Cursor ⊕ Unit) :=
  if percent chunkIdx total ≥ lastPct + 10 ∨ chunkIdx = total then do
    access.progress (.streaming (percent chunkIdx total))
    pure (.inl ⟨chunkIdx, percent chunkIdx total⟩)
  else
    pure (.inl ⟨chunkIdx, lastPct⟩)

def streamPass (image : Bytes) (total : UInt32) (cursor : Cursor) :
    Method sig σ BoardError (Cursor ⊕ Unit) :=
  if cursor.chunkIdx < total then do
    let chunk ← Method.orPanic "chunk out of range" (chunkAt? image cursor.chunkIdx)
    let resp ← access.request (streamPayload cursor.chunkIdx chunk)
    access.reportChunk total cursor.lastPct (nextChunk cursor.chunkIdx (stripEcho resp 0x08))
  else
    pure (.inr ())

def streamStage (fuel : Nat) (image : Bytes) : Method sig σ BoardError Unit := do
  access.assign ⟨timeoutStreamMs, retriesStream⟩
  Method.iterate (access.streamPass image (totalChunks image)) fuel ⟨0, 0⟩

def verifyStage (saved : Settings) : Method sig σ BoardError Unit :=
  access.statusStage saved timeoutVerifyMs retriesVerify verifyPayload
    "board firmware verification failed" stageVerify

def completeStage (saved : Settings) : Method sig σ BoardError FwUpgradeResult := do
  access.assign ⟨timeoutCompleteMs, retriesComplete⟩
  let resp ← access.request completePayload
  let data := stripEcho resp 0x08
  let version := (replyWord data).getD 0
  let status := data[5]?.getD 0
  access.progress (.ofStage stageComplete)
  access.assign saved
  return ⟨version, status⟩

def firmwareUpgrade (fuel : Nat) (image : Bytes) : Method sig σ BoardError FwUpgradeResult := do
  let saved ← access.settings
  access.announceStage saved image
  access.streamStage fuel image
  access.verifyStage saved
  access.completeStage saved

variable {access} {saved : Settings} {reason : String} {reply : Bytes}

theorem rejectStatus_of_zero (zero : StatusZero reply) :
    access.rejectStatus saved reason (stripEcho reply 0x08) = pure () := by
  unfold rejectStatus
  cases word : replyWord (stripEcho reply 0x08) with
  | none => rfl
  | some status => simp [zero status word]

theorem rejectStatus_of_nonzero (nonzero : ¬ StatusZero reply) :
    access.rejectStatus saved reason (stripEcho reply 0x08) =
      (access.assign saved >>= fun _ => Method.fail (.badResponse reason)) := by
  obtain ⟨status, word, differs⟩ := exists_status_of_nonzero nonzero
  rw [rejectStatus, word]
  exact if_pos differs

end Stages

/-- The access of a typed method, which has the settings only. -/
def typed : BoardAccess boardCalls Settings where
  settings := Method.read
  assign settings := Method.update fun _ => settings
  request := ask 8
  progress := notify

end BoardAccess

/-! ## The whole board -/

/-- A transport, with the timeout that the board has when it calls. -/
abbrev timedTransport : Signature := stamped transport Nat

namespace Board

def settings (board : Board) : Settings := ⟨board.timeout, board.retries⟩

def withSettings (settings : Settings) (board : Board) : Board :=
  { board with timeout := settings.timeout, retries := settings.retries }

/-- The operations of a method, with the timeout that the board has when it is called. -/
abbrev timed {ε α : Type} (method : Method transport Board ε α) :
    Method timedTransport Board ε α :=
  method.observed Board.timeout

/-- A request with the timeout that the board has.  Unification does not run it. -/
@[irreducible] def timedRequest (fuel : Nat) (subtype : UInt8) (payload : Bytes) :
    Method timedTransport Board BoardError Bytes :=
  timed (request fuel subtype payload)

/-- The access of `Board` to itself.  The callback is outside of the transport. -/
def access (fuel : Nat) : BoardAccess timedTransport Board where
  settings := do
    let board ← Method.read
    return board.settings
  assign settings := Method.update (withSettings settings)
  request payload := timedRequest fuel 8 payload
  progress _ := pure ()

/-- Run a method for what it does on the transport. -/
def forEffect {α : Type} (method : Method timedTransport Board BoardError α) :
    Method timedTransport Board Empty Unit := do
  let _ ← Method.attempt method

section Access

variable {α : Type} {fuel : Nat} {board : Board}

theorem access_settings_bind (next : Settings → Method timedTransport Board BoardError α) :
    ((access fuel).settings >>= next) board = next board.settings board := rfl

theorem access_assign_bind (settings : Settings)
    (next : Unit → Method timedTransport Board BoardError α) :
    ((access fuel).assign settings >>= next) board = next () (board.withSettings settings) := rfl

theorem access_request (payload : Bytes) :
    (access fuel).request payload = timedRequest fuel 8 payload := rfl

end Access

end Board

/-- One operation of a board. -/
inductive BoardCall where
  | setTimeout (millis : Nat)
  | setRetries (retries : UInt8)
  | typed (call : TypedCall)

/-- Run an operation for what it does on the transport. -/
def BoardCall.run (fuel : Nat) : BoardCall → Method timedTransport Board Empty Unit
  | .setTimeout millis => Board.timed (Board.setTimeout millis)
  | .setRetries retries => Board.timed (Board.setRetries retries)
  | .typed (.firmwareUpgrade image) =>
    Board.forEffect ((Board.access fuel).firmwareUpgrade fuel image)
  | .typed call => do
    let _ ← callTyped Board.settings Board.withSettings
      (fun op => Board.timed (onTransport fuel op)) (call.run fuel)

/-- Run operations one after the other. -/
def runCalls (fuel : Nat) : List BoardCall → Method timedTransport Board Empty Unit
  | [] => pure ()
  | call :: calls => do
    call.run fuel
    runCalls fuel calls

end RbctlDsl.Dsl
