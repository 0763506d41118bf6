import RbctlDsl.Dsl.UciCfg
import RbctlDsl.Dsl.Upgrade

/-!
# The board worker

`board_worker.rs`: the thread that owns the board.  It takes commands from a channel, polls
the line status, and publishes to the shared state.  Everything outside of the thread is an
operation: the clock, the channels, the shared state, the configuration file, the notify
script, and each `Board::request`.
-/

namespace RbctlDsl.Dsl

open RbctlDsl.Lib RbctlDsl.Proto

/-- Commands sent to the worker.  A reply channel is known by a number. -/
inductive WorkerCmd where
  | reload
  | restartLine
  | firmwareUpgrade (image : Bytes) (replyTx : Nat)
  deriving DecidableEq

/-- Events sent back to the firmware requester. -/
inductive FwEvent where
  | progress (update : FwProgress)
  | done (result : Except String FwUpgradeResult)
  deriving DecidableEq

/-- Firmware upgrade lifecycle status. -/
inductive FwStatus where
  | idle | upgrading
  | upgradingProgress (stage pct : UInt8)
  | done
  | failed (msg : String)
  deriving DecidableEq, Repr

/-- Line-state events of the notify script. -/
inductive LineEvent where
  | down | handshake | training | up
  deriving DecidableEq, Repr

inductive Recv where
  | command (cmd : WorkerCmd)
  | timeout
  | disconnected
  deriving DecidableEq

inductive WorkerOp where
  | shouldExit
  | recvTimeout (millis : Nat)
  | loadUci
  | request (retries subtype : UInt8) (payload : Bytes)
  | sleep (millis : Nat)
  | now
  | publishConfig (xferMode : XferMode) (modulation : Modulation) (annex : Annex)
  | publishLine (line : LineObj) (uptimeSecs : Nat) (xferMode : XferMode)
      (modulation : Modulation) (annex : Annex)
  | setFwStatus (status : FwStatus)
  | sendFwEvent (replyTx : Nat) (event : FwEvent)
  | emitStatus (script : String) (event : LineEvent)
  | emitTcLayer (script : String) (xferMode : XferMode)
  deriving DecidableEq

/-- The clock counts milliseconds. -/
abbrev workerCalls : Signature where
  Op := WorkerOp
  Answer
    | .shouldExit => Bool
    | .recvTimeout _ => Recv
    | .loadUci => Except String Uci
    | .request .. => Except BoardError Bytes
    | .now => Nat
    | _ => Unit

/-- `BoardWorker`, apart from its channel and the shared state. -/
structure BoardWorker where
  board : Settings
  cfg : DslConfig
  overrides : CliOverrides
  notifyScript : Option String
  pollInterval : Nat
  lastPoll : Option Nat
  lastStatus : Option LinkStatus
  upSince : Option Nat
  tcEmitted : Bool
  deriving DecidableEq

/-- A method of the worker.  None of them fails. -/
abbrev Worker (α : Type) := Method workerCalls BoardWorker Empty α

/-- `BoardError` as text. -/
def BoardError.text : BoardError → String
  | .timeout => "board did not respond after retries"
  | .badFrame reason => s!"bad frame: {reason}"
  | .badResponse reason => s!"bad response: {reason}"
  | .io .wouldBlock => "Resource temporarily unavailable (os error 11)"
  | .io (.other text) => text

def workerTick : Nat := 50

/-- Opcode 1 with the fields of a configuration. -/
def DslConfig.lineUp (cfg : DslConfig) : Typed Unit :=
  lineConfigUp cfg.modulation cfg.annex cfg.profiles cfg.bitswap cfg.sra

def linkStatusToEvent : LinkStatus → LineEvent
  | .up => .up
  | .initializing => .training
  | .establishingLink => .handshake
  | .noSignal | .unknown _ => .down

def configChanged (old new : DslConfig) : Bool :=
  old.modulation != new.modulation || old.annex != new.annex ||
    old.profiles.bitmask != new.profiles.bitmask || old.xferMode != new.xferMode

namespace BoardWorker

def new (board : Settings) (cfg : DslConfig) (overrides : CliOverrides)
    (notifyScript : Option String) : BoardWorker where
  board := board
  cfg := cfg
  overrides := overrides
  notifyScript := notifyScript
  pollInterval := 1000
  lastPoll := none
  lastStatus := none
  upSince := none
  tcEmitted := false

abbrev onWorker (op : workerCalls.Op) : Worker (workerCalls.Answer op) := Method.perform op

/-- The calls of a typed method, made by the worker. -/
def boardHandler (progress : FwProgress → Worker Unit) :
    Handler boardCalls workerCalls BoardWorker Empty :=
  passOn (fun retries subtype payload => onWorker (.request retries subtype payload)) progress

/-- Call a typed method of the worker's board. -/
def callBoard {α : Type} (progress : FwProgress → Worker Unit) (method : Typed α) :
    Worker (Except BoardError α) :=
  callTyped (·.board) (fun board worker => { worker with board := board })
    (boardHandler progress) method

def quiet (_ : FwProgress) : Worker Unit := pure ()

/-- Publish the display fields of the configuration. -/
def publishConfig : Worker Unit := do
  let worker ← Method.read
  onWorker (.publishConfig worker.cfg.xferMode worker.cfg.modulation worker.cfg.annex)

/-- Take the line down and up again with a new configuration, and store it.  Neither
result is looked at. -/
def reconfigure (newCfg : DslConfig) : Worker Unit := do
  let _ ← callBoard quiet lineConfigDown
  let _ ← callBoard quiet newCfg.lineUp
  Method.update fun worker => { worker with cfg := newCfg }
  publishConfig
  Method.update fun worker => { worker with tcEmitted := false }

def handleReload : Worker Unit := do
  let opened ← onWorker .loadUci
  let worker ← Method.read
  match DslConfig.load opened worker.overrides with
  | .error _ => pure ()
  | .ok newCfg =>
    if configChanged worker.cfg newCfg then reconfigure newCfg else pure ()

def handleRestart : Worker Unit := do
  let _ ← callBoard quiet lineConfigDown
  onWorker (.sleep 1000)
  let worker ← Method.read
  let _ ← callBoard quiet worker.cfg.lineUp
  Method.update fun worker => { worker with tcEmitted := false }

/-- The progress callback of an upgrade. -/
def reportProgress (replyTx : Nat) (update : FwProgress) : Worker Unit := do
  onWorker (.sendFwEvent replyTx (.progress update))
  onWorker (.setFwStatus (.upgradingProgress update.stage update.pct))

def handleFirmwareUpgrade (fuel : Nat) (image : Bytes) (replyTx : Nat) : Worker Unit := do
  onWorker (.setFwStatus .upgrading)
  match ← callBoard (reportProgress replyTx) (firmwareUpgrade fuel image) with
  | .ok result =>
    onWorker (.setFwStatus .done)
    onWorker (.sendFwEvent replyTx (.done (.ok result)))
  | .error error =>
    onWorker (.setFwStatus (.failed error.text))
    onWorker (.sendFwEvent replyTx (.done (.error error.text)))

/-- Whether the poll interval has passed. -/
def pollDue : Worker Bool := do
  let worker ← Method.read
  match worker.lastPoll with
  | none => pure true
  | some last => return (← onWorker .now) - last ≥ worker.pollInterval

/-- Since when the line has been up. -/
def trackUptime (status : LinkStatus) : Worker Unit := do
  let worker ← Method.read
  if status = .up then
    match worker.upSince with
    | none => do
      let now ← onWorker .now
      Method.update fun worker => { worker with upSince := some now }
    | some _ => pure ()
  else
    Method.update fun worker => { worker with upSince := none }

def uptimeSecs : Worker Nat := do
  let worker ← Method.read
  match worker.upSince with
  | none => pure 0
  | some since => return ((← onWorker .now) - since) / 1000

/-- Call the notify script, if there is one. -/
def notifying (op : String → workerCalls.Op) : Worker Unit := do
  let worker ← Method.read
  match worker.notifyScript with
  | none => pure ()
  | some script => do
    let _ ← onWorker (op script)

/-- Tell the notify script about a change of the line state. -/
def announce (status : LinkStatus) : Worker Unit := do
  let worker ← Method.read
  if some status ≠ worker.lastStatus then do
    notifying fun script => .emitStatus script (linkStatusToEvent status)
    if status = .up ∧ worker.tcEmitted = false then do
      notifying fun script => .emitTcLayer script worker.cfg.xferMode
      Method.update fun worker => { worker with tcEmitted := true }
    else
      pure ()
    Method.update fun worker => { worker with lastStatus := some status }
  else
    pure ()

def recordLine (line : LineObj) : Worker Unit := do
  trackUptime line.linkStatus
  let uptime ← uptimeSecs
  let worker ← Method.read
  onWorker (.publishLine line uptime worker.cfg.xferMode worker.cfg.modulation worker.cfg.annex)
  announce line.linkStatus

def maybePollBoard : Worker Unit := do
  if ← pollDue then do
    let now ← onWorker .now
    Method.update fun worker => { worker with lastPoll := some now }
    match ← callBoard quiet getLineObj with
    | .ok line => recordLine line
    | .error _ => pure ()
  else
    pure ()

/-- What the worker does on a command. -/
def handle (fuel : Nat) : WorkerCmd → Worker Unit
  | .reload => handleReload
  | .restartLine => handleRestart
  | .firmwareUpgrade image replyTx => handleFirmwareUpgrade fuel image replyTx

/-- One turn of the worker loop. -/
def turn (fuel : Nat) (_ : Unit) : Worker (Unit ⊕ Unit) := do
  if ← onWorker .shouldExit then
    pure (.inr ())
  else do
    match ← onWorker (.recvTimeout workerTick) with
    | .command cmd => do
      handle fuel cmd
      maybePollBoard
      pure (.inl ())
    | .timeout => do
      maybePollBoard
      pure (.inl ())
    | .disconnected => pure (.inr ())

/-- Run the loop, then take the line down as far as the board lets it. -/
def run (fuel : Nat) : Worker Unit := do
  Method.iterate (turn fuel) fuel ()
  Method.update fun worker => { worker with board := { worker.board with retries := 0 } }
  let _ ← callBoard quiet lineConfigDown

end BoardWorker

end RbctlDsl.Dsl
