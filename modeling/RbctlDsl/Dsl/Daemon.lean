import RbctlDsl.Dsl.BoardWorker

/-!
# The daemon

`daemon.rs`: the main thread, from the configuration to the shutdown.  It sets the line and
the data link up, creates the host interface of the transport VLAN, hands the board to the
worker, and runs the control loop.  Logging is left out, and so is the status snapshot that
the loop answers `STATUS` requests with.
-/

namespace RbctlDsl.Dsl

open RbctlDsl.Lib RbctlDsl.Proto

/-! ## Host interfaces -/

structure OsError where
  code : Option Nat
  text : String
  deriving DecidableEq, Repr

/-- `RtnlLink`. -/
inductive RtnlOp where
  | new
  | addVlan (parent : String) (vlanId : UInt16)
  | setUp (name : String)
  | del (name : String)
  deriving DecidableEq, Repr

abbrev rtnl : Signature where
  Op := RtnlOp
  Answer _ := Except OsError Unit

abbrev onRtnl {ε : Type} (op : rtnl.Op) : Method rtnl Unit ε (rtnl.Answer op) :=
  Method.perform op

def vlanName (parent : String) (vlanId : UInt16) : String := s!"{parent}.{vlanId.toNat}"

/-- `EEXIST`. -/
def eexist : Nat := 17

/-- Create an interface, or find that it exists, and set it up. -/
def createVlanIface (parent : String) (vlanId : UInt16) : Method rtnl Unit String Unit := do
  match ← onRtnl .new with
  | .error e => Method.fail s!"rtnl: {e.text}"
  | .ok () => pure ()
  match ← onRtnl (.addVlan parent vlanId) with
  | .ok () => pure ()
  | .error e =>
    if e.code = some eexist then pure ()
    else Method.fail s!"add_vlan {vlanName parent vlanId}: {e.text}"
  match ← onRtnl (.setUp (vlanName parent vlanId)) with
  | .ok () => pure ()
  | .error e => Method.fail s!"set_up {vlanName parent vlanId}: {e.text}"

/-- Delete an interface, as far as the system lets it. -/
def deleteVlanIface (parent : String) (vlanId : UInt16) : Method rtnl Unit Empty Unit := do
  match ← onRtnl .new with
  | .error _ => pure ()
  | .ok () => do
    let _ ← onRtnl (.del (vlanName parent vlanId))

/-- Everything before the last dot, if there is one. -/
def parentIface (iface : String) : String :=
  match iface.toList.reverse.dropWhile (· ≠ '.') with
  | [] => iface
  | _ :: before => String.ofList before.reverse

/-! ## The main thread -/

/-- What the control socket asks of the control loop. -/
inductive IpcAction where
  | reload | restartLine | stop
  | firmwareUpgrade (path : String) (stream : Nat)
  | none
  deriving DecidableEq, Repr

inductive DaemonOp where
  | loadUci
  | ifaceExists (name : String)
  | openSocket (iface : String)
  | request (retries subtype : UInt8) (payload : Bytes)
  | createVlan (parent : String) (vlanId : UInt16)
  | bindIpc
  | publishConfig (xferMode : XferMode) (modulation : Modulation) (annex : Annex)
  | connectUbus
  | emitTcLayer (script : String) (xferMode : XferMode)
  | spawnWorker (worker : BoardWorker)
  | shouldExit
  | takeReload
  | takeRestart
  | sendCmd (cmd : WorkerCmd)
  | acceptOne
  | setExit
  | spawnFirmwareIpc (path : String) (stream : Nat)
  | pollUbus
  | sleep (millis : Nat)
  | emitStatus (script : String) (event : LineEvent)
  | waitWorker (millis : Nat)
  | deleteVlan (parent : String) (vlanId : UInt16)
  | removeSocket
  deriving DecidableEq

abbrev daemonCalls : Signature where
  Op := DaemonOp
  Answer
    | .loadUci => Except String Uci
    | .ifaceExists _ | .bindIpc | .connectUbus | .shouldExit => Bool
    | .takeReload | .takeRestart | .waitWorker _ => Bool
    | .openSocket _ => Except String Unit
    | .request .. => Except BoardError Bytes
    | .createVlan .. => Except String Unit
    | .acceptOne => Except String (Option IpcAction)
    | _ => Unit

/-- The main thread on its board.  An early return is an error with the exit code. -/
abbrev Daemon (α : Type) := Method daemonCalls Settings Nat α

namespace Daemon

abbrev onDaemon (op : daemonCalls.Op) : Daemon (daemonCalls.Answer op) := Method.perform op

def callBoard {α : Type} (method : Typed α) : Daemon (Except BoardError α) :=
  callTyped id (fun board _ => board)
    (passOn (fun retries subtype payload => onDaemon (.request retries subtype payload))
      fun _ => pure ()) method

/-- The parameters of the ATM link. -/
def atmParams (atm : Option AtmConfig) (vlanId : UInt16) : AtmLinkParams :=
  let a := atm.getD ⟨8, 35, .llc, .eoa, .ubr, 0⟩
  { vpi := a.vpi, vci := a.vci, encap := a.encap, linkType := a.linkType, qos := a.qos
    pcr := a.pcr, vlanId := vlanId }

/-- The check before anything is sent. -/
def validateConfig (cfg : DslConfig) : Except LineConfigError Unit := do
  validateLineConfig cfg.modulation cfg.annex cfg.profiles
  validateXferMode cfg.modulation cfg.xferMode.hint

/-- The loaded configuration, or the default one. -/
def loadOrDefault (opened : Except String Uci) (overrides : CliOverrides) : DslConfig :=
  match DslConfig.load opened overrides with
  | .ok cfg => cfg
  | .error _ => .default

/-- Load a configuration and check it. -/
def configure (overrides : CliOverrides) : Daemon DslConfig := do
  let cfg := loadOrDefault (← onDaemon .loadUci) overrides
  match validateConfig cfg with
  | .ok () => pure cfg
  | .error _ => Method.fail 1

/-- Open the board's socket on the management interface. -/
def openBoard (configIface : String) : Daemon Unit := do
  if ← onDaemon (.ifaceExists configIface) then do
    match ← onDaemon (.openSocket configIface) with
    | .ok () => Method.update fun _ => ⟨2000, 3⟩
    | .error _ => Method.fail 1
  else
    Method.fail 1

def transportVlan (cfg : DslConfig) : UInt16 := cfg.transportVlanBase.toUInt16 + 2000

/-- Add the data link; the board may assign another VLAN. -/
def addLink (cfg : DslConfig) : Daemon UInt16 :=
  match cfg.xferMode with
  | .ptm => do
    return (← callBoard (ptmLinkAdd 0 0 0 (transportVlan cfg))).toOption.getD (transportVlan cfg)
  | .atm => do
    return (← callBoard (atmLinkAdd (atmParams cfg.atm (transportVlan cfg)))).toOption.getD
      (transportVlan cfg)

/-- Call the notify script, if there is one. -/
def notifying (notifyScript : Option String) (op : String → daemonCalls.Op) : Daemon Unit :=
  match notifyScript with
  | none => pure ()
  | some script => do
    let _ ← onDaemon (op script)

/-- Serve one client of the control socket. -/
def serveIpc : Daemon Unit := do
  match ← onDaemon .acceptOne with
  | .ok (some .reload) => onDaemon (.sendCmd .reload)
  | .ok (some .restartLine) => onDaemon (.sendCmd .restartLine)
  | .ok (some .stop) => onDaemon .setExit
  | .ok (some (.firmwareUpgrade path stream)) => onDaemon (.spawnFirmwareIpc path stream)
  | .ok (some .none) | .ok none | .error _ => pure ()

def when (condition : Bool) (method : Daemon Unit) : Daemon Unit :=
  if condition then method else pure ()

/-- One turn of the control loop, with what of the control socket and ubus there is. -/
def controlTurn (ipc ubus : Bool) (_ : Unit) : Daemon (Unit ⊕ Unit) := do
  if ← onDaemon .shouldExit then
    pure (.inr ())
  else do
    when (← onDaemon .takeReload) (onDaemon (.sendCmd .reload))
    when (← onDaemon .takeRestart) (onDaemon (.sendCmd .restartLine))
    when ipc serveIpc
    when ubus (onDaemon .pollUbus)
    onDaemon (.sleep 50)
    pure (.inl ())

/-- Everything after the VLAN interface is there, up to the end of the control loop. -/
def serve (fuel : Nat) (notifyScript : Option String) (overrides : CliOverrides)
    (cfg : DslConfig) : Daemon Unit := do
  let ipc ← onDaemon .bindIpc
  onDaemon (.publishConfig cfg.xferMode cfg.modulation cfg.annex)
  let ubus ← onDaemon .connectUbus
  notifying notifyScript fun script => .emitTcLayer script cfg.xferMode
  let board ← Method.read
  onDaemon (.spawnWorker (.new board cfg overrides notifyScript))
  Method.iterate (controlTurn ipc ubus) fuel ()

def shutdown (notifyScript : Option String) (parent : String) (vlan : UInt16) : Daemon Unit := do
  notifying notifyScript fun script => .emitStatus script .down
  let _ ← onDaemon (.waitWorker 3000)
  onDaemon (.deleteVlan parent vlan)
  onDaemon .removeSocket

/-- From the start to the line command, whose result is only logged. -/
def setUp (configIface : String) (overrides : CliOverrides) : Daemon DslConfig := do
  let cfg ← configure overrides
  openBoard configIface
  let _ ← callBoard cfg.lineUp
  return cfg

/-- From the data link to the exit. -/
def operate (fuel : Nat) (configIface : String) (notifyScript : Option String)
    (overrides : CliOverrides) (cfg : DslConfig) : Daemon Nat := do
  let vlan ← addLink cfg
  let _ ← onDaemon (.createVlan (parentIface configIface) vlan)
  serve fuel notifyScript overrides cfg
  shutdown notifyScript (parentIface configIface) vlan
  return 0

def run (fuel : Nat) (configIface : String) (notifyScript : Option String)
    (overrides : CliOverrides) : Daemon Nat := do
  let cfg ← setUp configIface overrides
  operate fuel configIface notifyScript overrides cfg

end Daemon

end RbctlDsl.Dsl
