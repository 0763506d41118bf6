import RbctlDsl.Dsl.Startup
import RbctlDsl.Lib.Phases

/-!
# The phases of the main thread

The main thread sets up, serves, and shuts down.  It talks to the board in the set-up only, and
once it has seen the exit flag it announces the line as down, waits for the worker, and cleans
up.
-/

namespace RbctlDsl.Dsl

open RbctlDsl.Lib RbctlDsl.Proto

/-- Where the main thread is: before the worker is there, in the control loop, past it, past
the announcement, and past the wait for the worker. -/
inductive MainPhase where
  | setUp | serving | leaving | announced | waited
  deriving DecidableEq, Repr

namespace MainPhase

def after : MainPhase → Event daemonCalls → MainPhase
  | .setUp, ⟨.spawnWorker _, _⟩ => .serving
  | .serving, ⟨.shouldExit, exit⟩ => if exit then .leaving else .serving
  | .leaving, ⟨.emitStatus .., _⟩ => .announced
  | _, ⟨.waitWorker _, _⟩ => .waited
  | phase, _ => phase

/-- The phase in which the shutdown waits for the worker. -/
def beforeWait : Option String → MainPhase
  | some _ => .announced
  | none => .leaving

def Permits (notifyScript : Option String) (phase : MainPhase) : DaemonOp → Prop
  | .loadUci | .ifaceExists _ | .openSocket _ | .request .. | .createVlan .. => phase = .setUp
  | .bindIpc | .publishConfig .. | .connectUbus | .emitTcLayer .. | .spawnWorker _ =>
    phase = .setUp
  | .sendCmd cmd => phase = .serving ∧ (cmd = .reload ∨ cmd = .restartLine)
  | .shouldExit | .takeReload | .takeRestart | .acceptOne | .setExit => phase = .serving
  | .spawnFirmwareIpc .. | .pollUbus | .sleep _ => phase = .serving
  | .emitStatus _ event => phase = .leaving ∧ event = .down
  | .waitWorker _ => phase = beforeWait notifyScript
  | .deleteVlan .. | .removeSocket => phase = .waited

end MainPhase

def mainProtocol (notifyScript : Option String) : Protocol daemonCalls MainPhase where
  initial := .setUp
  after := MainPhase.after
  permits := MainPhase.Permits notifyScript

namespace Daemon

open Protocol

section Leads

variable {notifyScript : Option String} {overrides : CliOverrides} {cfg : DslConfig}

theorem leads_setUp (configIface : String) :
    (mainProtocol notifyScript).Leads (setUp configIface overrides) .setUp .setUp := by
  intro board
  have stays : ∀ op, SetUpOp op → (mainProtocol notifyScript).Stays .setUp op := by
    intro op setsUp
    cases op with
    | loadUci | ifaceExists | openSocket | request => exact ⟨rfl, fun _ => rfl⟩
    | _ => cases setsUp
  have safe : Safe (onlyOps ((mainProtocol notifyScript).Stays .setUp))
      (fun _ result => ∀ cfg, result.1 = .ok cfg → Prepared cfg)
      (setUp configIface overrides board) [] :=
    (safe_setUp configIface).weaken (fun _ => stays) (fun _ _ _ => trivial) fun _ _ => trivial
  exact (follows_of_stays safe).mono fun _ _ holds _ _ => holds.1

theorem leads_addLink : (mainProtocol notifyScript).Leads (addLink cfg) .setUp .setUp := by
  intro board
  unfold addLink
  cases cfg.xferMode with
  | ptm =>
      simp only [Method.bind_apply, ptmLinkAdd, callBoard_exchange, Program.perform_bind]
      exact follows_perform rfl fun _ => follows_pure fun _ _ => rfl
  | atm =>
      simp only [Method.bind_apply, atmLinkAdd, callBoard_exchange, Program.perform_bind]
      exact follows_perform rfl fun _ => follows_pure fun _ _ => rfl

theorem leads_serveIpc : (mainProtocol notifyScript).Leads serveIpc .serving .serving := by
  refine leads_perform_bind rfl fun accepted => ?_
  match accepted with
  | .ok (some .reload) => exact leads_perform ⟨rfl, .inl rfl⟩ fun _ => rfl
  | .ok (some .restartLine) => exact leads_perform ⟨rfl, .inr rfl⟩ fun _ => rfl
  | .ok (some .stop) | .ok (some (.firmwareUpgrade _ _)) => exact leads_perform rfl fun _ => rfl
  | .ok (some .none) | .ok none | .error _ => exact leads_pure ()

theorem leads_when {condition : Bool} {method : Daemon Unit} {phase : MainPhase}
    (leads : (mainProtocol notifyScript).Leads method phase phase) :
    (mainProtocol notifyScript).Leads (when condition method) phase phase := by
  cases condition with
  | true => exact leads
  | false => exact leads_pure ()

theorem ends_controlTurn (ipc ubus : Bool) (locals : Unit) (board : Settings) :
    (mainProtocol notifyScript).Follows (passEnds .serving .leaving)
      (controlTurn ipc ubus locals board) .serving := by
  refine follows_perform rfl fun exit => ?_
  cases exit with
  | true => exact follows_pure rfl
  | false =>
      have forwarded (cmd : WorkerCmd) (known : cmd = .reload ∨ cmd = .restartLine) :
          (mainProtocol notifyScript).Leads (onDaemon (.sendCmd cmd)) .serving .serving :=
        leads_perform ⟨rfl, known⟩ fun _ => rfl
      have stays {α : Type} {method : Daemon α} {next : α → Daemon (Unit ⊕ Unit)}
          (first : (mainProtocol notifyScript).Leads method .serving .serving)
          (rest : ∀ value board, (mainProtocol notifyScript).Follows (passEnds .serving .leaving)
            (next value board) .serving) (board : Settings) :
          (mainProtocol notifyScript).Follows (passEnds .serving .leaving)
            ((method >>= next) board) .serving :=
        follows_bind_of_leads first rest (fun _ _ _ => trivial) board
      refine follows_perform rfl fun reload => ?_
      refine stays (leads_when (forwarded _ (.inl rfl))) (fun _ board => ?_) board
      refine follows_perform rfl fun restart => ?_
      refine stays (leads_when (forwarded _ (.inr rfl))) (fun _ board => ?_) board
      refine stays (leads_when leads_serveIpc) (fun _ board => ?_) board
      refine stays (leads_when (leads_perform rfl fun _ => rfl)) (fun _ board => ?_) board
      exact follows_perform rfl fun _ => follows_pure rfl

theorem leads_serve (fuel : Nat) :
    (mainProtocol notifyScript).Leads (serve fuel notifyScript overrides cfg) .setUp
      .leaving := by
  have told : (mainProtocol notifyScript).Leads
      (notifying notifyScript fun script => .emitTcLayer script cfg.xferMode) .setUp .setUp := by
    cases notifyScript with
    | none => exact leads_pure ()
    | some script => exact leads_perform_bind rfl fun _ => leads_pure ()
  refine leads_perform_bind rfl fun ipc => ?_
  refine leads_perform_bind rfl fun _ => ?_
  refine leads_perform_bind rfl fun ubus => ?_
  refine leads_bind told fun _ => ?_
  refine leads_bind leads_read fun board => ?_
  refine leads_perform_bind rfl fun _ => ?_
  exact leads_iterate (ends_controlTurn ipc ubus) fuel ()

theorem leads_shutdown (parent : String) (vlan : UInt16) :
    (mainProtocol notifyScript).Leads (shutdown notifyScript parent vlan) .leaving .waited := by
  have told : (mainProtocol notifyScript).Leads
      (notifying notifyScript fun script => .emitStatus script .down) .leaving
      (MainPhase.beforeWait notifyScript) := by
    cases notifyScript with
    | none => exact leads_pure ()
    | some script => exact leads_perform_bind ⟨rfl, rfl⟩ fun _ => leads_pure ()
  refine leads_bind told fun _ => ?_
  refine leads_perform_bind rfl fun done => ?_
  have waited : (mainProtocol notifyScript).after (MainPhase.beforeWait notifyScript)
      ⟨.waitWorker 3000, done⟩ = .waited := by
    cases notifyScript <;> rfl
  rw [waited]
  refine leads_bind (leads_perform rfl fun _ => rfl) fun _ => ?_
  exact leads_perform rfl fun _ => rfl

/-- The main thread follows its protocol. -/
theorem leads_run (fuel : Nat) (configIface : String) :
    (mainProtocol notifyScript).Leads (run fuel configIface notifyScript overrides) .setUp
      .waited := by
  refine leads_bind (leads_setUp configIface) fun cfg => ?_
  refine leads_bind leads_addLink fun vlan => ?_
  refine leads_bind (leads_perform rfl fun _ => rfl) fun _ => ?_
  refine leads_bind (leads_serve fuel) fun _ => ?_
  exact leads_bind (leads_shutdown _ vlan) fun _ => leads_pure 0

end Leads

end Daemon

end RbctlDsl.Dsl
