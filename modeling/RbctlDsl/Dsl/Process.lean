import RbctlDsl.Dsl.FirmwareIpc
import RbctlDsl.Dsl.MainPhases
import RbctlDsl.Dsl.UpgradeJobs
import RbctlDsl.Lib.Threads

/-!
# The process

The main thread, the board worker, and a thread for every client that asks for an upgrade, on
what they share: the exit flag, the upgrade status, and the channels.  Whatever comes from
outside of the process (the board, the clients, signals, files) may have any answer.
-/

namespace RbctlDsl.Dsl

open RbctlDsl.Lib RbctlDsl.Proto

/-- A client's thread is known by its stream. -/
inductive ThreadId where
  | main
  | worker
  | client (stream : Nat)
  deriving DecidableEq, Repr

abbrev callsOf : ThreadId → Signature
  | .main => daemonCalls
  | .worker => workerCalls
  | .client _ => ipcCalls

abbrev ResultOf : ThreadId → Type
  | .main => Except Nat Nat × Settings
  | .worker => Except Empty Unit × BoardWorker
  | .client _ => Except Unit Unit × Unit

/-- What the threads share, and the line-state notifications that have been emitted. -/
structure Shared where
  shouldExit : Bool := false
  fwStatus : FwStatus := .idle
  /-- The commands that the worker has not taken yet. -/
  queue : List WorkerCmd := []
  /-- The events in the reply channel of a client.  Nobody receives them once the client's thread
  is gone. -/
  replies : Nat → List FwEvent := fun _ => []
  notified : List LineEvent := []

abbrev Process := Threads callsOf ResultOf Shared

namespace Process

/-- The main thread has returned, and no other thread goes on after it. -/
def exited (process : Process) : Bool := (process.thread .main).any Thread.returned

/-- A request whose payload does not fit the transmit buffer, which `Board::request` panics on. -/
def overflows : Event workerCalls → Prop
  | ⟨.request _ _ payload, _⟩ => ¬ Board.fitsTxBuf payload
  | _ => False

/-- A thread has panicked, which aborts a release build.  The runs here may go on after it: those
of the program are their beginnings. -/
def Aborted (process : Process) : Prop :=
  (∃ i history message, process.thread i = some ⟨history, .panic message⟩) ∨
    ∃ event ∈ process.history .worker, overflows event

/-- The process is over. -/
def Ended (process : Process) : Prop := process.exited = true ∨ process.Aborted

/-- The worker is gone, and its end of the command channel with it. -/
def workerStopped (process : Process) : Bool := (process.thread .worker).any Thread.stopped

/-- The thread of a client is over, and its end of the reply channel is gone with it. -/
def clientGone (process : Process) (stream : Nat) : Bool :=
  (process.thread (.client stream)).any Thread.returned

/-- The worker reports the result of a client's upgrade, and drops its end of the reply channel. -/
def reportsResult (stream : Nat) : Event workerCalls → Bool
  | ⟨.sendFwEvent replyTx (.done _), _⟩ => replyTx == stream
  | _ => false

/-- Nobody is left to report to a client: the other end of the reply channel goes with the command
from the client to the worker. -/
def replyTxDropped (process : Process) (stream : Nat) : Bool :=
  process.workerStopped || (process.history .worker).any (reportsResult stream)

/-- A signal may raise the exit flag at any time; nothing lowers it. -/
def seeExit (shared : Shared) : Bool → Option Shared
  | true => some { shared with shouldExit := true }
  | false => if shared.shouldExit then none else some shared

theorem seeExit_eq_some {shared after : Shared} {exit : Bool}
    (seen : seeExit shared exit = some after) : after = { shared with shouldExit := exit } := by
  cases exit with
  | true => exact (Option.some.inj seen).symm
  | false =>
      cases raised : shared.shouldExit with
      | true => simp [seeExit, raised] at seen
      | false =>
          simp only [seeExit, raised, Bool.false_eq_true, if_false, Option.some.injEq] at seen
          rw [← seen, ← raised]

/-- Queue a command, unless nobody is left to take it. -/
def send (process : Process) (cmd : WorkerCmd) : Shared :=
  if process.workerStopped then process.shared
  else { process.shared with queue := process.shared.queue ++ [cmd] }

/-- Report to a client, unless its thread is gone. -/
def report (process : Process) (replyTx : Nat) (event : FwEvent) : Shared :=
  if process.clientGone replyTx then process.shared
  else { process.shared with
    replies := Function.update process.shared.replies replyTx
      (process.shared.replies replyTx ++ [event]) }

def mainEffect (process : Process) : Event daemonCalls → Option Shared
  | ⟨.shouldExit, exit⟩ => seeExit process.shared exit
  | ⟨.setExit, _⟩ => some { process.shared with shouldExit := true }
  | ⟨.sendCmd cmd, _⟩ => some (process.send cmd)
  | ⟨.emitStatus _ event, _⟩ =>
    some { process.shared with notified := process.shared.notified ++ [event] }
  | ⟨.waitWorker _, done⟩ =>
    -- the deadline may pass at any time
    if done && !(process.thread .worker).any Thread.returned then none else some process.shared
  | _ => some process.shared

def workerEffect (process : Process) : Event workerCalls → Option Shared
  | ⟨.shouldExit, exit⟩ => seeExit process.shared exit
  | ⟨.recvTimeout _, .command cmd⟩ =>
    match process.shared.queue with
    | first :: rest => if first = cmd then some { process.shared with queue := rest } else none
    | [] => none
  | ⟨.recvTimeout _, _⟩ => if process.shared.queue = [] then some process.shared else none
  | ⟨.setFwStatus status, _⟩ => some { process.shared with fwStatus := status }
  | ⟨.sendFwEvent replyTx event, _⟩ => some (process.report replyTx event)
  | ⟨.emitStatus _ event, _⟩ =>
    some { process.shared with notified := process.shared.notified ++ [event] }
  | _ => some process.shared

def clientEffect (stream : Nat) (process : Process) : Event ipcCalls → Option Shared
  | ⟨.fwStatus, status⟩ => if status = process.shared.fwStatus then some process.shared else none
  | ⟨.sendCmd cmd, taken⟩ => if taken = process.workerStopped then none else some (process.send cmd)
  | ⟨.recv, some event⟩ =>
    match process.shared.replies stream with
    | first :: rest =>
      if first = event then
        some { process.shared with
          replies := Function.update process.shared.replies stream rest }
      else none
    | [] => none
  | ⟨.recv, none⟩ =>
    if process.shared.replies stream = [] ∧ process.replyTxDropped stream then some process.shared
    else none
  | _ => some process.shared

def effect : (i : ThreadId) → Process → Event (callsOf i) → Option Shared
  | .main, process, event => mainEffect process event
  | .worker, process, event => if process.exited then none else workerEffect process event
  | .client stream, process, event =>
    if process.exited then none else clientEffect stream process event

/-- The main thread starts the others. -/
def starts (fuel : Nat) :
    (i : ThreadId) → Event (callsOf i) → Option ((j : ThreadId) × Program (callsOf j) (ResultOf j))
  | .main, ⟨.spawnWorker worker, _⟩ => some ⟨.worker, BoardWorker.run fuel worker⟩
  | .main, ⟨.spawnFirmwareIpc path stream, _⟩ =>
    some ⟨.client stream, handleFirmwareIpc fuel path stream ()⟩
  | _, _ => none

def meaning (fuel : Nat) : Meaning callsOf ResultOf Shared where
  effect := effect
  starts := starts fuel

/-! ## What an operation changes -/

/-- The commands that an operation puts into the channel. -/
def arriving (process : Process) : (i : ThreadId) → Event (callsOf i) → List WorkerCmd
  | .main, ⟨.sendCmd cmd, _⟩ | .client _, ⟨.sendCmd cmd, _⟩ =>
    if process.workerStopped then [] else [cmd]
  | _, _ => []

/-- The commands that an operation takes from the channel. -/
def taken : (i : ThreadId) → Event (callsOf i) → List WorkerCmd
  | .worker, ⟨.recvTimeout _, .command cmd⟩ => [cmd]
  | _, _ => []

/-- The line-state notifications of an operation. -/
def emitted : (i : ThreadId) → Event (callsOf i) → List LineEvent
  | .main, ⟨.emitStatus _ event, _⟩ | .worker, ⟨.emitStatus _ event, _⟩ => [event]
  | _, _ => []

/-- The upgrade status that an operation leaves. -/
def fwStatusAfter (status : FwStatus) : (i : ThreadId) → Event (callsOf i) → FwStatus
  | .worker, ⟨.setFwStatus published, _⟩ => published
  | _, _ => status

/-- The upgrade status, the channel and the notifications after an operation. -/
structure Changed (process : Process) (i : ThreadId) (event : Event (callsOf i))
    (shared : Shared) : Prop where
  fwStatus : shared.fwStatus = fwStatusAfter process.shared.fwStatus i event
  queue : taken i event ++ shared.queue = process.shared.queue ++ arriving process i event
  notified : shared.notified = process.shared.notified ++ emitted i event

section Changed

variable {process : Process} {shared : Shared}

theorem queue_send (cmd : WorkerCmd) : (process.send cmd).queue =
    process.shared.queue ++ if process.workerStopped then [] else [cmd] := by
  unfold send
  split
  · exact (List.append_nil _).symm
  · rfl

theorem fwStatus_send (cmd : WorkerCmd) :
    (process.send cmd).fwStatus = process.shared.fwStatus := by
  unfold send
  split <;> rfl

theorem notified_send (cmd : WorkerCmd) :
    (process.send cmd).notified = process.shared.notified := by
  unfold send
  split <;> rfl

theorem changed_report (replyTx : Nat) (event : FwEvent) :
    Changed process .worker ⟨.sendFwEvent replyTx event, ()⟩ (process.report replyTx event) := by
  unfold report
  split <;> exact ⟨rfl, (List.append_nil _).symm, (List.append_nil _).symm⟩

theorem changed_mainEffect {event : Event daemonCalls}
    (effect : mainEffect process event = some shared) : Changed process .main event shared := by
  obtain ⟨op, answer⟩ := event
  cases op with
  | shouldExit =>
      rw [seeExit_eq_some effect]
      exact ⟨rfl, (List.append_nil _).symm, (List.append_nil _).symm⟩
  | sendCmd cmd =>
      cases effect
      exact ⟨fwStatus_send cmd, queue_send cmd, (notified_send cmd).trans (List.append_nil _).symm⟩
  | emitStatus script event =>
      cases effect
      exact ⟨rfl, (List.append_nil _).symm, rfl⟩
  | waitWorker millis =>
      simp only [mainEffect] at effect
      split at effect
      · cases effect
      · cases effect
        exact ⟨rfl, (List.append_nil _).symm, (List.append_nil _).symm⟩
  | _ =>
      cases effect
      exact ⟨rfl, (List.append_nil _).symm, (List.append_nil _).symm⟩

theorem changed_workerEffect {event : Event workerCalls}
    (effect : workerEffect process event = some shared) : Changed process .worker event shared := by
  obtain ⟨op, answer⟩ := event
  cases op with
  | shouldExit =>
      rw [seeExit_eq_some effect]
      exact ⟨rfl, (List.append_nil _).symm, (List.append_nil _).symm⟩
  | recvTimeout millis =>
      cases answer with
      | command cmd =>
          simp only [workerEffect] at effect
          split at effect
          · next first rest queue =>
              split at effect
              · next same =>
                  subst same
                  cases effect
                  exact ⟨rfl, queue.symm.trans (List.append_nil _).symm, (List.append_nil _).symm⟩
              · cases effect
          · cases effect
      | timeout | disconnected =>
          simp only [workerEffect] at effect
          split at effect
          · cases effect
            exact ⟨rfl, (List.append_nil _).symm, (List.append_nil _).symm⟩
          · cases effect
  | sendFwEvent replyTx event =>
      cases effect
      exact changed_report replyTx event
  | emitStatus script event =>
      cases effect
      exact ⟨rfl, (List.append_nil _).symm, rfl⟩
  | _ =>
      cases effect
      exact ⟨rfl, (List.append_nil _).symm, (List.append_nil _).symm⟩

theorem changed_clientEffect {stream : Nat} {event : Event ipcCalls}
    (effect : clientEffect stream process event = some shared) :
    Changed process (.client stream) event shared := by
  obtain ⟨op, answer⟩ := event
  cases op with
  | fwStatus =>
      simp only [clientEffect] at effect
      split at effect
      · cases effect
        exact ⟨rfl, (List.append_nil _).symm, (List.append_nil _).symm⟩
      · cases effect
  | sendCmd cmd =>
      simp only [clientEffect] at effect
      split at effect
      · cases effect
      · cases effect
        exact ⟨fwStatus_send cmd, queue_send cmd,
          (notified_send cmd).trans (List.append_nil _).symm⟩
  | recv =>
      cases answer with
      | none =>
          simp only [clientEffect] at effect
          split at effect
          · cases effect
            exact ⟨rfl, (List.append_nil _).symm, (List.append_nil _).symm⟩
          · cases effect
      | some event =>
          simp only [clientEffect] at effect
          split at effect
          · split at effect
            · cases effect
              exact ⟨rfl, (List.append_nil _).symm, (List.append_nil _).symm⟩
            · cases effect
          · cases effect
  | _ =>
      cases effect
      exact ⟨rfl, (List.append_nil _).symm, (List.append_nil _).symm⟩

open Threads

variable {fuel : Nat} {process' : Process}

/-- The worker acts as long as the process has not exited. -/
theorem effect_worker {event : Event (callsOf .worker)}
    (step : Step (meaning fuel) process .worker event process') :
    process.exited = false ∧ workerEffect process event = some process'.shared := by
  have done : effect .worker process event = some process'.shared := step.effect
  rw [effect] at done
  split at done
  · cases done
  · next running => exact ⟨Bool.eq_false_iff.mpr running, done⟩

/-- A client acts as long as the process has not exited. -/
theorem effect_client {stream : Nat} {event : Event (callsOf (.client stream))}
    (step : Step (meaning fuel) process (.client stream) event process') :
    process.exited = false ∧ clientEffect stream process event = some process'.shared := by
  have done : effect (.client stream) process event = some process'.shared := step.effect
  rw [effect] at done
  split at done
  · cases done
  · next running => exact ⟨Bool.eq_false_iff.mpr running, done⟩

/-- What every operation changes. -/
theorem changed_step {i : ThreadId} {event : Event (callsOf i)}
    (step : Step (meaning fuel) process i event process') :
    Changed process i event process'.shared := by
  cases i with
  | main => exact changed_mainEffect step.effect
  | worker => exact changed_workerEffect (effect_worker step).2
  | client stream => exact changed_clientEffect (effect_client step).2

end Changed

/-- How the daemon is called. -/
structure Launch where
  fuel : Nat
  configIface : String
  notifyScript : Option String
  overrides : CliOverrides

/-- The process at its start. -/
def launched (launch : Launch) : Process where
  shared := {}
  thread
    | .main => some ⟨[], Daemon.run launch.fuel launch.configIface launch.notifyScript
        launch.overrides ⟨defaultTimeout, defaultRetries⟩⟩
    | _ => none

/-- The states of all runs. -/
def Reachable (launch : Launch) (process : Process) : Prop :=
  Threads.Reaches (meaning launch.fuel) (fun _ _ _ => True) (launched launch) process

/-! ## The protocols of the threads -/

abbrev PhaseOf : ThreadId → Type
  | .main => MainPhase
  | .worker => JobPhase
  | .client _ => ClientPhase

def protocolOf (notifyScript : Option String) : (i : ThreadId) → Protocol (callsOf i) (PhaseOf i)
  | .main => mainProtocol notifyScript
  | .worker => workerProtocol
  | .client stream => clientProtocol stream

/-- Where a thread is when it returns. -/
def endsOf : (i : ThreadId) → PhaseOf i → ResultOf i → Prop
  | .main, phase, result => ∀ code, result.1 = .ok code → phase = .waited
  | .worker, phase, _ => phase = .free
  | .client _, phase, result => ∀ value, result.1 = .ok value → phase = .sent

open Protocol

theorem follows_of_starts (notifyScript : Option String) (fuel : Nat) (i j : ThreadId)
    (event : Event (callsOf i)) (program : Program (callsOf j) (ResultOf j))
    (new : starts fuel i event = some ⟨j, program⟩) :
    (protocolOf notifyScript j).Follows (endsOf j) program (protocolOf notifyScript j).initial := by
  cases i with
  | worker => cases new
  | client stream => cases new
  | main =>
      obtain ⟨op, answer⟩ := event
      cases op with
      | spawnWorker worker =>
          cases new
          refine (BoardWorker.leads_run fuel worker).mono ?_
          rintro reached ⟨result, after⟩ goesOn
          cases result with
          | ok value => exact goesOn value rfl
          | error never => cases never
      | spawnFirmwareIpc path stream =>
          cases new
          exact leads_handleFirmwareIpc fuel path stream ()
      | _ => cases new

/-- Every thread follows its protocol. -/
def discipline (notifyScript : Option String) (fuel : Nat) :
    Discipline (meaning fuel) PhaseOf where
  protocol := protocolOf notifyScript
  ends := endsOf
  starts i _ event j program _ new := follows_of_starts notifyScript fuel i j event program new

theorem obeyed_launched (launch : Launch) :
    (discipline launch.notifyScript launch.fuel).Obeyed (launched launch) := by
  intro i thread there
  cases i with
  | worker | client => cases there
  | main =>
      cases there
      exact Daemon.leads_run launch.fuel launch.configIface _ [] rfl

/-- A worker that is told nothing, on a board that answers nothing. -/
def silentWorker : Oracle workerCalls
  | _, .shouldExit => false
  | _, .recvTimeout _ => .timeout
  | _, .loadUci => .error "uci: no such package"
  | _, .request .. => .error .timeout
  | _, .now => 0
  | _, .sleep _ | _, .publishConfig .. | _, .publishLine .. | _, .setFwStatus _ => ()
  | _, .sendFwEvent .. | _, .emitStatus .. | _, .emitTcLayer .. => ()

end Process

end RbctlDsl.Dsl
