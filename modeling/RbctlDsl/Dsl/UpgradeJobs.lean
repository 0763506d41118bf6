import RbctlDsl.Dsl.LineCommands
import RbctlDsl.Lib.Phases

/-!
# Upgrade jobs

The worker thread, as far as upgrades go.  It takes one command at a time, and between taking
an upgrade and reporting its end it publishes that one is running and sends nothing but
opcode 8.
-/

namespace RbctlDsl.Dsl

open RbctlDsl.Lib RbctlDsl.Proto

/-- What the worker has in hand: no upgrade, one that it has not begun, or one that runs.  An
upgrade is known by its reply channel. -/
inductive JobPhase where
  | free
  | dequeued (replyTx : Nat)
  | running (replyTx : Nat)
  deriving DecidableEq, Repr

namespace JobPhase

def after : JobPhase → Event workerCalls → JobPhase
  | _, ⟨.recvTimeout _, .command (.firmwareUpgrade _ replyTx)⟩ => .dequeued replyTx
  | .dequeued replyTx, ⟨.setFwStatus .upgrading, _⟩ => .running replyTx
  | .running _, ⟨.setFwStatus .done, _⟩ | .running _, ⟨.setFwStatus (.failed _), _⟩ => .free
  | phase, _ => phase

def IsRunning : JobPhase → Prop
  | .running _ => True
  | _ => False

def IsDequeued : JobPhase → Prop
  | .dequeued _ => True
  | _ => False

/-- Commands are taken with nothing in hand, and the status is set in the course of an upgrade
only.  Opcode 8 is sent while one runs, and nothing else is. -/
def Permits (phase : JobPhase) : WorkerOp → Prop
  | .recvTimeout _ => phase = .free
  | .setFwStatus .upgrading => phase.IsDequeued
  | .setFwStatus .idle => False
  | .setFwStatus _ => phase.IsRunning
  | .request _ subtype _ => subtype = 8 ↔ phase.IsRunning
  | _ => True

end JobPhase

def workerProtocol : Protocol workerCalls JobPhase where
  initial := .free
  after := JobPhase.after
  permits := JobPhase.Permits

namespace BoardWorker

open Protocol

section Follows

variable {replyTx : Nat}

/-- With nothing in hand, polls and line commands leave it so. -/
theorem stays_free_poll {op : WorkerOp} (polls : PollOp op) : workerProtocol.Stays .free op := by
  cases op with
  | request retries subtype payload =>
      obtain rfl : subtype = 2 := polls
      exact ⟨iff_of_false (by decide) id, fun _ => rfl⟩
  | now | publishLine | emitStatus | emitTcLayer => exact ⟨trivial, fun _ => rfl⟩
  | shouldExit | recvTimeout | loadUci | sleep | publishConfig | setFwStatus | sendFwEvent =>
      cases polls

theorem stays_running_upload {op : WorkerOp} (uploads : UploadOp op) :
    workerProtocol.Stays (.running replyTx) op := by
  cases op with
  | request retries subtype payload => exact ⟨iff_of_true uploads trivial, fun _ => rfl⟩
  | sendFwEvent replyTx event => exact ⟨trivial, fun _ => rfl⟩
  | setFwStatus status =>
      cases status with
      | upgradingProgress stage pct => exact ⟨trivial, fun _ => rfl⟩
      | idle | upgrading | done | failed => cases uploads
  | shouldExit | recvTimeout | loadUci | sleep | now | publishConfig | publishLine | emitStatus
  | emitTcLayer => cases uploads

theorem leads_handleReload : workerProtocol.Leads handleReload .free .free := by
  have requested (retries : UInt8) {subtype : UInt8} (payload : Bytes) (other : subtype ≠ 8) :
      workerProtocol.permits .free (.request retries subtype payload) := iff_of_false other id
  intro worker
  rw [handleReload_apply]
  refine follows_perform trivial fun opened => ?_
  cases DslConfig.load opened worker.overrides with
  | error error => exact follows_pure fun _ _ => rfl
  | ok newCfg =>
      dsimp only
      split
      · rw [reconfigure_apply]
        refine follows_perform (requested _ _ (by decide)) fun _ => ?_
        refine follows_perform (requested _ _ (by decide)) fun _ => ?_
        exact follows_perform trivial fun _ => follows_pure fun _ _ => rfl
      · exact follows_pure fun _ _ => rfl

theorem leads_handleRestart : workerProtocol.Leads handleRestart .free .free := by
  have requested (retries : UInt8) {subtype : UInt8} (payload : Bytes) (other : subtype ≠ 8) :
      workerProtocol.permits .free (.request retries subtype payload) := iff_of_false other id
  intro worker
  rw [handleRestart_apply]
  refine follows_perform (requested _ _ (by decide)) fun _ => ?_
  refine follows_perform trivial fun _ => ?_
  exact follows_perform (requested _ _ (by decide)) fun _ => follows_pure fun _ _ => rfl

theorem leads_handleFirmwareUpgrade (fuel : Nat) (image : Bytes) :
    workerProtocol.Leads (handleFirmwareUpgrade fuel image replyTx) (.dequeued replyTx)
      .free := by
  have begun : workerProtocol.Leads (onWorker (.setFwStatus .upgrading)) (.dequeued replyTx)
      (.running replyTx) := leads_perform trivial fun _ => rfl
  have uploaded : workerProtocol.Leads
      (callBoard (reportProgress replyTx) (firmwareUpgrade fuel image)) (.running replyTx)
      (.running replyTx) := by
    have hides : HidesBoard lineSettings := fun _ _ => rfl
    exact leads_of_keeps ((keeps_upload hides fuel image replyTx).mono fun _ =>
      stays_running_upload)
  have sent (event : FwEvent) : workerProtocol.Leads (onWorker (.sendFwEvent replyTx event))
      .free .free := leads_perform trivial fun _ => rfl
  refine leads_bind begun fun _ => leads_bind uploaded fun result => ?_
  cases result with
  | ok result => exact leads_bind (leads_perform trivial fun _ => rfl) fun _ => sent _
  | error error => exact leads_bind (leads_perform trivial fun _ => rfl) fun _ => sent _

theorem leads_turn (fuel : Nat) (locals : Unit) :
    workerProtocol.Leads (turn fuel locals) .free .free := by
  have polled : workerProtocol.Leads
      (maybePollBoard >>= fun _ => pure (.inl ()) : Worker (Unit ⊕ Unit)) .free .free :=
    leads_bind (leads_of_keeps (keepsPoll_maybePollBoard.mono fun _ => stays_free_poll))
      fun _ => leads_pure _
  refine leads_perform_bind trivial fun exit => ?_
  cases exit with
  | true => exact leads_pure _
  | false =>
      refine leads_perform_bind rfl fun received => ?_
      match received with
      | .timeout => exact polled
      | .disconnected => exact leads_pure _
      | .command .reload => exact leads_bind leads_handleReload fun _ => polled
      | .command .restartLine => exact leads_bind leads_handleRestart fun _ => polled
      | .command (.firmwareUpgrade image _) =>
          exact leads_bind (leads_handleFirmwareUpgrade fuel image) fun _ => polled

/-- The worker thread follows its protocol. -/
theorem leads_run (fuel : Nat) : workerProtocol.Leads (run fuel) .free .free := by
  have down : workerProtocol.Leads (callBoard quiet lineConfigDown) .free .free := by
    intro worker
    rw [lineConfigDown, callBoard_exchange]
    exact follows_perform (iff_of_false (by decide) id) fun _ => follows_pure fun _ _ => rfl
  have looped : workerProtocol.Leads (Method.iterate (turn fuel) fuel ()) .free .free :=
    leads_iterate (fun locals _ => passEnds_of_leads (leads_turn fuel locals)) fuel ()
  refine leads_bind looped fun _ => ?_
  refine leads_bind (leads_update _) fun _ => ?_
  exact leads_bind down fun _ => leads_pure ()

end Follows

end BoardWorker

end RbctlDsl.Dsl
