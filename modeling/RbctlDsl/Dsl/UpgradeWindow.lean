import Mathlib.Data.List.Induction
import RbctlDsl.Dsl.UpgradeDialogue
import RbctlDsl.Dsl.UpgradeExclusivity

/-!
# The window of an upgrade

What can happen while the worker runs an upgrade: nobody talks to the board but by opcode 8, and
commands wait in the channel.  A stop does not wait: the main thread leaves the control loop, and
the process exits when the worker is not done in time.  A panic ends the process as well.
-/

namespace RbctlDsl.Dsl

open RbctlDsl.Lib RbctlDsl.Proto

/-! ## How the main thread ends -/

namespace Daemon

section Ends

variable {overrides : CliOverrides} {cfg : DslConfig} {notifyScript : Option String}

theorem succeeds_notifying (op : String → daemonCalls.Op) :
    Succeeds (notifying notifyScript op) := by
  cases notifyScript with
  | none => exact succeeds_pure ()
  | some script => exact succeeds_bind (succeeds_perform _) fun _ => succeeds_pure ()

theorem succeeds_serveIpc : Succeeds serveIpc := by
  refine succeeds_bind (succeeds_perform _) fun accepted => ?_
  match accepted with
  | .ok (some .reload) | .ok (some .restartLine) => exact succeeds_perform _
  | .ok (some .stop) | .ok (some (.firmwareUpgrade _ _)) => exact succeeds_perform _
  | .ok (some .none) | .ok none | .error _ => exact succeeds_pure ()

theorem succeeds_when {condition : Bool} {method : Daemon Unit} (succeeds : Succeeds method) :
    Succeeds (when condition method) := by
  cases condition with
  | true => exact succeeds
  | false => exact succeeds_pure ()

theorem succeeds_controlTurn (ipc ubus : Bool) (locals : Unit) :
    Succeeds (controlTurn ipc ubus locals) := by
  refine succeeds_bind (succeeds_perform _) fun exit => ?_
  cases exit with
  | true => exact succeeds_pure _
  | false =>
      refine succeeds_bind (succeeds_perform _) fun reload => ?_
      refine succeeds_bind (succeeds_when (succeeds_perform _)) fun _ => ?_
      refine succeeds_bind (succeeds_perform _) fun restart => ?_
      refine succeeds_bind (succeeds_when (succeeds_perform _)) fun _ => ?_
      refine succeeds_bind (succeeds_when succeeds_serveIpc) fun _ => ?_
      refine succeeds_bind (succeeds_when (succeeds_perform _)) fun _ => ?_
      exact succeeds_bind (succeeds_perform _) fun _ => succeeds_pure _

theorem succeeds_serve (fuel : Nat) : Succeeds (serve fuel notifyScript overrides cfg) := by
  refine succeeds_bind (succeeds_perform _) fun ipc => ?_
  refine succeeds_bind (succeeds_perform _) fun _ => ?_
  refine succeeds_bind (succeeds_perform _) fun ubus => ?_
  refine succeeds_bind (succeeds_notifying _) fun _ => ?_
  refine succeeds_bind succeeds_read fun board => ?_
  refine succeeds_bind (succeeds_perform _) fun _ => ?_
  exact succeeds_iterate (succeeds_controlTurn ipc ubus) fuel ()

/-- After the set-up the main thread does not fail. -/
theorem succeeds_operate (fuel : Nat) (configIface : String) :
    Succeeds (operate fuel configIface notifyScript overrides cfg) := by
  intro board history
  rw [operate_apply]
  refine ⟨trivial, fun reply _ => ⟨trivial, fun _ _ => ?_⟩⟩
  have shuts (parent : String) (vlan : UInt16) : Succeeds (shutdown notifyScript parent vlan) :=
    succeeds_bind (succeeds_notifying _) fun _ =>
      succeeds_bind (succeeds_perform _) fun _ =>
        succeeds_bind (succeeds_perform _) fun _ => succeeds_perform _
  have finishes (vlan : UInt16) :
      Succeeds (finish fuel configIface notifyScript overrides cfg vlan) :=
    succeeds_bind (succeeds_serve fuel) fun _ =>
      succeeds_bind (shuts _ vlan) fun _ => succeeds_pure 0
  exact finishes _ board _

/-- What has happened before the main thread ends: the set-up only, if it has failed, else the
exit flag has been seen and the wait for the worker is over. -/
def EndsAfter (later : History daemonCalls) : Except Nat Nat × Settings → Prop
  | (.ok _, _) => ⟨.shouldExit, true⟩ ∈ later ∧ ∃ done, ⟨.waitWorker 3000, done⟩ ∈ later
  | (.error _, _) => ∀ event ∈ later, SetUpOp event.op

variable {board : Settings} {history : History daemonCalls}

/-- Something holds of the history if the method does not fail. -/
def IfOk {α : Type} (holds : History daemonCalls → Prop) (later : History daemonCalls)
    (result : Except Nat α × Settings) : Prop :=
  ∀ value, result.1 = .ok value → holds later

theorem ifOk_error {α : Type} {holds : History daemonCalls → Prop} (code : Nat) :
    IfOk (α := α) holds history (.error code, board) := fun _ equal => by cases equal

/-- The control loop is left when the exit flag is seen. -/
theorem safe_controlLoop (fuel : Nat) (ipc ubus : Bool) :
    Safe (onlyOps fun _ => True) (IfOk fun later => ⟨.shouldExit, true⟩ ∈ later)
      (Method.iterate (controlTurn ipc ubus) fuel () board) history := by
  have pass (before : History daemonCalls) (locals : Unit) (current : Settings) (_ : True) :
      Safe (onlyOps fun _ => True)
        (Method.passOwes (fun _ _ _ => True) (IfOk fun later => ⟨.shouldExit, true⟩ ∈ later))
        (controlTurn ipc ubus locals current) before := by
    refine ⟨trivial, fun exit _ => ?_⟩
    cases exit with
    | true => exact fun _ _ => List.mem_append_right _ (List.mem_singleton.mpr rfl)
    | false =>
        refine ⟨trivial, fun reload _ => ?_⟩
        refine Method.safe_bind (safe_trivial _ _) (fun _ _ _ _ => ?_)
          fun _ code _ _ => ifOk_error code
        refine ⟨trivial, fun restart _ => ?_⟩
        refine Method.safe_bind (safe_trivial _ _) (fun _ _ _ _ => ?_)
          fun _ code _ _ => ifOk_error code
        refine Method.safe_bind (safe_trivial _ _) (fun _ _ _ _ => ?_)
          fun _ code _ _ => ifOk_error code
        refine Method.safe_bind (safe_trivial _ _) (fun _ _ _ _ => ?_)
          fun _ code _ _ => ifOk_error code
        exact ⟨trivial, fun _ _ => trivial⟩
  exact Method.safe_iterate pass fuel () trivial

theorem safe_serve_ends (fuel : Nat) :
    Safe (onlyOps fun _ => True) (IfOk fun later => ⟨.shouldExit, true⟩ ∈ later)
      (serve fuel notifyScript overrides cfg board) history := by
  refine ⟨trivial, fun ipc _ => ⟨trivial, fun _ _ => ⟨trivial, fun ubus _ => ?_⟩⟩⟩
  refine Method.safe_bind (safe_trivial _ _) (fun _ _ board _ => ?_)
    fun _ code _ _ => ifOk_error code
  exact ⟨trivial, fun _ _ => safe_controlLoop fuel ipc ubus⟩

theorem safe_shutdown_ends (parent : String) (vlan : UInt16) :
    Safe (onlyOps fun _ => True) (IfOk fun later => ∃ done, ⟨.waitWorker 3000, done⟩ ∈ later)
      (shutdown notifyScript parent vlan board) history := by
  refine Method.safe_bind (safe_trivial _ _) (fun _ _ _ _ => ?_) fun _ code _ _ => ifOk_error code
  refine ⟨trivial, fun done _ => ⟨trivial, fun _ _ => ⟨trivial, fun _ _ _ _ => ⟨done, ?_⟩⟩⟩⟩
  simp

/-- A main thread that does not fail sees the exit flag, and its wait for the worker is over. -/
theorem safe_operate_ends (fuel : Nat) (configIface : String) :
    Safe (onlyOps fun _ => True)
      (IfOk fun later => ⟨.shouldExit, true⟩ ∈ later ∧ ∃ done, ⟨.waitWorker 3000, done⟩ ∈ later)
      (operate fuel configIface notifyScript overrides cfg board) history := by
  rw [operate_apply]
  refine ⟨trivial, fun reply _ => ⟨trivial, fun _ _ => ?_⟩⟩
  refine Method.safe_bind (safe_serve_ends fuel) (fun served _ board seen => ?_)
    fun _ code _ _ => ifOk_error code
  refine Method.safe_bind (safe_shutdown_ends _ _).extends (fun later _ _ shut => ?_)
    fun _ code _ _ => ifOk_error code
  exact fun _ _ => ⟨shut.1.mem (seen _ rfl), shut.2 _ rfl⟩

theorem safe_run_ends (fuel : Nat) (configIface : String) :
    Safe (onlyOps fun _ => True) EndsAfter
      (run fuel configIface notifyScript overrides board) [] := by
  have prepared : Safe (onlyOps SetUpOp)
      (fun _ result => ∀ cfg, result.1 = .ok cfg → Prepared cfg)
      (setUp configIface overrides board) [] := safe_setUp configIface
  refine Method.safe_bind prepared.onlyAdds ?_ ?_
  · intro later cfg after _
    refine ((safe_operate_ends fuel configIface).and_ends
      (succeeds_operate fuel configIface after later)).mono ?_
    rintro later ⟨result, board⟩ ⟨holds, value, equal⟩
    cases equal
    exact holds value rfl
  · rintro later error after ⟨⟨events, rfl, setsUp⟩, _⟩
    exact setsUp

end Ends

end Daemon

namespace Process

open Threads Discipline IpcHandler

/-- The worker runs an upgrade: it has published that one is running, which is before the first
frame, and not yet how it has ended, which is after `firmware_upgrade` has returned. -/
def Upgrading (launch : Launch) (process : Process) : Prop :=
  ((discipline launch.notifyScript launch.fuel).phase process .worker).IsRunning

/-- The subtype of the board frames that an operation sends. -/
def boardRequest? : (i : ThreadId) → Event (callsOf i) → Option UInt8
  | .main, ⟨.request _ subtype _, _⟩ => some subtype
  | .worker, ⟨.request _ subtype _, _⟩ => some subtype
  | _, _ => none

/-- The main thread has seen the exit flag, and has waited for the worker in vain. -/
def GaveUp (process : Process) : Prop :=
  ∃ history rest, process.thread .main = some ⟨history, rest⟩ ∧
    ⟨.shouldExit, true⟩ ∈ history ∧ ⟨.waitWorker 3000, false⟩ ∈ history

section Window

variable {launch : Launch} {process process' : Process} {i : ThreadId}
  {event : Event (callsOf i)}

/-- The set-up ends with the start of the worker. -/
theorem after_eq_setUp {phase : MainPhase} {event : Event daemonCalls}
    (same : phase.after event = .setUp) :
    phase = .setUp ∧ ∀ worker, event.op ≠ .spawnWorker worker := by
  obtain ⟨op, answer⟩ := event
  cases phase with
  | setUp =>
      cases op with
      | spawnWorker worker => cases same
      | _ => exact ⟨rfl, fun _ equal => by cases equal⟩
  | serving =>
      cases op with
      | shouldExit => cases answer <;> cases same
      | _ => cases same
  | leaving | announced | waited => cases op <;> cases same

theorem starts_ne_worker {event : Event daemonCalls}
    (noSpawn : ∀ worker, event.op ≠ .spawnWorker worker)
    (program : Program workerCalls (ResultOf .worker)) :
    starts launch.fuel .main event ≠ some ⟨.worker, program⟩ := by
  obtain ⟨op, answer⟩ := event
  intro new
  cases op with
  | spawnWorker worker => exact noSpawn worker rfl
  | _ => cases new

/-! ## The frames -/

/-- There is no worker during the set-up. -/
theorem noWorker_of_setUp (reachable : Reachable launch process)
    (setUp : (discipline launch.notifyScript launch.fuel).phase process .main = .setUp) :
    process.thread .worker = none := by
  revert setUp
  refine (discipline launch.notifyScript launch.fuel).invariant (obeyed_launched launch)
    (fun process => (discipline launch.notifyScript launch.fuel).phase process .main = .setUp →
      process.thread .worker = none) (fun _ => rfl) ?_ reachable
  intro process process' i event inv _ permitted step setUp
  cases i with
  | main =>
      rw [phase_step_self step] at setUp
      obtain ⟨before, noSpawn⟩ := after_eq_setUp setUp
      rcases step.thread_other (by decide : ThreadId.worker ≠ .main) with same | ⟨program, new, _⟩
      · exact same.trans (inv before)
      · exact absurd new (starts_ne_worker noSpawn program)
  | worker =>
      have same : (discipline launch.notifyScript launch.fuel).phase process' .main =
        (discipline launch.notifyScript launch.fuel).phase process .main :=
          phase_step_other step nofun
      obtain ⟨history, next, performs, _⟩ := step.thread_self
      cases (inv (same.symm.trans setUp)).symm.trans performs
  | client stream =>
      have same : (discipline launch.notifyScript launch.fuel).phase process' .main =
        (discipline launch.notifyScript launch.fuel).phase process .main :=
          phase_step_other step nofun
      have other : ThreadId.worker ≠ .client stream := nofun
      rcases step.thread_other other with kept | ⟨program, new, _⟩
      · exact kept.trans (inv (same.symm.trans setUp))
      · cases new

theorem not_upgrading_of_absent (absent : process.thread .worker = none) :
    ¬ Upgrading launch process := by
  rw [Upgrading, phase, absent]
  exact id

/-- While the worker runs an upgrade, the board is sent nothing but opcode 8. -/
theorem subtype_of_upgrading (reachable : Reachable launch process)
    (upgrading : Upgrading launch process)
    (step : Step (meaning launch.fuel) process i event process') {subtype : UInt8}
    (requested : boardRequest? i event = some subtype) : subtype = 8 := by
  have permitted := (obeyed_of_reaches (obeyed_launched launch) reachable).permits step
  obtain ⟨op, answer⟩ := event
  cases i with
  | main =>
      cases op with
      | request retries other payload =>
          have absent := noWorker_of_setUp reachable permitted
          exact absurd upgrading (not_upgrading_of_absent absent)
      | _ => cases requested
  | worker =>
      cases op with
      | request retries other payload =>
          cases requested
          exact permitted.mpr upgrading
      | _ => cases requested
  | client stream => cases requested

/-! ## The commands -/

/-- While the worker runs an upgrade, the commands that arrive are queued, and none is taken. -/
theorem queue_step (reachable : Reachable launch process) (upgrading : Upgrading launch process)
    (step : Step (meaning launch.fuel) process i event process') :
    process'.shared.queue = process.shared.queue ++ arriving process i event := by
  have permitted := (obeyed_of_reaches (obeyed_launched launch) reachable).permits step
  have queue := (changed_step step).queue
  have none : taken i event = [] := by
    obtain ⟨op, answer⟩ := event
    cases i with
    | main | client => rfl
    | worker =>
        cases op with
        | recvTimeout millis =>
            have free :
                (discipline launch.notifyScript launch.fuel).phase process .worker = .free :=
              permitted
            rw [Upgrading, free] at upgrading
            cases upgrading
        | _ => rfl
  rwa [none, List.nil_append] at queue

/-- As long as the worker runs an upgrade, the commands in the channel stay there. -/
theorem queue_reaches (reachable : Reachable launch process)
    {later : Process} (reaches : Reaches (meaning launch.fuel)
      (fun process _ _ => Upgrading launch process) process later) :
    Reachable launch later ∧ process.shared.queue <+: later.shared.queue := by
  induction reaches with
  | first => exact ⟨reachable, List.prefix_refl _⟩
  | step _ upgrading step ih =>
      obtain ⟨reached, kept⟩ := ih
      refine ⟨.step reached trivial step, kept.trans ?_⟩
      rw [queue_step reached upgrading step]
      exact List.prefix_append ..

/-- An operation after which the worker runs an upgrade leaves the status shut. -/
theorem shut_after {phase : JobPhase} {status : FwStatus} {event : Event workerCalls}
    (shut : phase.IsRunning → status.allowsUpgrade = false) (permitted : phase.Permits event.op)
    (running : (phase.after event).IsRunning) :
    (fwStatusAfter status .worker event).allowsUpgrade = false := by
  by_cases other : NoJobOp event.op
  · rw [after_of_noJobOp phase other] at running
    obtain ⟨op, answer⟩ := event
    cases op with
    | recvTimeout | setFwStatus => cases other
    | _ => exact shut running
  · obtain ⟨op, answer⟩ := event
    cases op with
    | setFwStatus published =>
        cases published with
        | upgrading | upgradingProgress => rfl
        | idle => cases permitted
        | done | failed =>
            cases phase with
            | running => cases running
            | free | dequeued => cases permitted
    | recvTimeout millis =>
        obtain rfl : phase = .free := permitted
        match answer with
        | .command (.firmwareUpgrade _ _) => cases running
        | .command .reload | .command .restartLine | .timeout | .disconnected => cases running
    | _ => exact absurd trivial other

/-- While the worker runs an upgrade, the status does not allow another one. -/
theorem shut_of_upgrading (reachable : Reachable launch process)
    (upgrading : Upgrading launch process) :
    process.shared.fwStatus.allowsUpgrade = false := by
  revert upgrading
  refine (discipline launch.notifyScript launch.fuel).invariant (obeyed_launched launch)
    (fun process => Upgrading launch process → process.shared.fwStatus.allowsUpgrade = false)
    (fun running => by cases running) ?_ reachable
  intro process process' i event shut _ permitted step running
  have before (other : ThreadId.worker ≠ i) : Upgrading launch process := by
    have same : (discipline launch.notifyScript launch.fuel).phase process' .worker =
      (discipline launch.notifyScript launch.fuel).phase process .worker :=
        phase_step_other step other
    rwa [Upgrading, same] at running
  cases i with
  | main => exact (sameSlot_main permitted step.effect).1.trans (shut (before nofun))
  | client stream =>
      have status := (changed_step step).fwStatus
      rw [status]
      obtain ⟨op, answer⟩ := event
      exact shut (before nofun)
  | worker =>
      have status := (changed_step step).fwStatus
      have reached : (discipline launch.notifyScript launch.fuel).phase process' .worker =
        JobPhase.after ((discipline launch.notifyScript launch.fuel).phase process .worker) event :=
          phase_step_self step
      rw [Upgrading, reached] at running
      rw [status]
      exact shut_after shut permitted running

/-! ## The exit -/

theorem starts_ne_main (program : Program daemonCalls (ResultOf .main)) :
    starts launch.fuel i event ≠ some ⟨.main, program⟩ := by
  obtain ⟨op, answer⟩ := event
  intro new
  cases i with
  | worker | client => cases new
  | main => cases op <;> cases new

/-- A wait for the worker succeeds when the worker has returned. -/
theorem returned_of_effect {shared : Shared} (millis : Nat)
    (effect : mainEffect process ⟨.waitWorker millis, true⟩ = some shared) :
    ∃ worker, process.thread .worker = some worker ∧ worker.returned = true := by
  simp only [mainEffect, Bool.true_and] at effect
  split at effect
  · cases effect
  · next waits =>
      rw [Bool.not_eq_true', Bool.not_eq_false, Option.any_eq_true] at waits
      exact waits

/-- A wait for the worker that has succeeded leaves a worker that has returned. -/
theorem returned_of_waited (reachable : Reachable launch process)
    {main : Thread daemonCalls (ResultOf .main)} (there : process.thread .main = some main)
    {millis : Nat} (waited : ⟨.waitWorker millis, true⟩ ∈ main.history) :
    ∃ worker, process.thread .worker = some worker ∧ worker.returned = true := by
  induction reachable generalizing main with
  | first =>
      cases there
      cases waited
  | @step process process' i event _ _ step ih =>
      have stays (before : ∃ worker, process.thread .worker = some worker ∧
          worker.returned = true) :
          ∃ worker, process'.thread .worker = some worker ∧ worker.returned = true := by
        obtain ⟨worker, here, returned⟩ := before
        by_cases same : ThreadId.worker = i
        · subst same
          obtain ⟨history, next, performs, _⟩ := step.thread_self
          obtain rfl := Option.some.inj (here.symm.trans performs)
          cases returned
        · rcases step.thread_other same with kept | ⟨_, _, absent, _⟩
          · exact ⟨worker, kept.trans here, returned⟩
          · cases here.symm.trans absent
      by_cases same : ThreadId.main = i
      · subst same
        obtain ⟨history, next, performs, performed⟩ := step.thread_self
        obtain rfl := Option.some.inj (performed.symm.trans there)
        rcases List.mem_append.mp waited with earlier | last
        · exact stays (ih performs earlier)
        · obtain rfl := List.mem_singleton.mp last
          exact stays (returned_of_effect millis step.effect)
      · rcases step.thread_other same with kept | ⟨program, new, _⟩
        · exact stays (ih (kept.symm.trans there) waited)
        · exact absurd new (starts_ne_main program)

theorem phase_of_setUpOps {history : History daemonCalls} {notifyScript : Option String}
    (setsUp : ∀ event ∈ history, Daemon.SetUpOp event.op) :
    (mainProtocol notifyScript).phase history = .setUp := by
  induction history using List.reverseRec with
  | nil => rfl
  | append_singleton earlier event ih =>
      rw [Protocol.phase_snoc, ih fun event member => setsUp event (List.mem_append_left _ member)]
      have last := setsUp event (List.mem_append_right _ (List.mem_singleton.mpr rfl))
      obtain ⟨op, answer⟩ := event
      cases op with
      | loadUci | ifaceExists | openSocket | request => rfl
      | _ => cases last

/-- The process exits while the worker runs an upgrade only after the main thread has given up
on the worker. -/
theorem gaveUp_of_exited (reachable : Reachable launch process)
    (upgrading : Upgrading launch process) (exited : process.exited = true) : GaveUp process := by
  have obeyed := obeyed_of_reaches (obeyed_launched launch) reachable
  have atStart : (launched launch).thread .main = some ⟨[], Daemon.run launch.fuel
      launch.configIface launch.notifyScript launch.overrides
      ⟨defaultTimeout, defaultRetries⟩⟩ := rfl
  obtain ⟨⟨history, rest⟩, there, ended⟩ := safe_of_reaches (fun _ _ => trivial) atStart
    (Daemon.safe_run_ends launch.fuel launch.configIface) reachable
  rw [Process.exited, there, Option.any_some] at exited
  cases rest with
  | perform | panic | spin => cases exited
  | pure result =>
      obtain ⟨result, board⟩ := result
      cases result with
      | error code =>
          have inSetUp :
              (discipline launch.notifyScript launch.fuel).phase process .main = .setUp :=
            (phase_of_thread there).trans (phase_of_setUpOps ended)
          have absent := noWorker_of_setUp reachable inSetUp
          exact absurd upgrading (not_upgrading_of_absent absent)
      | ok code =>
          obtain ⟨left, done, waited⟩ := ended
          cases done with
          | false => exact ⟨history, _, there, left, waited⟩
          | true =>
              obtain ⟨⟨events, last⟩, here, returned⟩ := returned_of_waited reachable there waited
              cases last with
              | perform | panic | spin => cases returned
              | pure value =>
                  have free : (discipline launch.notifyScript launch.fuel).phase process .worker =
                    .free := obeyed.ends here
                  rw [Upgrading, free] at upgrading
                  cases upgrading

/-- What the window of an upgrade is like. -/
structure Uninterrupted (launch : Launch) (process : Process) : Prop where
  /-- No thread sends a frame of another subtype. -/
  frames : ∀ (i : ThreadId) (event : Event (callsOf i)) (process' : Process) (subtype : UInt8),
    Step (meaning launch.fuel) process i event process' → boardRequest? i event = some subtype →
      subtype = 8
  /-- Commands that arrive are queued, and none is taken. -/
  queued : ∀ (i : ThreadId) (event : Event (callsOf i)) (process' : Process),
    Step (meaning launch.fuel) process i event process' →
      process'.shared.queue = process.shared.queue ++ arriving process i event
  /-- What is in the channel stays there up to the end of the window. -/
  kept : ∀ later : Process, Reaches (meaning launch.fuel)
    (fun process _ _ => Upgrading launch process) process later →
      process.shared.queue <+: later.shared.queue
  /-- A client that asks for another upgrade finds that it may not begin. -/
  refused : ∀ (stream : Nat) (status : FwStatus) (process' : Process),
    Step (meaning launch.fuel) process (.client stream) ⟨.fwStatus, status⟩ process' →
      status.allowsUpgrade = false
  /-- Unless it is aborted, the process exits only after the main thread has given up on the
  worker. -/
  exits : process.Ended → GaveUp process ∨ process.Aborted

theorem status_of_step {stream : Nat} {status : FwStatus}
    (step : Step (meaning launch.fuel) process (.client stream) ⟨.fwStatus, status⟩ process') :
    status = process.shared.fwStatus := by
  have effect := (effect_client step).2
  simp only [clientEffect] at effect
  split at effect
  · assumption
  · cases effect

/-- In every state of every run in which the worker runs an upgrade, the board is sent nothing
but opcode 8, commands wait, and the process is over only if the main thread has given up or a
thread has panicked. -/
theorem uninterrupted_of_upgrading (reachable : Reachable launch process)
    (upgrading : Upgrading launch process) : Uninterrupted launch process where
  frames _ _ _ _ step requested := subtype_of_upgrading reachable upgrading step requested
  queued _ _ _ step := queue_step reachable upgrading step
  kept _ reaches := (queue_reaches reachable reaches).2
  refused _ _ _ step := by
    rw [status_of_step step]
    exact shut_of_upgrading reachable upgrading
  exits ended := ended.imp_left (gaveUp_of_exited reachable upgrading)

end Window

/-! ## A stop in the window -/

section Submit

variable {launch : Launch} {process : Process} {stream : Nat} {path : String} {image : Bytes}
  {hdr : FwHeader}

/-- An operation of a client that leaves what is shared as it is. -/
theorem harmless_client {op : IpcOp} {answer : ipcCalls.Answer op}
    (running : process.exited = false)
    (effect : clientEffect stream process ⟨op, answer⟩ = some process.shared) :
    Harmless (meaning launch.fuel) (fun _ _ _ => True) process (.client stream) ⟨op, answer⟩ := by
  refine ⟨trivial, ?_, rfl⟩
  change (if process.exited then none else clientEffect stream process ⟨op, answer⟩) = _
  rw [running]
  exact effect

theorem effect_sendCmd {cmd : WorkerCmd} (running : process.exited = false)
    (there : process.workerStopped = false) :
    (meaning launch.fuel).effect (.client stream) process ⟨.sendCmd cmd, true⟩ =
      some { process.shared with queue := process.shared.queue ++ [cmd] } := by
  change (if process.exited then none else clientEffect stream process ⟨.sendCmd cmd, true⟩) = _
  simp [clientEffect, send, running, there]

theorem workerStopped_put_client (thread : Thread ipcCalls (ResultOf (.client stream))) :
    workerStopped (process.put (.client stream) thread) = process.workerStopped := by
  rw [workerStopped, put_of_ne (fun equal => by cases equal), workerStopped]

/-- A client that finds the slot open, with a valid image, sends it to the worker. -/
theorem exists_sent (reachable : Reachable launch process)
    (fresh : process.thread (.client stream) =
      some ⟨[], handleFirmwareIpc launch.fuel path stream ()⟩)
    (running : process.exited = false) (there : process.workerStopped = false)
    (idle : process.shared.fwStatus = .idle) (valid : validateImage image = .ok hdr) :
    ∃ sent : Process, Reachable launch sent ∧
      sent.shared = { process.shared with
        queue := process.shared.queue ++ [.firmwareUpgrade image stream] } ∧
      ∀ i, i ≠ .client stream → sent.thread i = process.thread i := by
  have runs (thread : Thread ipcCalls (ResultOf (.client stream))) :
      exited (process.put (.client stream) thread) = false :=
    (exited_put_client thread).trans running
  have check : (checkStatus ()).exec (connected .idle image []) [] =
      ⟨[⟨.fwStatus, .idle⟩], .returned (.ok (), ())⟩ := exec_checkStatus rfl
  have checked := Reaches.exec reachable fresh check fun thread event member => by
    obtain rfl := List.mem_singleton.mp member
    exact harmless_client (runs thread) (if_pos idle.symm)
  have read (history : History ipcCalls) :
      (readImage path ()).exec (connected .idle image []) history =
        ⟨[⟨.readFile path, .ok image⟩], .returned (.ok image, ())⟩ := exec_readImage valid
  have validated := Reaches.exec checked (put_self _) (read _) fun thread event member => by
    rw [put_put]
    obtain rfl := List.mem_singleton.mp member
    exact harmless_client (runs thread) rfl
  have answer (history : History ipcCalls) :
      (acknowledge image ()).exec (connected .idle image []) history = _ :=
    exec_acknowledge (parseHeader_of_validateImage valid)
  have acknowledged := Reaches.exec validated (put_self _) (answer _) fun thread event member => by
    rw [put_put, put_put]
    simp only [List.mem_cons, List.not_mem_nil, or_false] at member
    rcases member with rfl | rfl | rfl
    · exact harmless_client (runs thread) rfl
    · exact harmless_client (runs thread) rfl
    · exact harmless_client (runs thread) rfl
  rw [put_put, put_put] at acknowledged
  have sent := @Reaches.perform _ _ _ _ _ _ _ _ _ (ThreadId.client stream) acknowledged _
    (IpcOp.sendCmd (.firmwareUpgrade image stream)) true _ _ (put_self _) trivial
    (effect_sendCmd (runs _) ((workerStopped_put_client _).trans there)) rfl
  exact ⟨_, sent, rfl, fun i other => (put_of_ne other _).trans (put_of_ne other _)⟩

/-- A thread performs an operation on what is shared. -/
theorem exists_perform (reachable : Reachable launch process) (i : ThreadId)
    {history : History (callsOf i)} (op : (callsOf i).Op) (answer : (callsOf i).Answer op)
    {next : (callsOf i).Answer op → Program (callsOf i) (ResultOf i)} (shared : Shared)
    (current : process.thread i = some ⟨history, .perform op next⟩)
    (done : effect i process ⟨op, answer⟩ = some shared)
    (silent : starts launch.fuel i ⟨op, answer⟩ = none) :
    ∃ later : Process, Reachable launch later ∧ later.shared = shared ∧
      later.thread i = some ⟨history ++ [⟨op, answer⟩], next answer⟩ ∧
      ∀ j, j ≠ i → later.thread j = process.thread j :=
  ⟨_, Reaches.perform reachable current trivial done silent, rfl, put_self _,
    fun _ other => put_of_ne other _⟩

theorem exited_congr {later : Process} (same : later.thread .main = process.thread .main) :
    later.exited = process.exited := by
  rw [exited, same, exited]

theorem effect_worker_eq {event : Event workerCalls} (running : process.exited = false) :
    effect .worker process event = workerEffect process event := by
  rw [effect, running]
  rfl

/-- The worker has sent a frame of an upgrade, and its progress is reported next. -/
def MidUpload (process : Process) : Prop :=
  ∃ history retries payload answer replyTx update next,
    process.thread .worker = some ⟨history ++ [⟨.request retries 8 payload, answer⟩],
      .perform (.sendFwEvent replyTx (.progress update)) next⟩

/-- A worker that finds an upgrade in the channel announces it to the board. -/
theorem exists_announced (reachable : Reachable launch process) (running : process.exited = false)
    {worker : BoardWorker} {fuel : Nat}
    (fresh : process.thread .worker = some ⟨[], BoardWorker.run (fuel + 1) worker⟩)
    (goesOn : process.shared.shouldExit = false)
    (queue : process.shared.queue = [.firmwareUpgrade image stream]) :
    ∃ later : Process, Reachable launch later ∧ Upgrading launch later ∧ MidUpload later ∧
      later.shared.shouldExit = false ∧ ∀ i, i ≠ .worker → later.thread i = process.thread i := by
  obtain ⟨looked, toLooked, sameLooked, atRecv, restLooked⟩ :=
    exists_perform reachable .worker .shouldExit false process.shared fresh
      ((effect_worker_eq running).trans (by simp [workerEffect, seeExit, goesOn])) rfl
  have runsLooked : looked.exited = false :=
    (exited_congr (restLooked .main (by decide))).trans running
  obtain ⟨took, toTook, sameTook, atStatus, restTook⟩ :=
    exists_perform toLooked .worker (.recvTimeout 50) (.command (.firmwareUpgrade image stream))
      { process.shared with queue := [] } atRecv
      ((effect_worker_eq runsLooked).trans (by simp [workerEffect, sameLooked, queue])) rfl
  have runsTook : took.exited = false :=
    (exited_congr (restTook .main (by decide))).trans runsLooked
  obtain ⟨began, toBegan, sameBegan, atAnnounce, restBegan⟩ :=
    exists_perform toTook .worker (.setFwStatus .upgrading) ()
      { process.shared with queue := [], fwStatus := .upgrading } atStatus
      ((effect_worker_eq runsTook).trans (by simp [workerEffect, sameTook])) rfl
  have runsBegan : began.exited = false :=
    (exited_congr (restBegan .main (by decide))).trans runsTook
  obtain ⟨announced, toAnnounced, sameAnnounced, atReport, restAnnounced⟩ :=
    exists_perform toBegan .worker
      (.request retriesAnnounce 8 (announcePayload image.length.toUInt32)) (.ok []) began.shared
      atAnnounce (effect_worker_eq runsBegan) rfl
  refine ⟨announced, toAnnounced, ?_, ⟨_, _, _, _, _, _, _, atReport⟩, ?_, fun i other => ?_⟩
  · rw [Upgrading, phase_of_thread atReport]
    exact trivial
  · rw [sameAnnounced, sameBegan]
    exact goesOn
  · rw [restAnnounced i other, restBegan i other, restTook i other, restLooked i other]

end Submit

/-- A client asks for an upgrade in the first turn of the control loop. -/
def oneClient : Option Process :=
  play (meaning upgradeLaunch.fuel) upgradeRequests (List.replicate 17 .main)
    (launched upgradeLaunch)

theorem exists_oneClient : ∃ (process : Process) (history : History daemonCalls)
    (worker : BoardWorker) (next : Bool → Program daemonCalls (ResultOf .main))
    (wait : Bool → Program daemonCalls (ResultOf .main)) (parent : String) (vlan : UInt16)
    (result : ResultOf .main),
    Reachable upgradeLaunch process ∧ process.shared = {} ∧
    process.thread (.client 13) = some ⟨[], handleFirmwareIpc 2 "fw.bin" 13 ()⟩ ∧
    process.thread .worker = some ⟨[], BoardWorker.run 2 worker⟩ ∧
    process.thread .main = some ⟨history, .perform .shouldExit next⟩ ∧
    next true = .perform (.waitWorker 3000) wait ∧
    wait false = .perform (.deleteVlan parent vlan) fun _ =>
      .perform .removeSocket fun _ => .pure result := by
  have there : oneClient.isSome := by decide +kernel
  have played : oneClient = some (oneClient.get there) := (Option.some_get there).symm
  refine ⟨oneClient.get there, _, _, _, _, _, _, _, ?_, rfl, rfl, rfl, rfl, rfl, rfl⟩
  exact reaches_of_play (fun _ _ _ _ => trivial) .first played

theorem upgrading_congr {launch : Launch} {process later : Process}
    (same : later.thread .worker = process.thread .worker) :
    Upgrading launch later ↔ Upgrading launch process := by
  rw [Upgrading, Upgrading, phase, phase, same]

/-- The process exits while an image is uploaded. -/
theorem exists_exited_midUpload : ∃ process : Process, Reachable upgradeLaunch process ∧
    Upgrading upgradeLaunch process ∧ MidUpload process ∧ process.exited = true := by
  obtain ⟨process, history, worker, next, wait, parent, vlan, result, reachable, shared, client,
    fresh, main, onExit, onWait⟩ := exists_oneClient
  obtain ⟨hdr, valid⟩ := validateImage_smallest
  have running : process.exited = false := by
    rw [Process.exited, main]
    rfl
  have there : process.workerStopped = false := by
    rw [workerStopped, fresh]
    rfl
  obtain ⟨sent, toSent, sameSent, restSent⟩ :=
    exists_sent reachable client running there (by rw [shared]) valid
  obtain ⟨announced, toAnnounced, upgrading, midUpload, goesOn, restAnnounced⟩ :=
    exists_announced toSent ((exited_congr (restSent .main (by decide))).trans running)
      ((restSent .worker (by decide)).trans fresh) (by rw [sameSent, shared])
      (by rw [sameSent, shared, List.nil_append])
  have atExit := (restAnnounced .main (by decide)).trans ((restSent .main (by decide)).trans main)
  obtain ⟨left, toLeft, _, atWait, restLeft⟩ := exists_perform toAnnounced .main .shouldExit true
    { announced.shared with shouldExit := true } atExit rfl rfl
  rw [onExit] at atWait
  obtain ⟨waited, toWaited, _, atDelete, restWaited⟩ := exists_perform toLeft .main
    (.waitWorker 3000) false left.shared atWait rfl rfl
  rw [onWait] at atDelete
  obtain ⟨deleted, toDeleted, _, atRemove, restDeleted⟩ := exists_perform toWaited .main
    (.deleteVlan parent vlan) () waited.shared atDelete rfl rfl
  obtain ⟨done, toDone, _, atEnd, restDone⟩ := exists_perform toDeleted .main
    .removeSocket () deleted.shared atRemove rfl rfl
  have same : done.thread .worker = announced.thread .worker := by
    rw [restDone .worker (by decide), restDeleted .worker (by decide),
      restWaited .worker (by decide), restLeft .worker (by decide)]
  refine ⟨done, toDone, (upgrading_congr same).mpr upgrading, ?_, ?_⟩
  · rw [MidUpload, same]
    exact midUpload
  · rw [Process.exited, atEnd]
    rfl

/-- The window of an upload that the process does not wait for. -/
theorem uninterrupted_of_upgrading_midUpload : ∃ process : Process,
    process.exited = true ∧ MidUpload process ∧ Uninterrupted upgradeLaunch process := by
  obtain ⟨process, reachable, upgrading, midUpload, exited⟩ := exists_exited_midUpload
  exact ⟨process, exited, midUpload, uninterrupted_of_upgrading reachable upgrading⟩

/-- The process may exit before the upload has come to its end. -/
theorem not_running_midUpload :
    ¬ ∀ (launch : Launch) (process : Process), Reachable launch process →
      Upgrading launch process → MidUpload process → process.exited = false := by
  intro claim
  obtain ⟨process, reachable, upgrading, midUpload, exited⟩ := exists_exited_midUpload
  rw [claim upgradeLaunch process reachable upgrading midUpload] at exited
  cases exited

end Process

end RbctlDsl.Dsl
