import RbctlDsl.Dsl.Process
import RbctlDsl.Dsl.TransportVlan
import RbctlDsl.Dsl.UpgradeSlot

/-!
# Upgrade exclusivity

How many accepted upgrades can be under way.  The threads of the process take the steps of the
upgrade slot; a client that finds the status open is the only one that waits only if no other
client has passed its check before the worker began.
-/

namespace RbctlDsl.Dsl

open RbctlDsl.Lib RbctlDsl.Proto

namespace Process

open Threads Discipline

def upgradeOf : WorkerCmd → Option Nat
  | .firmwareUpgrade _ replyTx => some replyTx
  | _ => none

/-- The upgrade slot of a process. -/
def slotOf (launch : Launch) (process : Process) : UpgradeSlot where
  isOpen := process.shared.fwStatus.allowsUpgrade
  queued := process.shared.queue.filterMap upgradeOf
  job := (discipline launch.notifyScript launch.fuel).phase process .worker
  client stream := (discipline launch.notifyScript launch.fuel).phase process (.client stream)

/-- A client finds the upgrade status open only while no other client is between its own such
finding and the start of its upgrade. -/
def IsolatedCheck (launch : Launch) (process : Process) :
    (i : ThreadId) → Event (callsOf i) → Prop
  | .client stream, ⟨.fwStatus, status⟩ => FwStatus.allowsUpgrade status = true →
      ∀ other, other ≠ stream → ¬ (slotOf launch process).Waiting other
  | _, _ => True

section Step

variable {launch : Launch} {process process' : Process} {shared : Shared}

/-- What of the shared state matters for the slot. -/
def SameSlot (shared shared' : Shared) : Prop :=
  shared'.fwStatus.allowsUpgrade = shared.fwStatus.allowsUpgrade ∧
    shared'.queue.filterMap upgradeOf = shared.queue.filterMap upgradeOf

/-- An operation that sets no status, takes no command, and sends no upgrade. -/
theorem Changed.sameSlot {i : ThreadId} {event : Event (callsOf i)}
    (changed : Changed process i event shared)
    (status : fwStatusAfter process.shared.fwStatus i event = process.shared.fwStatus)
    (none : taken i event = []) (noUpgrade : (arriving process i event).filterMap upgradeOf = []) :
    SameSlot process.shared shared := by
  have queue := changed.queue
  rw [none, List.nil_append] at queue
  refine ⟨congrArg FwStatus.allowsUpgrade (changed.fwStatus.trans status), ?_⟩
  rw [queue, List.filterMap_append, noUpgrade, List.append_nil]

theorem sameSlot_main {phase : MainPhase} {event : Event daemonCalls}
    (permitted : phase.Permits launch.notifyScript event.op)
    (effect : mainEffect process event = some shared) : SameSlot process.shared shared := by
  have changed := changed_mainEffect effect
  obtain ⟨op, answer⟩ := event
  cases op with
  | sendCmd cmd =>
      have noUpgrade : upgradeOf cmd = none := by
        rcases permitted.2 with equal | equal <;> rw [equal] <;> rfl
      refine changed.sameSlot rfl rfl ?_
      rw [arriving]
      split
      · rfl
      · rw [List.filterMap_cons_none noUpgrade, List.filterMap_nil]
  | _ => exact changed.sameSlot rfl rfl rfl

/-- The main thread does nothing to the slot. -/
theorem slot_step_main {event : Event (callsOf .main)}
    (step : Step (meaning launch.fuel) process .main event process')
    (permitted : ((discipline launch.notifyScript launch.fuel).protocol .main).permits
      ((discipline launch.notifyScript launch.fuel).phase process .main) event.op) :
    slotOf launch process' = slotOf launch process := by
  obtain ⟨sameStatus, sameQueue⟩ := sameSlot_main permitted step.effect
  have sameJob : (discipline launch.notifyScript launch.fuel).phase process' .worker =
      (discipline launch.notifyScript launch.fuel).phase process .worker :=
    phase_step_other step (by decide)
  have sameClient (stream : Nat) :
      (discipline launch.notifyScript launch.fuel).phase process' (.client stream) =
        (discipline launch.notifyScript launch.fuel).phase process (.client stream) :=
    phase_step_other step (by nofun)
  simp only [slotOf, sameStatus, sameQueue, sameJob, sameClient]

/-- Who is where after a step of one client. -/
theorem phases_step_client {stream : Nat} {event : Event (callsOf (.client stream))}
    (step : Step (meaning launch.fuel) process (.client stream) event process') :
    (slotOf launch process').job = (slotOf launch process).job ∧
      (slotOf launch process').client = Function.update (slotOf launch process).client stream
        (ClientPhase.after ((slotOf launch process).client stream) event) := by
  refine ⟨phase_step_other step nofun, ?_⟩
  funext other
  by_cases here : other = stream
  · subst here
    rw [Function.update_self]
    exact phase_step_self step
  · rw [Function.update_of_ne here]
    exact phase_step_other step fun equal => here (ThreadId.client.inj equal)

theorem client_slot_step {stream : Nat} {event : Event (callsOf (.client stream))}
    (step : Step (meaning launch.fuel) process (.client stream) event process')
    {phase : ClientPhase}
    (reaches : ClientPhase.after ((slotOf launch process).client stream) event = phase)
    (same : SameSlot process.shared process'.shared) :
    slotOf launch process' = (slotOf launch process).setClient stream phase := by
  obtain ⟨sameStatus, sameQueue⟩ := same
  obtain ⟨sameJob, clients⟩ := phases_step_client step
  rw [UpgradeSlot.setClient, ← reaches, ← clients, ← sameJob]
  simp only [slotOf, sameStatus, sameQueue]

/-- An operation of a client that means nothing to its protocol. -/
def Quiet : IpcOp → Prop
  | .flush | .setWriteTimeout _ | .recv => True
  | _ => False

theorem after_of_quiet (phase : ClientPhase) {event : Event ipcCalls} (quiet : Quiet event.op) :
    phase.after event = phase := by
  obtain ⟨op, answer⟩ := event
  cases op with
  | flush | setWriteTimeout | recv => cases phase <;> rfl
  | fwStatus | readFile | write | sendCmd => cases quiet

/-- A client that stays where it is, with the shared part of the slot as it was. -/
theorem slot_idle_client {stream : Nat} {event : Event (callsOf (.client stream))}
    (step : Step (meaning launch.fuel) process (.client stream) event process')
    (stays : ClientPhase.after ((slotOf launch process).client stream) event =
      (slotOf launch process).client stream)
    (same : SameSlot process.shared process'.shared) :
    (slotOf launch process).Step (slotOf launch process') := by
  rw [client_slot_step step stays same, UpgradeSlot.setClient_eq_self rfl]
  exact .idle

/-- A client that goes away before it has sent a command. -/
theorem slot_leave_client {stream : Nat} {event : Event (callsOf (.client stream))}
    (step : Step (meaning launch.fuel) process (.client stream) event process')
    (early : (slotOf launch process).client stream ≠ .sent)
    (leaves : ClientPhase.after ((slotOf launch process).client stream) event = .dropped)
    (same : SameSlot process.shared process'.shared) :
    (slotOf launch process).Step (slotOf launch process') := by
  rw [client_slot_step step leaves same]
  exact .leave stream early

theorem slot_step_check {stream : Nat} {status : FwStatus}
    (step : Step (meaning launch.fuel) process (.client stream) ⟨.fwStatus, status⟩ process')
    (fresh : (slotOf launch process).client stream = .fresh)
    (seen : process.shared.fwStatus = status)
    (isolated : IsolatedCheck launch process (.client stream) ⟨.fwStatus, status⟩)
    (same : SameSlot process.shared process'.shared) :
    (slotOf launch process).Step (slotOf launch process') := by
  cases allowed : status.allowsUpgrade with
  | true =>
      have reaches : ClientPhase.after ((slotOf launch process).client stream)
          ⟨.fwStatus, status⟩ = .checked := by
        rw [fresh]
        exact if_pos allowed
      have isOpen : (slotOf launch process).isOpen = true := by
        rw [slotOf, seen]
        exact allowed
      rw [client_slot_step step reaches same]
      exact .check stream isOpen (isolated allowed) fresh
  | false =>
      have early : (slotOf launch process).client stream ≠ .sent := by
        rw [fresh]
        decide
      refine slot_leave_client step early ?_ same
      rw [fresh]
      exact if_neg (Bool.eq_false_iff.mp allowed)

theorem slot_step_readFile {stream : Nat} {path : String} {answer : Except String Bytes}
    (step : Step (meaning launch.fuel) process (.client stream) ⟨.readFile path, answer⟩ process')
    (checked : (slotOf launch process).client stream = .checked)
    (same : SameSlot process.shared process'.shared) :
    (slotOf launch process).Step (slotOf launch process') := by
  have goesOn : ClientPhase.after .checked ⟨.readFile path, answer⟩ = .checked ∨
      ClientPhase.after .checked ⟨.readFile path, answer⟩ = .dropped := by
    cases answer with
    | error error => exact .inr rfl
    | ok image =>
        cases valid : validateImage image with
        | ok hdr => exact .inl (by simp [ClientPhase.after, valid])
        | error message => exact .inr (by simp [ClientPhase.after, valid])
  cases goesOn with
  | inl stays => exact slot_idle_client step (by rw [checked, stays]) same
  | inr leaves =>
      have early : (slotOf launch process).client stream ≠ .sent := by
        rw [checked]
        decide
      exact slot_leave_client step early (by rw [checked, leaves]) same

theorem slot_step_sendCmd {stream : Nat} {image : Bytes} {taken : Bool}
    (step : Step (meaning launch.fuel) process (.client stream)
      ⟨.sendCmd (.firmwareUpgrade image stream), taken⟩ process')
    (accepted : (slotOf launch process).client stream = .accepted)
    (effect : clientEffect stream process ⟨.sendCmd (.firmwareUpgrade image stream), taken⟩ =
      some process'.shared) :
    (slotOf launch process).Step (slotOf launch process') := by
  simp only [clientEffect] at effect
  split at effect
  · cases effect
  · next running =>
      have sent := Option.some.inj effect
      cases taken with
      | false =>
          have gone : process.workerStopped = true := by
            simpa using running
          rw [send, if_pos gone] at sent
          have early : (slotOf launch process).client stream ≠ .sent := by
            rw [accepted]
            decide
          refine slot_leave_client step early (by rw [accepted]; rfl) ?_
          rw [← sent]
          exact ⟨rfl, rfl⟩
      | true =>
          have there : ¬ process.workerStopped = true := fun gone => running gone.symm
          rw [send, if_neg there] at sent
          obtain ⟨sameJob, clients⟩ := phases_step_client step
          have queued : slotOf launch process' = (slotOf launch process).enqueue stream := by
            have hasSent : (slotOf launch process').client =
                Function.update (slotOf launch process).client stream .sent := by
              rw [clients, accepted]
              rfl
            rw [UpgradeSlot.enqueue, UpgradeSlot.setClient, ← hasSent, ← sameJob]
            simp [slotOf, ← sent, List.filterMap_append, upgradeOf]
          rw [queued]
          exact .send stream accepted

/-- A step of a client is a step of the slot. -/
theorem slot_step_client {stream : Nat} {event : Event (callsOf (.client stream))}
    (step : Step (meaning launch.fuel) process (.client stream) event process')
    (permitted : ClientPhase.Permits stream ((slotOf launch process).client stream) event.op)
    (isolated : IsolatedCheck launch process (.client stream) event) :
    (slotOf launch process).Step (slotOf launch process') := by
  have effect := (effect_client step).2
  have changed := changed_clientEffect effect
  obtain ⟨op, answer⟩ := event
  cases op with
  | fwStatus =>
      simp only [clientEffect] at effect
      split at effect
      · next equal =>
          exact slot_step_check step permitted equal.symm isolated (changed.sameSlot rfl rfl rfl)
      · cases effect
  | readFile path => exact slot_step_readFile step permitted (changed.sameSlot rfl rfl rfl)
  | write text =>
      have same : SameSlot process.shared process'.shared := changed.sameSlot rfl rfl rfl
      cases here : (slotOf launch process).client stream with
      | checked =>
          rw [client_slot_step step (by rw [here, ClientPhase.after]) same]
          exact .accept stream here
      | fresh | accepted | sent | dropped =>
          exact slot_idle_client step (by rw [here]; rfl) same
  | flush | setWriteTimeout | recv =>
      have same : SameSlot process.shared process'.shared := changed.sameSlot rfl rfl rfl
      exact slot_idle_client step (after_of_quiet _ trivial) same
  | sendCmd cmd =>
      obtain ⟨accepted, image, rfl⟩ := permitted
      exact slot_step_sendCmd step accepted effect

/-- An operation of the worker that means nothing to the slot. -/
def NoJobOp : WorkerOp → Prop
  | .recvTimeout _ | .setFwStatus _ => False
  | _ => True

theorem after_of_noJobOp (phase : JobPhase) {event : Event workerCalls}
    (other : NoJobOp event.op) : phase.after event = phase := by
  obtain ⟨op, answer⟩ := event
  cases op with
  | recvTimeout | setFwStatus => cases other
  | _ => cases phase <;> rfl

theorem sameSlot_of_noJobOp {event : Event workerCalls} (other : NoJobOp event.op)
    (effect : workerEffect process event = some shared) : SameSlot process.shared shared := by
  have changed := changed_workerEffect effect
  obtain ⟨op, answer⟩ := event
  cases op with
  | recvTimeout | setFwStatus => cases other
  | _ => exact changed.sameSlot rfl rfl rfl

/-- Who is where after a step of the worker. -/
theorem phases_step_worker {event : Event (callsOf .worker)}
    (step : Step (meaning launch.fuel) process .worker event process') :
    (slotOf launch process').job = JobPhase.after (slotOf launch process).job event ∧
      (slotOf launch process').client = (slotOf launch process).client := by
  refine ⟨phase_step_self step, ?_⟩
  funext stream
  exact phase_step_other step nofun

/-- The slot after a step of the worker, field by field. -/
theorem slot_eq_worker {event : Event (callsOf .worker)}
    (step : Step (meaning launch.fuel) process .worker event process') {slot : UpgradeSlot}
    (isOpen : process'.shared.fwStatus.allowsUpgrade = slot.isOpen)
    (queued : process'.shared.queue.filterMap upgradeOf = slot.queued)
    (job : JobPhase.after (slotOf launch process).job event = slot.job)
    (client : (slotOf launch process).client = slot.client) : slotOf launch process' = slot := by
  obtain ⟨isJob, clients⟩ := phases_step_worker step
  exact UpgradeSlot.ext isOpen queued (isJob.trans job) (clients.trans client)

/-- The worker takes a command. -/
theorem slot_step_take {millis : Nat} {cmd : WorkerCmd} {rest : List WorkerCmd}
    (step : Step (meaning launch.fuel) process .worker ⟨.recvTimeout millis, .command cmd⟩
      process') (free : (slotOf launch process).job = .free)
    (queue : process.shared.queue = cmd :: rest)
    (takes : { process.shared with queue := rest } = process'.shared) :
    (slotOf launch process).Step (slotOf launch process') := by
  cases cmd with
  | firmwareUpgrade image stream =>
      have first : (slotOf launch process).queued = stream :: rest.filterMap upgradeOf := by
        simp [slotOf, queue, upgradeOf]
      have taken : slotOf launch process' = { slotOf launch process with
          queued := rest.filterMap upgradeOf, job := .dequeued stream } := by
        refine slot_eq_worker step ?_ ?_ rfl rfl
        · rw [← takes]
          rfl
        · rw [← takes]
      rw [taken]
      exact .take stream _ first free
  | reload | restartLine =>
      have same : slotOf launch process' = slotOf launch process := by
        refine slot_eq_worker step ?_ ?_ (by rw [free]; rfl) rfl
        · rw [← takes]
          rfl
        · rw [← takes, slotOf, queue]
          rfl
      rw [same]
      exact .idle

/-- The worker publishes the status of an upgrade. -/
theorem slot_step_setFwStatus {status : FwStatus}
    (step : Step (meaning launch.fuel) process .worker ⟨.setFwStatus status, ()⟩ process')
    (permitted : JobPhase.Permits (slotOf launch process).job (.setFwStatus status))
    (publishes : { process.shared with fwStatus := status } = process'.shared) :
    (slotOf launch process).Step (slotOf launch process') := by
  have published (isOpen : Bool) (allows : status.allowsUpgrade = isOpen) (phase : JobPhase)
      (reaches : JobPhase.after (slotOf launch process).job ⟨.setFwStatus status, ()⟩ = phase) :
      slotOf launch process' =
        { slotOf launch process with isOpen := isOpen, job := phase } := by
    refine slot_eq_worker step ?_ ?_ reaches rfl
    · rw [← publishes]
      exact allows
    · rw [← publishes]
      rfl
  cases status with
  | idle => cases permitted
  | upgrading =>
      cases job : (slotOf launch process).job with
      | free | running => rw [job] at permitted; cases permitted
      | dequeued client =>
          rw [published false rfl (.running client) (by rw [job]; rfl)]
          exact .start client job
  | upgradingProgress stage pct =>
      cases job : (slotOf launch process).job with
      | free | dequeued => rw [job] at permitted; cases permitted
      | running client =>
          rw [published false rfl (.running client) (by rw [job]; rfl), ← job]
          exact .run client job
  | done | failed =>
      cases job : (slotOf launch process).job with
      | free | dequeued => rw [job] at permitted; cases permitted
      | running client =>
          rw [published true rfl .free (by rw [job]; rfl)]
          exact .finish client job

/-- A step of the worker is a step of the slot. -/
theorem slot_step_worker {event : Event (callsOf .worker)}
    (step : Step (meaning launch.fuel) process .worker event process')
    (permitted : JobPhase.Permits (slotOf launch process).job event.op) :
    (slotOf launch process).Step (slotOf launch process') := by
  have effect := (effect_worker step).2
  -- the slot stays the same
  have idle (job : JobPhase.after (slotOf launch process).job event =
      (slotOf launch process).job) (same : SameSlot process.shared process'.shared) :
      (slotOf launch process).Step (slotOf launch process') := by
    rw [slot_eq_worker step same.1 same.2 job rfl]
    exact .idle
  have quiet (other : NoJobOp event.op) : (slotOf launch process).Step (slotOf launch process') :=
    idle (after_of_noJobOp _ other) (sameSlot_of_noJobOp other effect)
  obtain ⟨op, answer⟩ := event
  cases op with
  | recvTimeout millis =>
      have free : (slotOf launch process).job = .free := permitted
      cases answer with
      | timeout | disconnected =>
          simp only [workerEffect] at effect
          split at effect
          · refine idle (by rw [free]; rfl) ?_
            rw [← Option.some.inj effect]
            exact ⟨rfl, rfl⟩
          · cases effect
      | command cmd =>
          simp only [workerEffect] at effect
          split at effect
          · next first rest queue =>
              split at effect
              · next equal =>
                  subst equal
                  exact slot_step_take step free queue (Option.some.inj effect)
              · cases effect
          · cases effect
  | setFwStatus status => exact slot_step_setFwStatus step permitted (Option.some.inj effect)
  | shouldExit | loadUci | request | sleep | now | publishConfig | publishLine | sendFwEvent
  | emitStatus | emitTcLayer => exact quiet trivial

/-- A step of a thread is a step of the slot. -/
theorem slot_step {i : ThreadId} {event : Event (callsOf i)}
    (step : Step (meaning launch.fuel) process i event process')
    (permitted : ((discipline launch.notifyScript launch.fuel).protocol i).permits
      ((discipline launch.notifyScript launch.fuel).phase process i) event.op)
    (isolated : IsolatedCheck launch process i event) :
    (slotOf launch process).Step (slotOf launch process') := by
  cases i with
  | main =>
      rw [slot_step_main step permitted]
      exact .idle
  | worker => exact slot_step_worker step permitted
  | client stream => exact slot_step_client step permitted isolated

end Step

/-! ## Runs -/

theorem inv_launched (launch : Launch) : (slotOf launch (launched launch)).Inv where
  shut _ running := by cases running
  sent _ member := by cases member
  nodup := List.nodup_nil
  one _ _ pending := by
    rcases pending with (checked | accepted | queued | dequeued) | running
    · cases checked
    · cases accepted
    · cases queued
    · cases dequeued
    · cases running

/-- In a run in which every passed check is made with no other client waiting, at most one
accepted upgrade is under way in every state. -/
theorem exclusive_of_isolatedChecks {launch : Launch} {process : Process}
    (reaches : Reaches (meaning launch.fuel) (IsolatedCheck launch) (launched launch) process) :
    (slotOf launch process).Exclusive := by
  have inv : (slotOf launch process).Inv :=
    (discipline launch.notifyScript launch.fuel).invariant (obeyed_launched launch)
      (fun process => (slotOf launch process).Inv) (inv_launched launch)
      (fun _ _ _ _ inv isolated permitted step => inv.step (slot_step step permitted isolated))
      reaches
  exact inv.exclusive

/-! ## Two clients -/

section Accept

variable {allowed : Process → (i : ThreadId) → Event (callsOf i) → Prop} {launch : Launch}
  {process : Process} {stream : Nat} {path : String} {image : Bytes} {hdr : FwHeader}

@[simp] theorem exited_put_client (thread : Thread ipcCalls (Except Unit Unit × Unit)) :
    exited (process.put (.client stream) thread) = process.exited := by
  rw [exited, put_of_ne (fun equal => by cases equal), exited]

/-- A client performs an operation that changes nothing but its own thread. -/
theorem reaches_client (reaches : Reaches (meaning launch.fuel) allowed (launched launch) process)
    {history : History ipcCalls} (op : IpcOp) (answer : ipcCalls.Answer op)
    {next : ipcCalls.Answer op → Program ipcCalls (Except Unit Unit × Unit)}
    (current : process.thread (.client stream) = some ⟨history, .perform op next⟩)
    (running : process.exited = false)
    (effect : clientEffect stream process ⟨op, answer⟩ = some process.shared)
    (isAllowed : allowed process (.client stream) ⟨op, answer⟩) :
    Reaches (meaning launch.fuel) allowed (launched launch)
      (process.put (.client stream) ⟨history ++ [Event.mk op answer], next answer⟩) := by
  refine .step reaches (i := .client stream) isAllowed (.perform current ?_ fun _ _ new => ?_)
  · change (if process.exited then none else clientEffect stream process ⟨op, answer⟩) = _
    rw [running]
    exact effect
  · cases new

/-- A client that finds the slot open, with a valid image, is accepted. -/
theorem exists_accepted
    (reaches : Reaches (meaning launch.fuel) allowed (launched launch) process)
    (fresh : process.thread (.client stream) =
      some ⟨[], handleFirmwareIpc launch.fuel path stream ()⟩)
    (running : process.exited = false) (idle : process.shared.fwStatus = .idle)
    (valid : validateImage image = .ok hdr)
    (mayCheck : allowed process (.client stream) ⟨.fwStatus, .idle⟩)
    (mayGoOn : ∀ later op (answer : ipcCalls.Answer op), op ≠ .fwStatus →
      allowed later (.client stream) ⟨op, answer⟩) :
    ∃ accepted : Process, Reaches (meaning launch.fuel) allowed (launched launch) accepted ∧
      accepted.shared = process.shared ∧
      (∀ i, i ≠ .client stream → accepted.thread i = process.thread i) ∧
      (slotOf launch accepted).client stream = .accepted := by
  obtain ⟨checked, read, written, asks, opens, answers⟩ :=
    handleFirmwareIpc_valid launch.fuel path stream valid
  rw [asks] at fresh
  have checks := reaches_client reaches .fwStatus .idle fresh running (if_pos idle.symm) mayCheck
  rw [opens] at checks
  have reads := reaches_client checks (.readFile path) (.ok image) (put_self _)
    ((exited_put_client _).trans running) rfl (mayGoOn _ _ _ nofun)
  rw [answers] at reads
  have writes := reaches_client reads (.write "OK\n") true (put_self _)
    ((exited_put_client _).trans ((exited_put_client _).trans running)) rfl
    (mayGoOn _ _ _ nofun)
  refine ⟨_, writes, rfl, fun i other => ?_, ?_⟩
  · rw [put_of_ne other, put_of_ne other, put_of_ne other]
  · have checked : ClientPhase.after .checked ⟨.readFile path, .ok image⟩ = .checked := by
      simp only [ClientPhase.after, valid]
    have last : ClientPhase.after (ClientPhase.after .checked ⟨.readFile path, .ok image⟩)
        ⟨.write "OK\n", true⟩ = .accepted := by
      rw [checked]
      rfl
    exact (phase_of_thread (put_self _)).trans last

end Accept

/-- A main thread that never sees the exit flag, and finds a client that asks for an upgrade
whenever it looks. -/
def upgradeRequests : (i : ThreadId) → Oracle (callsOf i)
  | .main, _, .shouldExit | .main, _, .takeReload | .main, _, .takeRestart => false
  | .main, history, .acceptOne => .ok (some (.firmwareUpgrade "fw.bin" history.length))
  | .main, history, op => Daemon.assigning 2000 history op
  | .worker, history, op => silentWorker history op
  | .client _, _, .fwStatus => .idle
  | .client _, _, .readFile _ => .error "no such file"
  | .client _, _, .write _ | .client _, _, .sendCmd _ => true
  | .client _, _, .recv => none
  | .client _, _, .flush | .client _, _, .setWriteTimeout _ => ()

def upgradeLaunch : Launch := ⟨2, "lan0", none, {}⟩

/-- The main thread has served two clients, and no other thread has done anything. -/
def twoClients : Option Process :=
  play (meaning upgradeLaunch.fuel) upgradeRequests (List.replicate 22 .main)
    (launched upgradeLaunch)

/-- The steps of the main thread. -/
def OnlyMain (_ : Process) (i : ThreadId) (_ : Event (callsOf i)) : Prop := i = .main

/-- Without the other threads, the slot is as it is at the start. -/
theorem slot_of_onlyMain {launch : Launch} {process : Process}
    (reaches : Reaches (meaning launch.fuel) OnlyMain (launched launch) process) :
    slotOf launch process = slotOf launch (launched launch) := by
  refine (discipline launch.notifyScript launch.fuel).invariant (obeyed_launched launch)
    (fun process => slotOf launch process = slotOf launch (launched launch)) rfl ?_ reaches
  intro process process' i event same onlyMain permitted step
  cases i with
  | main => rw [slot_step_main step permitted, same]
  | worker | client => cases onlyMain

theorem exists_twoClients : ∃ process : Process,
    Reaches (meaning upgradeLaunch.fuel) OnlyMain (launched upgradeLaunch) process ∧
    process.exited = false ∧ process.shared.fwStatus = .idle ∧
    process.thread (.client 13) = some ⟨[], handleFirmwareIpc 2 "fw.bin" 13 ()⟩ ∧
    process.thread (.client 20) = some ⟨[], handleFirmwareIpc 2 "fw.bin" 20 ()⟩ := by
  have there : twoClients.isSome := by decide +kernel
  have played : twoClients = some (twoClients.get there) := (Option.some_get there).symm
  refine ⟨twoClients.get there, reaches_of_play (fun _ member _ _ => ?_) .first played, ?_⟩
  · exact List.eq_of_mem_replicate member
  · exact ⟨rfl, rfl, rfl, rfl⟩

/-- One of two clients is accepted while the other has not begun. -/
theorem exclusive_of_isolatedChecks_first : ∃ process : Process,
    (slotOf upgradeLaunch process).client 13 = .accepted ∧
      (slotOf upgradeLaunch process).Exclusive := by
  obtain ⟨process, reaches, running, idle, first, second⟩ := exists_twoClients
  obtain ⟨hdr, valid⟩ := validateImage_smallest
  have isolated : Reaches (meaning upgradeLaunch.fuel) (IsolatedCheck upgradeLaunch)
      (launched upgradeLaunch) process :=
    reaches.mono fun _ i _ onlyMain => by
      cases i with
      | main => trivial
      | worker | client => cases onlyMain
  have alone (other : Nat) : ¬ (slotOf upgradeLaunch process).Waiting other := by
    rw [slot_of_onlyMain reaches]
    rintro (checked | accepted | queued | dequeued)
    · cases checked
    · cases accepted
    · cases queued
    · cases dequeued
  have mayGoOn (later : Process) (op : IpcOp) (answer : ipcCalls.Answer op)
      (other : op ≠ .fwStatus) :
      IsolatedCheck upgradeLaunch later (.client 13) ⟨op, answer⟩ := by
    cases op with
    | fwStatus => exact absurd rfl other
    | readFile | write | flush | sendCmd | setWriteTimeout | recv => trivial
  obtain ⟨accepted, toAccepted, _, _, isAccepted⟩ :=
    exists_accepted isolated first running idle valid (fun _ other _ => alone other) mayGoOn
  exact ⟨accepted, isAccepted, exclusive_of_isolatedChecks toAccepted⟩

/-- Both clients are accepted where the worker has not begun. -/
theorem not_exclusive_twoClients :
    ¬ ∀ (launch : Launch) (process : Process), Reachable launch process →
      (slotOf launch process).Exclusive := by
  intro claim
  obtain ⟨process, reaches, running, idle, first, second⟩ := exists_twoClients
  obtain ⟨hdr, valid⟩ := validateImage_smallest
  have reachable : Reachable upgradeLaunch process := reaches.mono fun _ _ _ _ => trivial
  obtain ⟨one, toOne, sameShared, sameOthers, isAccepted⟩ :=
    exists_accepted reachable first running idle valid trivial fun _ _ _ _ => trivial
  have stillRuns : one.exited = false := by
    rw [exited, sameOthers .main nofun]
    exact running
  obtain ⟨both, toBoth, _, sameRest, alsoAccepted⟩ :=
    exists_accepted toOne ((sameOthers _ (by decide)).trans second) stillRuns
      (sameShared ▸ idle) valid trivial fun _ _ _ _ => trivial
  have stays : (slotOf upgradeLaunch both).client 13 = .accepted := by
    rw [← isAccepted]
    simp only [slotOf, phase, sameRest (.client 13) (by decide)]
  have same : 13 = 20 :=
    (claim upgradeLaunch both toBoth).one 13 20 (.inl stays) (.inl alsoAccepted)
  cases same

end Process

end RbctlDsl.Dsl
