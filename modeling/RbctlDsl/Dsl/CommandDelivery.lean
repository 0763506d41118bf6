import RbctlDsl.Dsl.UpgradeExclusivity
import RbctlDsl.Lib.Channel

/-!
# Command delivery

What becomes of a request to reload, to restart the line or to upgrade.  The control loop turns
each signal that it sees and each request of a client into one command, the threads of the
upgrade clients send theirs on their own, and the worker takes all of them from one channel.
-/

namespace RbctlDsl.Dsl

open RbctlDsl.Lib RbctlDsl.Proto

namespace Process

open Threads Protocol Daemon

/-- The thread that a command comes from. -/
def senderOf : WorkerCmd → ThreadId
  | .reload | .restartLine => .main
  | .firmwareUpgrade _ replyTx => .client replyTx

/-- The command channel.  A client learns whether its command got in, the main thread does not. -/
def commands : Channel callsOf ResultOf Shared WorkerCmd where
  contents := Shared.queue
  puts
    | .main, ⟨.sendCmd cmd, _⟩ => [cmd]
    | .client _, ⟨.sendCmd cmd, true⟩ => [cmd]
    | _, _ => []
  takes := taken
  closed := workerStopped

section Channel

variable {fuel : Nat} {process process' : Process} {i : ThreadId} {event : Event (callsOf i)}

/-- A worker that is gone stays as it is. -/
theorem workerStopped_step (step : Step (meaning fuel) process i event process')
    (stopped : process.workerStopped = true) : process'.workerStopped = true := by
  have same := step.thread_of_ended Thread.stopped (fun _ _ _ => rfl) stopped
  rw [workerStopped, same]
  exact stopped

/-- What arrives is what is put into an open channel. -/
theorem arriving_eq (step : Step (meaning fuel) process i event process') :
    arriving process i event =
      if process.workerStopped then [] else commands.puts i event := by
  obtain ⟨op, answer⟩ := event
  cases i with
  | main => cases op <;> first | rfl | exact (ite_self _).symm
  | worker => exact (ite_self _).symm
  | client stream =>
      cases op with
      | sendCmd cmd =>
          have effect := (effect_client step).2
          cases answer with
          | true => rfl
          | false =>
              cases running : process.workerStopped with
              | true => simp only [arriving, running, if_pos]
              | false => simp [clientEffect, running] at effect
      | _ => exact (ite_self _).symm

theorem lawful_commands (fuel : Nat) : commands.Lawful (meaning fuel) .worker where
  fifo process process' i event step := by
    have changed := (changed_step step).queue
    rw [arriving_eq step] at changed
    exact changed
  reads i event other := by
    cases i with
    | worker => exact absurd rfl other
    | main | client => rfl
  stays _ _ _ _ := workerStopped_step

end Channel

/-! ## The control loop -/

/-- The command that an operation of the control loop asks for. -/
def requested : Event daemonCalls → List WorkerCmd
  | ⟨.takeReload, true⟩ | ⟨.acceptOne, .ok (some .reload)⟩ => [.reload]
  | ⟨.takeRestart, true⟩ | ⟨.acceptOne, .ok (some .restartLine)⟩ => [.restartLine]
  | _ => []

/-- What is asked for is sent next, and nothing else is sent. -/
def forwardProtocol : Protocol daemonCalls (List WorkerCmd) where
  initial := []
  after _ event := requested event
  permits asked
    | .sendCmd cmd => asked = [cmd]
    | _ => asked = []

section Forwards

variable {notifyScript : Option String} {overrides : CliOverrides} {cfg : DslConfig}

/-- An operation that asks for no command and sends none. -/
def SparesCommands : DaemonOp → Prop
  | .sendCmd _ | .takeReload | .takeRestart | .acceptOne => False
  | _ => True

theorem stays_sparesCommands {op : DaemonOp} (spares : SparesCommands op) :
    forwardProtocol.Stays [] op := by
  cases op with
  | sendCmd | takeReload | takeRestart | acceptOne => cases spares
  | _ => exact ⟨rfl, fun _ => rfl⟩

/-- What is asked for is forwarded. -/
theorem leads_forward (cmd : WorkerCmd) :
    forwardProtocol.Leads (onDaemon (.sendCmd cmd)) [cmd] [] := leads_perform rfl fun _ => rfl

theorem leads_serveIpc : forwardProtocol.Leads serveIpc [] [] := by
  refine leads_perform_bind rfl fun accepted => ?_
  match accepted with
  | .ok (some .reload) | .ok (some .restartLine) => exact leads_forward _
  | .ok (some .stop) | .ok (some (.firmwareUpgrade _ _)) => exact leads_perform rfl fun _ => rfl
  | .ok (some .none) | .ok none | .error _ => exact leads_pure ()

theorem leads_reload (raised : Bool) : forwardProtocol.Leads
    (when raised (onDaemon (.sendCmd .reload))) (requested ⟨.takeReload, raised⟩) [] := by
  cases raised with
  | true => exact leads_forward _
  | false => exact leads_pure ()

theorem leads_restart (raised : Bool) : forwardProtocol.Leads
    (when raised (onDaemon (.sendCmd .restartLine))) (requested ⟨.takeRestart, raised⟩) [] := by
  cases raised with
  | true => exact leads_forward _
  | false => exact leads_pure ()

theorem leads_idleWhen {condition : Bool} {method : Daemon Unit}
    (leads : forwardProtocol.Leads method [] []) :
    forwardProtocol.Leads (when condition method) [] [] := by
  cases condition with
  | true => exact leads
  | false => exact leads_pure ()

/-- A turn of the control loop leaves nothing to be forwarded. -/
theorem leads_controlTurn (ipc ubus : Bool) (locals : Unit) :
    forwardProtocol.Leads (controlTurn ipc ubus locals) [] [] := by
  refine leads_perform_bind rfl fun exit => ?_
  cases exit with
  | true => exact leads_pure _
  | false =>
      refine leads_perform_bind rfl fun reload => ?_
      refine leads_bind (leads_reload reload) fun _ => ?_
      refine leads_perform_bind rfl fun restart => ?_
      refine leads_bind (leads_restart restart) fun _ => ?_
      refine leads_bind (leads_idleWhen leads_serveIpc) fun _ => ?_
      refine leads_bind (leads_idleWhen (leads_perform rfl fun _ => rfl)) fun _ => ?_
      exact leads_perform_bind rfl fun _ => leads_pure _

theorem leads_notifying {op : String → daemonCalls.Op}
    (spares : ∀ script, SparesCommands (op script)) :
    forwardProtocol.Leads (Daemon.notifying notifyScript op) [] [] :=
  leads_of_keeps ((keeps_notifying notifyScript spares).mono fun _ => stays_sparesCommands)

theorem leads_setUp (configIface : String) :
    forwardProtocol.Leads (setUp configIface overrides) [] [] := by
  intro board
  have stays : ∀ op, SetUpOp op → forwardProtocol.Stays [] op := by
    intro op setsUp
    refine stays_sparesCommands ?_
    cases op with
    | loadUci | ifaceExists | openSocket | request => trivial
    | _ => cases setsUp
  have safe : Safe (onlyOps (forwardProtocol.Stays []))
      (fun _ result => ∀ cfg, result.1 = .ok cfg → Prepared cfg)
      (setUp configIface overrides board) [] :=
    (safe_setUp configIface).weaken (fun _ => stays) (fun _ _ _ => trivial) fun _ _ => trivial
  exact (follows_of_stays safe).mono fun _ _ holds _ _ => holds.1

theorem leads_addLink : forwardProtocol.Leads (addLink cfg) [] [] := by
  intro board
  rw [addLink_apply]
  exact follows_perform rfl fun _ => follows_pure fun _ _ => rfl

theorem leads_serve (fuel : Nat) :
    forwardProtocol.Leads (serve fuel notifyScript overrides cfg) [] [] := by
  refine leads_perform_bind rfl fun ipc => ?_
  refine leads_perform_bind rfl fun _ => ?_
  refine leads_perform_bind rfl fun ubus => ?_
  refine leads_bind (leads_notifying fun _ => trivial) fun _ => ?_
  refine leads_bind leads_read fun board => ?_
  refine leads_perform_bind rfl fun _ => ?_
  exact leads_iterate (fun locals _ => passEnds_of_leads (leads_controlTurn ipc ubus locals))
    fuel ()

theorem leads_shutdown (parent : String) (vlan : UInt16) :
    forwardProtocol.Leads (shutdown notifyScript parent vlan) [] [] := by
  refine leads_bind (leads_notifying fun _ => trivial) fun _ => ?_
  refine leads_perform_bind rfl fun done => ?_
  refine leads_perform_bind rfl fun _ => ?_
  exact leads_perform rfl fun _ => rfl

/-- The main thread forwards what it is asked for. -/
theorem leads_daemon (fuel : Nat) (configIface : String) :
    forwardProtocol.Leads (Daemon.run fuel configIface notifyScript overrides) [] [] := by
  refine leads_bind (leads_setUp configIface) fun cfg => ?_
  refine leads_bind leads_addLink fun vlan => ?_
  refine leads_perform_bind rfl fun _ => ?_
  refine leads_bind (leads_serve fuel) fun _ => ?_
  exact leads_bind (leads_shutdown _ vlan) fun _ => leads_pure 0

end Forwards

/-! ## Every interleaving -/

abbrev ForwardPhaseOf : ThreadId → Type
  | .main => List WorkerCmd
  | .worker => JobPhase
  | .client _ => ClientPhase

def forwardProtocolOf : (i : ThreadId) → Protocol (callsOf i) (ForwardPhaseOf i)
  | .main => forwardProtocol
  | .worker => workerProtocol
  | .client stream => clientProtocol stream

theorem follows_of_new {fuel : Nat} {i j : ThreadId} {event : Event (callsOf i)}
    {program : Program (callsOf j) (ResultOf j)} (new : starts fuel i event = some ⟨j, program⟩) :
    (forwardProtocolOf j).Follows (fun _ _ => True) program (forwardProtocolOf j).initial := by
  have follows := follows_of_starts none fuel i j event program new
  cases i with
  | worker | client => cases new
  | main =>
      obtain ⟨op, answer⟩ := event
      cases op with
      | spawnWorker | spawnFirmwareIpc =>
          cases new
          exact follows.mono fun _ _ _ => trivial
      | _ => cases new

/-- The main thread forwards, and the clients keep to their protocol. -/
def forwarding (fuel : Nat) : Discipline (meaning fuel) ForwardPhaseOf where
  protocol := forwardProtocolOf
  ends _ _ _ := True
  starts _ _ _ _ _ _ new := follows_of_new new

theorem forwarding_launched (launch : Launch) :
    (forwarding launch.fuel).Obeyed (launched launch) := by
  intro i thread there
  cases i with
  | worker | client => cases there
  | main =>
      cases there
      exact (leads_daemon launch.fuel launch.configIface _ [] rfl).mono fun _ _ _ => trivial

/-- What the last operation of the control loop has asked for. -/
def unforwarded (history : History daemonCalls) : List WorkerCmd :=
  (history.getLast?.map requested).getD []

theorem phase_forwardProtocol (history : History daemonCalls) :
    forwardProtocol.phase history = unforwarded history := by
  rcases List.eq_nil_or_concat history with rfl | ⟨before, last, rfl⟩
  · rfl
  · rw [List.concat_eq_append, phase_snoc, unforwarded, List.getLast?_concat]
    rfl

theorem senderOf_requested {event : Event daemonCalls} {cmd : WorkerCmd}
    (member : cmd ∈ requested event) : senderOf cmd = .main := by
  unfold requested at member
  split at member
  · cases List.mem_singleton.mp member
    rfl
  · cases List.mem_singleton.mp member
    rfl
  · cases List.mem_singleton.mp member
    rfl
  · cases List.mem_singleton.mp member
    rfl
  · cases member

theorem senderOf_unforwarded {history : History daemonCalls} {cmd : WorkerCmd}
    (member : cmd ∈ unforwarded history) : senderOf cmd = .main := by
  rw [unforwarded] at member
  cases last : history.getLast? with
  | none =>
      rw [last] at member
      cases member
  | some event =>
      rw [last] at member
      exact senderOf_requested member

section Step

variable {fuel : Nat} {process process' : Process} {i : ThreadId} {event : Event (callsOf i)}

theorem phase_main (process : Process) :
    (forwarding fuel).phase process .main = unforwarded (process.history .main) :=
  (Discipline.phase_eq_history _).trans (phase_forwardProtocol _)

/-- A command is put in by the thread that it comes from. -/
theorem owned_of_permits (permitted : ((forwarding fuel).protocol i).permits
    ((forwarding fuel).phase process i) event.op) : Channel.Owned commands senderOf i event := by
  obtain ⟨op, answer⟩ := event
  intro message member
  cases i with
  | worker => cases member
  | main =>
      cases op with
      | sendCmd cmd =>
          cases List.mem_singleton.mp member
          have asked : (forwarding fuel).phase process .main = [message] := permitted
          rw [phase_main] at asked
          exact senderOf_unforwarded (asked ▸ List.mem_singleton_self message)
      | _ => cases member
  | client stream =>
      cases op with
      | sendCmd cmd =>
          obtain ⟨_, image, rfl⟩ := permitted
          cases answer with
          | true =>
              cases List.mem_singleton.mp member
              rfl
          | false => cases member
      | _ => cases member

/-- What has been asked for has been sent, but for what the last operation asks for. -/
def Forwarded (process : Process) : Prop :=
  (process.history .main).flatMap requested =
    commands.sent process .main ++ unforwarded (process.history .main)

theorem Forwarded.step {event : Event (callsOf .main)} (forwarded : Forwarded process)
    (permitted : forwardProtocol.permits (unforwarded (process.history .main)) event.op)
    (step : Step (meaning fuel) process .main event process') : Forwarded process' := by
  have last : unforwarded (process.history .main ++ [event]) = requested event := by
    rw [unforwarded, List.getLast?_concat]
    rfl
  rw [Forwarded, Channel.sent_step_self step, step.history_self, last, List.flatMap_append,
    List.flatMap_singleton, forwarded]
  obtain ⟨op, answer⟩ := event
  cases op with
  | sendCmd cmd =>
      have asked : unforwarded (process.history .main) = [cmd] := permitted
      rw [asked]
      rfl
  | _ =>
      have asked : unforwarded (process.history .main) = [] := permitted
      rw [asked, List.append_nil, List.append_assoc]
      rfl

/-- The commands of a client: none before it has sent its one. -/
def SendsOnce (fuel stream : Nat) (process : Process) : Prop :=
  (commands.sent process (.client stream)).length =
    if (forwarding fuel).phase process (.client stream) = ClientPhase.sent then 1 else 0

theorem after_eq_sent_iff {phase : ClientPhase} {event : Event ipcCalls}
    (other : ∀ cmd, event.op ≠ .sendCmd cmd) : phase.after event = .sent ↔ phase = .sent := by
  obtain ⟨op, answer⟩ := event
  cases op with
  | sendCmd cmd => exact absurd rfl (other cmd)
  | fwStatus =>
      cases phase with
      | fresh =>
          have reached : ClientPhase.after .fresh ⟨.fwStatus, answer⟩ =
            if FwStatus.allowsUpgrade answer then .checked else .dropped := rfl
          rw [reached]
          split <;> decide
      | checked | accepted | sent | dropped => exact Iff.rfl
  | readFile path =>
      cases phase with
      | checked =>
          cases answer with
          | error error => exact iff_of_false (by decide : ClientPhase.dropped ≠ .sent) (by decide)
          | ok image =>
              cases valid : validateImage image with
              | ok hdr => simp [ClientPhase.after, valid]
              | error message => simp [ClientPhase.after, valid]
      | fresh | accepted | sent | dropped => exact Iff.rfl
  | write text =>
      cases phase with
      | checked => exact iff_of_false (by decide : ClientPhase.accepted ≠ .sent) (by decide)
      | fresh | accepted | sent | dropped => exact Iff.rfl
  | flush | setWriteTimeout | recv => cases phase <;> exact Iff.rfl

theorem SendsOnce.step {stream : Nat} {event : Event (callsOf (.client stream))}
    (sends : SendsOnce fuel stream process)
    (permitted : ((forwarding fuel).protocol (.client stream)).permits
      ((forwarding fuel).phase process (.client stream)) event.op)
    (step : Step (meaning fuel) process (.client stream) event process') :
    SendsOnce fuel stream process' := by
  have after : (forwarding fuel).phase process' (.client stream) =
      ClientPhase.after ((forwarding fuel).phase process (.client stream)) event :=
    Discipline.phase_step_self step
  rw [SendsOnce, Channel.sent_step_self step, after, List.length_append, sends]
  obtain ⟨op, answer⟩ := event
  by_cases isSend : ∃ cmd, op = .sendCmd cmd
  · obtain ⟨cmd, rfl⟩ := isSend
    have accepted : (forwarding fuel).phase process (.client stream) = ClientPhase.accepted :=
      permitted.1
    rw [accepted]
    cases answer with
    | true => rfl
    | false => rfl
  · have other : ∀ cmd, op ≠ .sendCmd cmd := fun cmd equal => isSend ⟨cmd, equal⟩
    have nothing : commands.puts (.client stream) ⟨op, answer⟩ = [] := by
      cases op with
      | sendCmd cmd => exact absurd rfl (other cmd)
      | _ => rfl
    rw [nothing, List.length_nil, Nat.add_zero]
    exact if_congr (after_eq_sent_iff other).symm rfl rfl

/-- A client knows whether its command gets in. -/
theorem puts_eq_nil_of_stopped {stream : Nat}
    (step : Step (meaning fuel) process i event process') (stopped : process.workerStopped = true)
    (same : .client stream = i) : commands.puts i event = [] := by
  subst same
  have arrives := arriving_eq step
  obtain ⟨op, answer⟩ := event
  cases op with
  | sendCmd cmd =>
      cases answer with
      | false => rfl
      | true =>
          have effect := (effect_client step).2
          simp [clientEffect, stopped] at effect
  | _ => rfl

end Step

/-- What becomes of the commands.  `lost` came after the worker was gone. -/
structure Delivered (process : Process) : Prop where
  line : ∃ lost,
    (process.history .main).flatMap requested =
      Channel.of senderOf .main (commands.accepted .worker process) ++ lost ++
        unforwarded (process.history .main) ∧
      (process.workerStopped = false → lost = [])
  upgrade : ∀ stream,
    Channel.of senderOf (.client stream) (commands.accepted .worker process) =
        commands.sent process (.client stream) ∧
      (commands.sent process (.client stream)).length ≤ 1

/-- What every step keeps. -/
structure DeliveryInv (fuel : Nat) (process : Process) : Prop where
  forwarded : Forwarded process
  main : commands.Delivers senderOf .worker process .main
  client : ∀ stream, Channel.of senderOf (.client stream) (commands.accepted .worker process) =
    commands.sent process (.client stream)
  once : ∀ stream, SendsOnce fuel stream process

theorem DeliveryInv.delivered {fuel : Nat} {process : Process} (inv : DeliveryInv fuel process) :
    Delivered process where
  line := by
    obtain ⟨lost, split⟩ := inv.main.isPrefix
    refine ⟨lost, ?_, fun running => ?_⟩
    · rw [inv.forwarded, split]
    · rw [inv.main.complete running] at split
      exact List.append_right_eq_self.mp split
  upgrade stream := by
    refine ⟨inv.client stream, ?_⟩
    rw [inv.once stream]
    split <;> decide

theorem DeliveryInv.step {fuel : Nat} {process process' : Process} {i : ThreadId}
    {event : Event (callsOf i)} (inv : DeliveryInv fuel process)
    (permitted :
      ((forwarding fuel).protocol i).permits ((forwarding fuel).phase process i) event.op)
    (step : Step (meaning fuel) process i event process') : DeliveryInv fuel process' := by
  have owned := owned_of_permits permitted
  refine ⟨?_, inv.main.step (lawful_commands fuel) owned step, fun stream => ?_, fun stream => ?_⟩
  · by_cases same : .main = i
    · subst same
      refine inv.forwarded.step ?_ step
      have asked := permitted
      rw [phase_main] at asked
      exact asked
    · rw [Forwarded, Channel.sent_step_other step same, step.history_other same]
      exact inv.forwarded
  · exact Channel.complete_step (lawful_commands fuel) owned
      (fun stopped same => puts_eq_nil_of_stopped step stopped same) step (inv.client stream)
  · by_cases same : .client stream = i
    · subst same
      exact (inv.once stream).step permitted step
    · rw [SendsOnce, Channel.sent_step_other step same, Discipline.phase_step_other step same]
      exact inv.once stream

theorem deliveryInv_of_reachable {launch : Launch} {process : Process}
    (reachable : Reachable launch process) : DeliveryInv launch.fuel process := by
  have start : DeliveryInv launch.fuel (launched launch) :=
    ⟨rfl, ⟨List.prefix_refl _, fun _ => rfl⟩, fun _ => rfl, fun _ => rfl⟩
  exact Discipline.invariant (forwarding launch.fuel) (forwarding_launched launch)
    (DeliveryInv launch.fuel) start (fun _ _ _ _ inv _ permitted step => inv.step permitted step)
    reachable

/-- In every order of steps, the line commands that were asked for are those that the worker has
taken or will take, in their order, but for the one that is being forwarded, until the worker is
gone; and each client's upgrade is there once. -/
theorem commands_delivered {launch : Launch} {process : Process}
    (reachable : Reachable launch process) : Delivered process :=
  (deliveryInv_of_reachable reachable).delivered

/-- A signal to reload that is always up, and a worker that takes the command. -/
def reloadSignals : (i : ThreadId) → Oracle (callsOf i)
  | .main, _, .takeReload => true
  | .worker, _, .recvTimeout _ => .command .reload
  | i, history, op => upgradeRequests i history op

/-- The worker has taken the command of the first signal. -/
theorem commands_delivered_reload : ∃ process : Process,
    commands.received .worker process = [.reload] ∧ Delivered process := by
  have played : (play (meaning upgradeLaunch.fuel) reloadSignals
      (List.replicate 14 .main ++ List.replicate 2 .worker) (launched upgradeLaunch)).any
        (fun process => commands.received .worker process = [.reload]) = true := by
    decide +kernel
  obtain ⟨process, taken, received⟩ := (Option.any_eq_true _ _).mp played
  exact ⟨process, of_decide_eq_true received,
    commands_delivered (reaches_of_play (fun _ _ _ _ => trivial) .first taken)⟩

end Process

end RbctlDsl.Dsl
