import RbctlDsl.Dsl.CommandDelivery
import RbctlDsl.Dsl.LiveStatus
import RbctlDsl.Dsl.PollClock

/-!
# The pace of the polls

The clock of the polls in every run of the process: how close polls can be, and what the
published uptimes mean.
-/

namespace RbctlDsl.Dsl

open RbctlDsl.Lib RbctlDsl.Proto

/-! ## The main thread -/

namespace Daemon

/-- Whatever else the main thread does, the worker that it starts is new. -/
def StartsNew : DaemonOp → Prop
  | .spawnWorker worker => BoardWorker.IsNew worker
  | _ => True

/-- A method whose workers are new. -/
abbrev KeepsNew {α : Type} (method : Daemon α) : Prop := Keeps StartsNew (fun _ => ()) method

section Keeps

variable {notifyScript : Option String} {overrides : CliOverrides} {cfg : DslConfig}

theorem keepsNew_exchange {α : Type} (opcode : UInt8) (payload : Bytes)
    (decode : Bytes → Except BoardError α) :
    KeepsNew (callBoard (exchange opcode payload decode)) := by
  intro board history
  rw [callBoard_exchange]
  exact ⟨trivial, fun _ _ => rfl⟩

theorem keepsNew_setUp (configIface : String) : KeepsNew (setUp configIface overrides) := by
  have configured : KeepsNew (configure overrides) := by
    intro board history
    rw [configure_apply]
    refine ⟨trivial, fun opened _ => ?_⟩
    dsimp only
    cases validateConfig (loadOrDefault opened overrides) with
    | ok passed => exact rfl
    | error error => exact rfl
  have opened : KeepsNew (openBoard configIface) := by
    refine keeps_bind (keeps_perform trivial) fun present => keeps_ite ?_ (keeps_fail 1)
    refine keeps_bind (keeps_perform trivial) fun opened => ?_
    cases opened with
    | ok socket => exact keeps_update fun _ => rfl
    | error error => exact keeps_fail 1
  refine keeps_bind configured fun cfg => keeps_bind opened fun _ => ?_
  exact keeps_bind (keepsNew_exchange _ _ _) fun _ => keeps_pure cfg

theorem keepsNew_addLink : KeepsNew (addLink cfg) := by
  intro board history
  rw [addLink_apply]
  exact ⟨trivial, fun _ _ => rfl⟩

theorem keepsNew_when {condition : Bool} {method : Daemon Unit} (keeps : KeepsNew method) :
    KeepsNew (when condition method) := keeps_ite keeps (keeps_pure ())

theorem keepsNew_controlTurn (ipc ubus : Bool) (locals : Unit) :
    KeepsNew (controlTurn ipc ubus locals) := by
  have served : KeepsNew serveIpc := by
    refine keeps_bind (keeps_perform trivial) fun accepted => ?_
    match accepted with
    | .ok (some .reload) | .ok (some .restartLine) => exact keeps_perform trivial
    | .ok (some .stop) | .ok (some (.firmwareUpgrade _ _)) => exact keeps_perform trivial
    | .ok (some .none) | .ok none | .error _ => exact keeps_pure ()
  refine keeps_bind (keeps_perform trivial) fun exit => keeps_ite (keeps_pure _) ?_
  refine keeps_bind (keeps_perform trivial) fun reload => ?_
  refine keeps_bind (keepsNew_when (keeps_perform trivial)) fun _ => ?_
  refine keeps_bind (keeps_perform trivial) fun restart => ?_
  refine keeps_bind (keepsNew_when (keeps_perform trivial)) fun _ => ?_
  refine keeps_bind (keepsNew_when served) fun _ => ?_
  refine keeps_bind (keepsNew_when (keeps_perform trivial)) fun _ => ?_
  exact keeps_bind (keeps_perform trivial) fun _ => keeps_pure _

theorem keepsNew_serve (fuel : Nat) : KeepsNew (serve fuel notifyScript overrides cfg) := by
  refine keeps_bind (keeps_perform trivial) fun ipc => ?_
  refine keeps_bind (keeps_perform trivial) fun _ => ?_
  refine keeps_bind (keeps_perform trivial) fun ubus => ?_
  refine keeps_bind (keeps_notifying notifyScript fun _ => trivial) fun _ => ?_
  refine keeps_bind keeps_read fun board => ?_
  refine keeps_bind (keeps_perform (BoardWorker.isNew_new ..)) fun _ => ?_
  exact keeps_iterate (keepsNew_controlTurn ipc ubus) fuel ()

theorem keepsNew_shutdown (parent : String) (vlan : UInt16) :
    KeepsNew (shutdown notifyScript parent vlan) := by
  refine keeps_bind (keeps_notifying notifyScript fun _ => trivial) fun _ => ?_
  refine keeps_bind (keeps_perform trivial) fun _ => ?_
  exact keeps_bind (keeps_perform trivial) fun _ => keeps_perform trivial

/-- The worker that the daemon starts is new. -/
theorem keepsNew_run (fuel : Nat) (configIface : String) :
    KeepsNew (run fuel configIface notifyScript overrides) := by
  refine keeps_bind (keepsNew_setUp configIface) fun cfg => ?_
  refine keeps_bind keepsNew_addLink fun vlan => ?_
  refine keeps_bind (keeps_perform trivial) fun _ => ?_
  refine keeps_bind (keepsNew_serve fuel) fun _ => ?_
  exact keeps_bind (keepsNew_shutdown _ vlan) fun _ => keeps_pure 0

end Keeps

end Daemon

/-- The only thing to keep to is that the worker is new. -/
def startProtocol : Protocol daemonCalls Unit where
  initial := ()
  after _ _ := ()
  permits _ := Daemon.StartsNew

namespace Process

open Threads Discipline Protocol

abbrev PacePhaseOf : ThreadId → Type
  | .main => Unit
  | .worker => PollClock
  | .client _ => ClientPhase

def paceProtocolOf : (i : ThreadId) → Protocol (callsOf i) (PacePhaseOf i)
  | .main => startProtocol
  | .worker => clockProtocol
  | .client stream => clientProtocol stream

/-- Every thread keeps to its protocol, the worker to that of its clock. -/
def pacing (fuel : Nat) : Discipline (meaning fuel) PacePhaseOf where
  protocol := paceProtocolOf
  ends _ _ _ := True
  starts i _ event j program permitted new := by
    cases i with
    | worker | client => cases new
    | main =>
        obtain ⟨op, answer⟩ := event
        cases op with
        | spawnWorker worker =>
            cases new
            exact BoardWorker.follows_run_clock permitted fuel
        | spawnFirmwareIpc path stream =>
            cases new
            exact (leads_handleFirmwareIpc fuel path stream ()).mono fun _ _ _ => trivial
        | _ => cases new

theorem pacing_launched (launch : Launch) : (pacing launch.fuel).Obeyed (launched launch) := by
  intro i thread there
  cases i with
  | worker | client => cases there
  | main =>
      cases there
      have stays : Keeps (startProtocol.Stays ()) (fun _ => ()) (Daemon.run launch.fuel
          launch.configIface launch.notifyScript launch.overrides) :=
        (Daemon.keepsNew_run launch.fuel launch.configIface).mono fun _ new => ⟨new, fun _ => rfl⟩
      exact (follows_of_stays (stays _ []) [] rfl).mono fun _ _ _ => trivial

/-- What the worker's clock says about its polls. -/
def pollClock (process : Process) : PollClock := clockProtocol.phase (process.history .worker)

/-- What every step keeps: the polls are apart, as long as the clock has not gone back, and
whatever the worker has done was permitted. -/
structure PaceInv (process : Process) : Prop where
  spaced : (pollClock process).steady = true → Spaced PollClock.pollGap (pollClock process).polls
  permitted : Along (fun earlier event => (clockProtocol.phase earlier).Permits event.op) []
    (process.history .worker)

section Step

variable {fuel : Nat} {process process' : Process} {i : ThreadId} {event : Event (callsOf i)}

/-- A poll that is permitted is apart from the ones before it. -/
theorem spaced_after {log : PollClock} {event : Event workerCalls}
    (permitted : log.Permits event.op)
    (spaced : log.steady = true → Spaced PollClock.pollGap log.polls)
    (steady : (log.after event).steady = true) :
    Spaced PollClock.pollGap (log.after event).polls := by
  obtain ⟨op, answer⟩ := event
  cases op with
  | now => exact spaced (Bool.and_eq_true_iff.mp steady).1
  | request retries subtype payload =>
      by_cases isPoll : subtype = 2
      · subst isPoll
        exact (spaced steady).snoc (permitted rfl steady)
      · have same : log.after ⟨.request retries subtype payload, answer⟩ = log := if_neg isPoll
        rw [same] at steady ⊢
        exact spaced steady
  | _ => exact spaced steady

theorem PaceInv.step (inv : PaceInv process)
    (permitted : ((pacing fuel).protocol i).permits ((pacing fuel).phase process i) event.op)
    (step : Step (meaning fuel) process i event process') : PaceInv process' := by
  by_cases same : .worker = i
  · subst same
    have allowed : (pollClock process).Permits event.op := by
      have phase : (pacing fuel).phase process .worker = pollClock process :=
        phase_eq_history ThreadId.worker
      rw [← phase]
      exact permitted
    have after : pollClock process' = (pollClock process).after event := by
      rw [pollClock, step.history_self, phase_snoc, pollClock]
      rfl
    refine ⟨?_, ?_⟩
    · rw [after]
      exact spaced_after allowed inv.spaced
    · rw [step.history_self, along_append]
      exact ⟨inv.permitted, allowed, trivial⟩
  · have sameHistory := step.history_other same
    refine ⟨?_, ?_⟩
    · rw [pollClock, sameHistory]
      exact inv.spaced
    · rw [sameHistory]
      exact inv.permitted

theorem paceInv_of_reachable {launch : Launch} (reachable : Reachable launch process) :
    PaceInv process := by
  have start : PaceInv (launched launch) := ⟨fun _ => Spaced.nil, trivial⟩
  exact Discipline.invariant (pacing launch.fuel) (pacing_launched launch) PaceInv start
    (fun _ _ _ _ inv _ permitted step => inv.step permitted step) reachable

end Step

/-- In every order of steps, and whatever commands and answers come in between, two polls of the
board are at least a second apart, so that a window of time has room for only so many. -/
theorem polls_paced {launch : Launch} {process : Process} (reachable : Reachable launch process)
    (steady : (pollClock process).steady = true) :
    Spaced PollClock.pollGap (pollClock process).polls ∧
      ∀ start span, ((pollClock process).polls.filter
        fun time => start ≤ time ∧ time ≤ start + span).length ≤ span / PollClock.pollGap + 1 := by
  have spaced := (paceInv_of_reachable reachable).spaced steady
  exact ⟨spaced, fun start span => spaced.length_window (by decide) start span⟩

/-- A board that answers once is polled again later. -/
theorem polls_paced_silencedBoard : ∃ process : Process,
    (pollClock process).polls = [2000, 12000] ∧ Spaced 1000 (pollClock process).polls := by
  obtain ⟨process, reachable, shown⟩ := exists_polling
    (by decide +kernel : (polling 14).any (fun process =>
      (pollClock process).steady && (pollClock process).polls == [2000, 12000]) = true)
  obtain ⟨steady, polls⟩ := Bool.and_eq_true_iff.mp shown
  exact ⟨process, beq_iff_eq.mp polls, (polls_paced reachable steady).1⟩

/-- In every order of steps, a published uptime is the whole seconds from the first reading of
the clock after the reply that showed the line up, in the series of publications of a line that
is up, to the last reading before the publication, and 0 for a line that is not up. -/
theorem uptimes_published {launch : Launch} {process : Process}
    (reachable : Reachable launch process) {earlier later : History workerCalls}
    {line : LineObj} {uptime : Nat} {mode : XferMode} {modulation : Modulation} {annex : Annex}
    (published : process.history .worker =
      earlier ++ ⟨.publishLine line uptime mode modulation annex, ()⟩ :: later) :
    uptime = (clockProtocol.phase earlier).uptime line := by
  have permitted := (paceInv_of_reachable reachable).permitted
  rw [published] at permitted
  exact permitted.at

/-- The first publication of a line that is up, a second after the reply. -/
theorem uptimes_published_silencedBoard : ∃ (process : Process) (earlier : History workerCalls)
    (line : LineObj), line.linkStatus = .up ∧ earlier <+: process.history .worker ∧
      (clockProtocol.phase earlier).uptime line = 1 := by
  have there : (polling 9).isSome := by decide +kernel
  have played : polling 9 = some ((polling 9).get there) := (Option.some_get there).symm
  have reachable : Reachable notifyLaunch ((polling 9).get there) :=
    reaches_of_play (fun _ _ _ _ => trivial) .first played
  generalize worked : ((polling 9).get there).history .worker = history
  obtain ⟨line, mode, modulation, annex, later, up, published⟩ :
      ∃ line mode modulation annex later, line.linkStatus = .up ∧
        history.drop 6 = ⟨.publishLine line 1 mode modulation annex, ()⟩ :: later := by
    rw [← worked]
    exact ⟨_, _, _, _, _, rfl, rfl⟩
  have split : ((polling 9).get there).history .worker =
      history.take 6 ++ ⟨.publishLine line 1 mode modulation annex, ()⟩ :: later := by
    rw [worked, ← published, List.take_append_drop]
  exact ⟨_, history.take 6, line, up, ⟨_, split.symm⟩, (uptimes_published reachable split).symm⟩

end Process

end RbctlDsl.Dsl
