import RbctlDsl.Dsl.LineProcess
import RbctlDsl.Dsl.TransportVlan
import RbctlDsl.Dsl.UpgradeDialogue

/-!
# The final notification

The main thread notifies that the line is down before it waits for the worker, and the worker
may still notify after that.  The last notification is `DOWN` as long as the worker has seen no
other line by then.
-/

namespace RbctlDsl.Dsl

open RbctlDsl.Lib RbctlDsl.Proto

/-- The main thread has told the notify script that the line is down. -/
def MainPhase.HasAnnounced : MainPhase → Prop
  | .announced | .waited => True
  | .setUp | .serving | .leaving => False

namespace Process

open Threads Discipline Protocol

/-! ## The last notification -/

/-- When the main thread notifies that the line is down, no other notification of the worker is
due, and after that a poll shows the line as it was before or as down. -/
def SettledDown (launch : Launch) (process : Process) :
    (i : ThreadId) → Event (callsOf i) → Prop
  | .main, ⟨.emitStatus .., _⟩ =>
    ∀ event, (lineWatch launch process).owed = some event → event = .down
  | .worker, ⟨.request _ subtype _, reply⟩ =>
    subtype = 2 → (mainPhase launch process).HasAnnounced → ∀ line, polled reply = some line →
      (lineWatch launch process).received.map (·.linkStatus) = some line.linkStatus ∨
        linkStatusToEvent line.linkStatus = .down
  | _, _ => True

/-- Once the main thread has notified that the line is down, that is the last notification, and
no other one is due. -/
def LastIsDown (launch : Launch) (process : Process) : Prop :=
  (mainPhase launch process).HasAnnounced →
    process.shared.notified.getLast? = some .down ∧
      ∀ event, (lineWatch launch process).owed = some event → event = .down

section Step

variable {launch : Launch} {process process' : Process} {shared : Shared}

theorem lastIsDown_step_client {stream : Nat} {event : Event (callsOf (.client stream))}
    (inv : LastIsDown launch process)
    (step : Step (meaning launch.fuel) process (.client stream) event process') :
    LastIsDown launch process' := by
  have samePhase : mainPhase launch process' = mainPhase launch process :=
    phase_step_other step nofun
  have sameWatch : lineWatch launch process' = lineWatch launch process :=
    phase_step_other step nofun
  rw [LastIsDown, samePhase, sameWatch, (changed_step step).notified]
  have silent : emitted (.client stream) event = [] := by
    obtain ⟨op, answer⟩ := event
    rfl
  rw [silent, List.append_nil]
  exact inv

theorem lastIsDown_step_main {script : String} (configured : launch.notifyScript = some script)
    {event : Event (callsOf .main)} (inv : LastIsDown launch process)
    (settled : SettledDown launch process .main event)
    (permitted : MainPhase.Permits launch.notifyScript (mainPhase launch process) event.op)
    (step : Step (meaning launch.fuel) process .main event process') :
    LastIsDown launch process' := by
  have reached : mainPhase launch process' = (mainPhase launch process).after event :=
    phase_step_self step
  have sameWatch : lineWatch launch process' = lineWatch launch process :=
    phase_step_other step nofun
  have notified := (changed_step step).notified
  rw [LastIsDown, reached, sameWatch, notified]
  -- an operation of an earlier phase does not lead past the announcement
  have early (phase : MainPhase) (here : mainPhase launch process = phase)
      (stays : ¬ (phase.after event).HasAnnounced) :
      ((mainPhase launch process).after event).HasAnnounced →
        (process.shared.notified ++ emitted .main event).getLast? = some .down ∧
          ∀ event, (lineWatch launch process).owed = some event → event = .down := by
    rw [here]
    exact fun announced => absurd announced stays
  obtain ⟨op, answer⟩ := event
  cases op with
  | emitStatus name told =>
      obtain ⟨leaving, rfl⟩ := permitted
      exact fun _ => ⟨List.getLast?_concat, settled⟩
  | waitWorker millis =>
      have announced : mainPhase launch process = .announced := by
        rw [permitted, configured]
        rfl
      simp only [emitted, List.append_nil]
      exact fun _ => inv (by rw [announced]; trivial)
  | deleteVlan | removeSocket =>
      have waited : mainPhase launch process = .waited := permitted
      simp only [emitted, List.append_nil]
      exact fun _ => inv (by rw [waited]; trivial)
  | shouldExit =>
      refine early .serving permitted ?_
      cases answer <;> exact id
  | sendCmd cmd => exact early .serving permitted.1 id
  | takeReload | takeRestart | acceptOne | setExit | spawnFirmwareIpc | pollUbus | sleep =>
      exact early .serving permitted id
  | loadUci | ifaceExists | openSocket | request | createVlan | bindIpc | publishConfig
  | connectUbus | emitTcLayer | spawnWorker => exact early .setUp permitted id

theorem lastIsDown_step_worker {event : Event (callsOf .worker)} (inv : LastIsDown launch process)
    (settled : SettledDown launch process .worker event)
    (permitted : (lineWatch launch process).Permits event.op)
    (step : Step (meaning launch.fuel) process .worker event process') :
    LastIsDown launch process' := by
  have samePhase : mainPhase launch process' = mainPhase launch process :=
    phase_step_other step nofun
  have reached : lineWatch launch process' = (lineWatch launch process).after event :=
    phase_step_self step
  rw [LastIsDown, samePhase, reached, (changed_step step).notified]
  intro announced
  obtain ⟨last, due⟩ := inv announced
  obtain ⟨op, answer⟩ := event
  cases op with
  | emitStatus name told =>
      obtain rfl : told = .down := due told permitted
      refine ⟨List.getLast?_concat, fun event owed => ?_⟩
      have none : ((lineWatch launch process).after ⟨.emitStatus name .down, answer⟩).owed = none :=
        LineWatch.owed_of_told rfl
      rw [none] at owed
      cases owed
  | request retries subtype payload =>
      simp only [emitted, List.append_nil]
      refine ⟨last, ?_⟩
      by_cases poll : subtype = 2
      · subst poll
        rw [LineWatch.after_poll]
        cases shown : polled answer with
        | none => exact due
        | some line => exact LineWatch.owed_receive (settled rfl announced line shown)
      · rw [LineWatch.after, if_neg poll]
        exact due
  | _ =>
      simp only [emitted, List.append_nil]
      exact ⟨last, due⟩

end Step

/-- In every run in which the worker is settled when the main thread notifies that the line is
down, and stays so, that is the last notification before the process exits. -/
theorem last_notified_down {launch : Launch} {script : String} {process : Process}
    {history : History daemonCalls} {code : Nat} {board : Settings}
    (configured : launch.notifyScript = some script)
    (reaches : Reaches (meaning launch.fuel) (SettledDown launch) (launched launch) process)
    (exited : process.thread .main = some ⟨history, .pure (.ok code, board)⟩) :
    process.shared.notified.getLast? = some .down := by
  have inv : LastIsDown launch process := by
    refine (lineDiscipline launch.notifyScript launch.fuel).invariant (lineObeyed_launched launch)
      (LastIsDown launch) (fun announced => announced.elim) ?_ reaches
    intro process process' i event inv settled permitted step
    cases i with
    | main => exact lastIsDown_step_main configured inv settled permitted step
    | worker => exact lastIsDown_step_worker inv settled permitted step
    | client stream => exact lastIsDown_step_client inv step
  have obeyed := obeyed_of_reaches (lineObeyed_launched launch) reaches
  have waited : mainPhase launch process = .waited := obeyed.ends exited code rfl
  exact (inv (by rw [waited]; trivial)).1

/-! ## A line that comes up at the shutdown -/

/-- A main thread that sees the exit flag at once and gives up on the worker, and a worker that
polls a line that is up. -/
def lateWorker : (i : ThreadId) → Oracle (callsOf i)
  | .main, _, .waitWorker _ => false
  | .main, history, op => Daemon.assigning 2000 history op
  | .worker, _, .request .. => .ok upReply
  | .worker, history, op => silentWorker history op
  | .client _, history, op => connected .idle [] [] history op

def notifyLaunch : Launch := ⟨2, "lan0.500", some "/sbin/dsl_notify.sh", {}⟩

/-- The main thread has come to its control loop. -/
def serving : Option Process :=
  play (meaning notifyLaunch.fuel) lateWorker (List.replicate 11 .main) (launched notifyLaunch)

/-- The worker has polled the line and notified that it is up. -/
def notifiedUp : Option Process :=
  serving.bind (play (meaning notifyLaunch.fuel) lateWorker (List.replicate 8 .worker))

/-- Then the main thread sees the exit flag, and comes to its end. -/
def settledExit : Option Process :=
  notifiedUp.bind (play (meaning notifyLaunch.fuel) lateWorker (List.replicate 5 .main))

/-- The main thread notifies that the line is down while a poll of the worker is under way. -/
def lateExit : Option Process :=
  play (meaning notifyLaunch.fuel) lateWorker
    (List.replicate 11 .main ++ List.replicate 4 .worker ++ List.replicate 2 .main ++
      List.replicate 4 .worker ++ List.replicate 3 .main) (launched notifyLaunch)

/-- A main thread on its own meets a settled worker, if no notification is due. -/
theorem settled_of_main {launch : Launch} {process process' : Process} {turns : Nat}
    (reaches : Reaches (meaning launch.fuel) (SettledDown launch) (launched launch) process)
    (none : (lineWatch launch process).owed = none)
    (played : play (meaning launch.fuel) lateWorker (List.replicate turns .main) process =
      some process') :
    Reaches (meaning launch.fuel) (SettledDown launch) (launched launch) process' := by
  refine reaches_of_play_keeping (fun process => (lineWatch launch process).owed = .none)
    (fun i isMain process event quiet => ?_) (fun i isMain process process' event step quiet => ?_)
    reaches none played
  · obtain rfl := List.eq_of_mem_replicate isMain
    obtain ⟨op, answer⟩ := event
    cases op with
    | emitStatus =>
        intro event owed
        rw [quiet] at owed
        cases owed
    | _ => trivial
  · obtain rfl := List.eq_of_mem_replicate isMain
    have same : lineWatch launch process' = lineWatch launch process :=
      phase_step_other step nofun
    rw [same, quiet]

/-- A worker that polls before the main thread leaves may find any line. -/
theorem settled_of_worker {launch : Launch} {process process' : Process} {turns : Nat}
    (reaches : Reaches (meaning launch.fuel) (SettledDown launch) (launched launch) process)
    (early : ¬ (mainPhase launch process).HasAnnounced)
    (played : play (meaning launch.fuel) lateWorker (List.replicate turns .worker) process =
      some process') :
    Reaches (meaning launch.fuel) (SettledDown launch) (launched launch) process' := by
  refine reaches_of_play_keeping (fun process => ¬ (mainPhase launch process).HasAnnounced)
    (fun i isWorker process event early => ?_)
    (fun i isWorker process process' event step early => ?_) reaches early played
  · obtain rfl := List.eq_of_mem_replicate isWorker
    obtain ⟨op, answer⟩ := event
    cases op with
    | request => exact fun _ announced => absurd announced early
    | _ => trivial
  · obtain rfl := List.eq_of_mem_replicate isWorker
    have same : mainPhase launch process' = mainPhase launch process :=
      phase_step_other step nofun
    rwa [same]

/-- The line comes up, is polled and notified, and the daemon leaves. -/
theorem last_notified_down_settledExit : ∃ process : Process, process.exited = true ∧
    process.shared.notified.head? = some .up ∧ process.shared.notified.getLast? = some .down := by
  have there : settledExit.isSome := by decide +kernel
  have played : settledExit = some (settledExit.get there) := (Option.some_get there).symm
  obtain ⟨polled, isPolled, left⟩ := Option.bind_eq_some_iff.mp played
  obtain ⟨served, isServed, told⟩ := Option.bind_eq_some_iff.mp isPolled
  have early : mainPhase notifyLaunch served = .serving := by
    have atLoop : serving.isSome := by decide +kernel
    rw [← Option.get_of_eq_some atLoop isServed]
    rfl
  have none : (lineWatch notifyLaunch polled).owed = none := by
    have atUp : notifiedUp.isSome := by decide +kernel
    rw [← Option.get_of_eq_some atUp isPolled]
    rfl
  have arrived := settled_of_main .first rfl isServed
  have notified := settled_of_worker arrived (early ▸ id) told
  have reaches := settled_of_main notified none left
  obtain ⟨history, code, board, exited⟩ : ∃ history code board,
      (settledExit.get there).thread .main = some ⟨history, .pure (.ok code, board)⟩ :=
    ⟨_, _, _, rfl⟩
  exact ⟨settledExit.get there, by rw [Process.exited, exited]; rfl, rfl,
    last_notified_down rfl reaches exited⟩

/-- A worker that has polled a line that is up has the last word. -/
theorem not_last_notified_down_lateExit :
    ¬ ∀ (launch : Launch) (script : String) (process : Process) (history : History daemonCalls)
      (code : Nat) (board : Settings), launch.notifyScript = some script →
        Reachable launch process →
          process.thread .main = some ⟨history, .pure (.ok code, board)⟩ →
            process.shared.notified.getLast? = some .down := by
  intro claim
  have there : lateExit.isSome := by decide +kernel
  have played : lateExit = some (lateExit.get there) := (Option.some_get there).symm
  have reachable : Reachable notifyLaunch (lateExit.get there) :=
    reaches_of_play (fun _ _ _ _ => trivial) .first played
  obtain ⟨history, code, board, exited⟩ : ∃ history code board,
      (lateExit.get there).thread .main = some ⟨history, .pure (.ok code, board)⟩ :=
    ⟨_, _, _, rfl⟩
  have last := claim notifyLaunch _ _ history code board rfl reachable exited
  have notified : (lateExit.get there).shared.notified = [.down, .up] := rfl
  rw [notified] at last
  cases last

end Process

end RbctlDsl.Dsl
