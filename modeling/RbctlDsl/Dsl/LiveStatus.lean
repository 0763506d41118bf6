import Mathlib.Data.List.ReduceOption
import RbctlDsl.Dsl.FinalDown
import RbctlDsl.Dsl.UbusObj

/-!
# Live status

What the readers of the shared state are told about the line.  The record is of the last reply
that the board has given; a poll that brings no reply leaves it as it is.
-/

namespace RbctlDsl.Dsl

open RbctlDsl.Lib RbctlDsl.Proto

/-! ## The polls -/

/-- What the polls have brought so far. -/
structure PollLog where
  /-- The line that the board has shown last. -/
  received : Option LineObj := none
  /-- The lines of the completed polls.  A poll is completed when its line is recorded, or when it
  has brought none. -/
  completed : List (Option LineObj) := []

namespace PollLog

def complete (log : PollLog) (outcome : Option LineObj) : PollLog :=
  { log with completed := log.completed ++ [outcome] }

def after (log : PollLog) : Event workerCalls → PollLog
  | ⟨.request _ subtype _, reply⟩ =>
    if subtype = 2 then
      match polled reply with
      | some line => { log with received := some line }
      | none => log.complete none
    else
      log
  | ⟨.publishLine .., _⟩ => log.complete log.received
  | _ => log

/-- The line that the last completed poll has brought. -/
def lastPoll (log : PollLog) : Option LineObj := log.completed.getLast?.join

/-- The line that the last completed poll with a line has brought. -/
def lastLine (log : PollLog) : Option LineObj := log.completed.reduceOption.getLast?

@[simp] theorem lastLine_complete_some (log : PollLog) (line : LineObj) :
    (log.complete (some line)).lastLine = some line := by
  rw [lastLine, complete, List.reduceOption_append]
  exact List.getLast?_concat

@[simp] theorem lastLine_complete_none (log : PollLog) :
    (log.complete none).lastLine = log.lastLine := by
  rw [lastLine, complete, List.reduceOption_append]
  exact congrArg List.getLast? (List.append_nil _)

end PollLog

/-- The record of the line is what the last completed poll with a line has brought, and the
uptime is zero unless that line is up. -/
structure Recorded (watch : LineWatch) (log : PollLog) (state : DslState) : Prop where
  received : log.received = watch.received
  line : state.lineObj = log.lastLine
  uptime : ∀ line, state.lineObj = some line → line.linkStatus ≠ .up → state.uptimeSecs = 0

section Recorded

variable {watch : LineWatch} {log : PollLog} {state state' : DslState}

theorem Recorded.congr (recorded : Recorded watch log state) (line : state'.lineObj = state.lineObj)
    (uptime : state'.uptimeSecs = state.uptimeSecs) : Recorded watch log state' where
  received := recorded.received
  line := line.trans recorded.line
  uptime := by
    rw [line, uptime]
    exact recorded.uptime

/-- An operation that the protocol of the line permits keeps the record. -/
theorem Recorded.step (recorded : Recorded watch log state) {event : Event workerCalls}
    (permitted : watch.Permits event.op) :
    Recorded (watch.after event) (log.after event) (state.after event) := by
  obtain ⟨op, answer⟩ := event
  cases op with
  | publishLine line uptimeSecs xferMode modulation annex =>
      obtain ⟨received, zero⟩ := permitted
      constructor
      · exact recorded.received
      · rw [PollLog.after, recorded.received, received, PollLog.lastLine_complete_some]
        rfl
      · intro other same down
        obtain rfl : line = other := Option.some.inj same
        exact zero down
  | request retries subtype payload =>
      by_cases poll : subtype = 2
      · subst poll
        rw [LineWatch.after_poll, PollLog.after, if_pos rfl]
        cases polled answer with
        | some line => exact ⟨rfl, recorded.line, recorded.uptime⟩
        | none =>
            refine ⟨recorded.received, ?_, recorded.uptime⟩
            rw [PollLog.lastLine_complete_none]
            exact recorded.line
      · rw [LineWatch.after, PollLog.after, if_neg poll, if_neg poll]
        exact recorded
  | publishConfig => exact recorded.congr rfl rfl
  | setFwStatus => exact recorded.congr rfl rfl
  | _ => exact ⟨recorded.received, recorded.line, recorded.uptime⟩

theorem recorded_initial : Recorded {} {} {} := by
  refine ⟨rfl, rfl, ?_⟩
  intro line received
  cases received

end Recorded

/-! ## The shared state of a process -/

/-- What an operation of the main thread publishes. -/
def DslState.afterMain (state : DslState) : Event daemonCalls → DslState
  | ⟨.publishConfig xferMode modulation annex, _⟩ => state.publishConfig xferMode modulation annex
  | _ => state

/-- What is published of the line does not depend on what else has been published before. -/
theorem DslState.foldl_after_congr {state state' : DslState} (line : state'.lineObj = state.lineObj)
    (uptime : state'.uptimeSecs = state.uptimeSecs) (history : History workerCalls) :
    (history.foldl DslState.after state').lineObj = (history.foldl DslState.after state).lineObj ∧
      (history.foldl DslState.after state').uptimeSecs =
        (history.foldl DslState.after state).uptimeSecs := by
  induction history generalizing state state' with
  | nil => exact ⟨line, uptime⟩
  | cons event history ih =>
      obtain ⟨op, answer⟩ := event
      cases op with
      | publishLine => exact ih rfl rfl
      | _ => exact ih line uptime

/-- The main thread publishes nothing of the line. -/
theorem DslState.foldl_afterMain (history : History daemonCalls) (state : DslState) :
    (history.foldl DslState.afterMain state).lineObj = state.lineObj ∧
      (history.foldl DslState.afterMain state).uptimeSecs = state.uptimeSecs := by
  induction history generalizing state with
  | nil => exact ⟨rfl, rfl⟩
  | cons event history ih =>
      obtain ⟨op, answer⟩ := event
      cases op with
      | _ => exact ih _

/-- The `STATUS` snapshot and the metrics report the line as up only if the last completed poll
that has brought a line has brought one that is up, and with an uptime of zero if they report it
otherwise. -/
structure Live (log : PollLog) (state : DslState) : Prop where
  snapshotUp : (buildSnapshot state).up = true → log.lastLine.map (·.linkStatus) = some .up
  snapshotDown : (buildSnapshot state).up = false → (buildSnapshot state).uptimeSecs = 0
  metricsUp : (buildMetricsReply state).lookup "up" = some (.bool true) →
    log.lastLine.map (·.linkStatus) = some .up
  metricsDown : (buildMetricsReply state).lookup "up" = some (.bool false) →
    (buildMetricsReply state).lookup "uptime" = some (.i64 0)

theorem Recorded.live {watch : LineWatch} {log : PollLog} {state : DslState}
    (recorded : Recorded watch log state) : Live log state := by
  have up (isUp : state.isUp = true) : log.lastLine.map (·.linkStatus) = some .up := by
    rw [← recorded.line]
    exact state.isUp_iff.mp isUp
  have down (notUp : state.isUp = false) : state.shownUptime = 0 := by
    rw [DslState.shownUptime]
    cases line : state.lineObj with
    | none => rfl
    | some shown =>
        refine recorded.uptime shown line fun isUp => ?_
        have reported : state.isUp = true := state.isUp_iff.mpr (by rw [line, ← isUp]; rfl)
        rw [notUp] at reported
        cases reported
  constructor
  · intro reported
    exact up (state.buildSnapshot_up.symm.trans reported)
  · intro reported
    rw [DslState.buildSnapshot_uptimeSecs]
    exact down (state.buildSnapshot_up.symm.trans reported)
  · intro reported
    rw [DslState.buildMetricsReply_up] at reported
    exact up (BlobValue.bool.inj (Option.some.inj reported))
  · intro reported
    rw [DslState.buildMetricsReply_up] at reported
    rw [DslState.buildMetricsReply_uptime, down (BlobValue.bool.inj (Option.some.inj reported))]
    rfl

namespace Process

open Threads Discipline

/-- The state that the readers of the status see.  The main thread publishes the configuration
before it starts the worker. -/
def dslState (process : Process) : DslState :=
  (process.history .worker).foldl DslState.after
    ((process.history .main).foldl DslState.afterMain {})

/-- What the polls of the worker have brought. -/
def pollLog (process : Process) : PollLog := (process.history .worker).foldl PollLog.after {}

section Live

variable {launch : Launch} {process process' : Process}

theorem recorded_step {i : ThreadId} {event : Event (callsOf i)}
    (recorded : Recorded (lineWatch launch process) (pollLog process) (dslState process))
    (permitted : ((lineDiscipline launch.notifyScript launch.fuel).protocol i).permits
      ((lineDiscipline launch.notifyScript launch.fuel).phase process i) event.op)
    (step : Step (meaning launch.fuel) process i event process') :
    Recorded (lineWatch launch process') (pollLog process') (dslState process') := by
  by_cases worker : i = .worker
  · subst worker
    have watch : lineWatch launch process' = (lineWatch launch process).after event :=
      phase_step_self step
    have others : process'.history .main = process.history .main := step.history_other nofun
    rw [watch, pollLog, dslState, step.history_self, others, List.foldl_append, List.foldl_append]
    exact recorded.step permitted
  · have watch : lineWatch launch process' = lineWatch launch process :=
      phase_step_other step (Ne.symm worker)
    have same : process'.history .worker = process.history .worker :=
      step.history_other (Ne.symm worker)
    rw [watch, pollLog, same]
    have later := DslState.foldl_afterMain (process'.history .main) {}
    have before := DslState.foldl_afterMain (process.history .main) {}
    obtain ⟨line, uptime⟩ := DslState.foldl_after_congr (later.1.trans before.1.symm)
      (later.2.trans before.2.symm) (process.history .worker)
    rw [dslState, same]
    exact recorded.congr line uptime

/-- In every state of every run, the readers of the status are told what the last completed poll
with a line has brought. -/
theorem live_of_reachable (reachable : Reachable launch process) :
    Live (pollLog process) (dslState process) := by
  have recorded : Recorded (lineWatch launch process) (pollLog process) (dslState process) :=
    (lineDiscipline launch.notifyScript launch.fuel).invariant (lineObeyed_launched launch)
      (fun process => Recorded (lineWatch launch process) (pollLog process) (dslState process))
      recorded_initial
      (fun _ _ _ _ recorded _ permitted step => recorded_step recorded permitted step) reachable
  exact recorded.live

end Live

/-! ## A board that goes silent -/

/-- A board that shows the line as up once, and does not answer after that. -/
def silencedBoard : (i : ThreadId) → Oracle (callsOf i)
  | .worker, history, .request .. => if history.length < 9 then .ok upReply else .error .timeout
  | .worker, history, .now => history.length * 1000
  | i, history, op => lateWorker i history op

/-- The worker takes some steps once it is started. -/
def polling (steps : Nat) : Option Process :=
  play (meaning notifyLaunch.fuel) silencedBoard
    (List.replicate 11 .main ++ List.replicate steps .worker) (launched notifyLaunch)

theorem exists_polling {steps : Nat} {shown : Process → Bool}
    (holds : (polling steps).any shown = true) :
    ∃ process : Process, Reachable notifyLaunch process ∧ shown process = true := by
  obtain ⟨process, played, isShown⟩ := (Option.any_eq_true _ _).mp holds
  exact ⟨process, reaches_of_play (fun _ _ _ _ => trivial) .first played, isShown⟩

/-- The status of a line that a poll has shown as up. -/
theorem live_of_reachable_polling : ∃ process : Process,
    (buildSnapshot (dslState process)).up = true ∧ Live (pollLog process) (dslState process) := by
  obtain ⟨process, reachable, up⟩ := exists_polling
    (by decide +kernel : (polling 9).any (fun process => (buildSnapshot (dslState process)).up) =
      true)
  exact ⟨process, up, live_of_reachable reachable⟩

/-- A line is reported as up although the last poll has not been answered. -/
theorem not_lastPoll_up_silencedBoard :
    ¬ ∀ (launch : Launch) (process : Process), Reachable launch process →
      (buildSnapshot (dslState process)).up = true →
        (pollLog process).lastPoll.map (·.linkStatus) = some .up := by
  intro claim
  obtain ⟨process, reachable, shown⟩ := exists_polling
    (by decide +kernel : (polling 14).any (fun process =>
      (buildSnapshot (dslState process)).up && (pollLog process).lastPoll.isNone) = true)
  rw [Bool.and_eq_true, Option.isNone_iff_eq_none] at shown
  have last := claim notifyLaunch process reachable shown.1
  rw [shown.2] at last
  cases last

end Process

end RbctlDsl.Dsl
