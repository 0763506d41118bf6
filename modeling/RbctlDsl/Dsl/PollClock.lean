import RbctlDsl.Dsl.LineCommands
import RbctlDsl.Dsl.LineWatch
import RbctlDsl.Lib.Phases
import RbctlDsl.Lib.Spacing

/-!
# The clock of the polls

When the worker polls the board, and what uptime it publishes.  Both follow from the readings of
its clock: a poll is made at the last reading before its request, and a line that is up is up
since the first reading after the reply that showed it so.
-/

namespace RbctlDsl.Dsl

open RbctlDsl.Lib RbctlDsl.Proto

/-- What the readings of the clock say about the polls. -/
structure PollClock where
  /-- The last reading. -/
  clock : Nat := 0
  /-- The clock has not gone back. -/
  steady : Bool := true
  /-- When the board has been polled. -/
  polls : List Nat := []
  /-- The first reading after the last poll. -/
  answered : Option Nat := none
  /-- Since when the line that is published as up is up. -/
  upFrom : Option Nat := none

namespace PollClock

def read (log : PollClock) (now : Nat) : PollClock :=
  { log with
    clock := now
    steady := log.steady && decide (log.clock ≤ now)
    answered := some (log.answered.getD now) }

def poll (log : PollClock) : PollClock :=
  { log with polls := log.polls ++ [log.clock], answered := none }

/-- Since when a line that is published as up is up. -/
def since (log : PollClock) : Nat := log.upFrom.getD (log.answered.getD log.clock)

def publish (log : PollClock) (line : LineObj) : PollClock :=
  { log with upFrom := if line.linkStatus = .up then some log.since else none }

def after (log : PollClock) : Event workerCalls → PollClock
  | ⟨.now, now⟩ => log.read now
  | ⟨.request _ subtype _, _⟩ => if subtype = 2 then log.poll else log
  | ⟨.publishLine line _ _ _ _, _⟩ => log.publish line
  | _ => log

/-- The time between two polls, in milliseconds. -/
def pollGap : Nat := 1000

/-- The whole seconds that a line has been up, and none if it is not. -/
def uptime (log : PollClock) (line : LineObj) : Nat :=
  if line.linkStatus = .up then (log.clock - log.since) / 1000 else 0

/-- Polls are apart, and an uptime is that of the clock. -/
def Permits (log : PollClock) : WorkerOp → Prop
  | .request _ subtype _ =>
    subtype = 2 → log.steady = true → ∀ last, log.polls.getLast? = some last →
      last + pollGap ≤ log.clock
  | .publishLine line uptime .. => uptime = log.uptime line
  | _ => True

end PollClock

def clockProtocol : Protocol workerCalls PollClock where
  initial := {}
  after := PollClock.after
  permits := PollClock.Permits

namespace BoardWorker

open Protocol PollClock

/-- The worker remembers the last poll and since when the line is up. -/
structure Timed (log : PollClock) (worker : BoardWorker) : Prop where
  interval : worker.pollInterval = pollGap
  lastPoll : worker.lastPoll = log.polls.getLast?
  upSince : worker.upSince = log.upFrom

/-- What of the worker has to do with its clock. -/
def clockView (worker : BoardWorker) : Nat × Option Nat × Option Nat :=
  (worker.pollInterval, worker.lastPoll, worker.upSince)

section Poll

variable {log : PollClock} {worker : BoardWorker}

theorem Timed.of_clockView {after : BoardWorker} (timed : Timed log worker)
    (same : clockView after = clockView worker) : Timed log after := by
  simp only [clockView, Prod.mk.injEq] at same
  obtain ⟨interval, lastPoll, upSince⟩ := same
  exact ⟨interval.trans timed.interval, lastPoll.trans timed.lastPoll, upSince.trans timed.upSince⟩

/-- An operation that has nothing to do with the clock. -/
def SparesClock : WorkerOp → Prop
  | .now | .publishLine .. => False
  | .request _ subtype _ => subtype ≠ 2
  | _ => True

theorem stays_sparesClock {op : WorkerOp} (spares : SparesClock op) :
    clockProtocol.Stays log op := by
  cases op with
  | now | publishLine => cases spares
  | request retries subtype payload =>
      exact ⟨fun isPoll => absurd isPoll spares, fun _ => if_neg spares⟩
  | _ => exact ⟨trivial, fun _ => rfl⟩

/-- A method that has nothing to do with the clock keeps the worker timed. -/
theorem follows_sparesClock {α : Type} {method : Worker α} (timed : Timed log worker)
    (keeps : Keeps SparesClock clockView method) :
    clockProtocol.Follows (fun reached result => Timed reached result.2) (method worker) log := by
  have stays : Keeps (clockProtocol.Stays log) clockView method :=
    keeps.mono fun _ => stays_sparesClock
  refine (follows_of_stays (stays worker [])).mono ?_
  rintro reached ⟨result, after⟩ ⟨rfl, same⟩
  exact timed.of_clockView same

theorem keeps_notifying {op : String → workerCalls.Op}
    (spares : ∀ script, SparesClock (op script)) :
    Keeps SparesClock clockView (notifying op) := by
  refine keeps_bind keeps_read fun worker => ?_
  cases worker.notifyScript with
  | none => exact keeps_pure ()
  | some script => exact keeps_bind (keeps_perform (spares script)) fun _ => keeps_pure ()

theorem keeps_announce (status : LinkStatus) : Keeps SparesClock clockView (announce status) := by
  refine keeps_bind keeps_read fun worker => keeps_ite ?_ (keeps_pure ())
  refine keeps_bind (keeps_notifying fun _ => trivial) fun _ => ?_
  refine keeps_ite (keeps_bind (keeps_notifying fun _ => trivial) fun _ => ?_) ?_
  · exact keeps_bind (keeps_update fun _ => rfl) fun _ => keeps_update fun _ => rfl
  · exact keeps_update fun _ => rfl

/-- The uptime of the line is known: it has been up before, or the clock has been read. -/
def Anchored (log : PollClock) (line : LineObj) : Prop :=
  line.linkStatus = .up → log.upFrom.isSome = true ∨ log.answered.isSome = true

theorem since_read {line : LineObj} (anchored : Anchored log line) (up : line.linkStatus = .up)
    (now : Nat) : (log.read now).since = log.since := by
  rcases anchored up with known | answered
  · obtain ⟨since, isSome⟩ := Option.isSome_iff_exists.mp known
    simp [PollClock.since, PollClock.read, isSome]
  · obtain ⟨first, isSome⟩ := Option.isSome_iff_exists.mp answered
    simp [PollClock.since, PollClock.read, isSome]

theorem follows_trackUptime_timed (fresh : log.answered = none) (line : LineObj)
    (upSince : worker.upSince = log.upFrom) :
    clockProtocol.Follows
      (fun reached result => reached.polls = log.polls ∧ Anchored reached line ∧
        result = (.ok (), { worker with upSince := (reached.publish line).upFrom }))
      (trackUptime line.linkStatus worker) log := by
  unfold trackUptime
  rw [Method.bind_apply, Method.read_apply, Program.pure_bind, Method.resume_ok, upSince]
  by_cases up : line.linkStatus = .up
  · rw [if_pos up]
    cases since : log.upFrom with
    | none =>
        refine follows_perform trivial fun now => follows_pure ⟨rfl, fun _ => .inr rfl, ?_⟩
        have here : ((log.read now).publish line).upFrom = some now := by
          simp [PollClock.publish, PollClock.since, PollClock.read, up, since, fresh]
        exact here ▸ rfl
    | some first =>
        refine follows_pure ⟨rfl, fun _ => .inl (since ▸ rfl), ?_⟩
        have here : (log.publish line).upFrom = some first := by
          simp [PollClock.publish, PollClock.since, up, since]
        rw [here, ← since, ← upSince]
  · rw [if_neg up]
    refine follows_pure ⟨rfl, fun isUp => absurd isUp up, ?_⟩
    rw [PollClock.publish, if_neg up]

theorem follows_uptimeSecs_timed {line : LineObj} (anchored : Anchored log line)
    (upSince : worker.upSince = (log.publish line).upFrom) :
    clockProtocol.Follows
      (fun reached result => reached.polls = log.polls ∧
        worker.upSince = (reached.publish line).upFrom ∧
        result = (.ok (reached.uptime line), worker))
      (uptimeSecs worker) log := by
  unfold uptimeSecs
  rw [Method.bind_apply, Method.read_apply, Program.pure_bind, Method.resume_ok]
  by_cases up : line.linkStatus = .up
  · have known : worker.upSince = some log.since := by
      rw [upSince, PollClock.publish, if_pos up]
    rw [known]
    refine follows_perform trivial fun now => follows_pure ⟨rfl, ?_, ?_⟩
    · change _ = ((log.read now).publish line).upFrom
      rw [PollClock.publish, if_pos up, since_read anchored up]
    · change _ = (Except.ok ((log.read now).uptime line), worker)
      rw [PollClock.uptime, if_pos up, since_read anchored up]
      rfl
  · have known : worker.upSince = none := by
      rw [upSince, PollClock.publish, if_neg up]
    rw [known]
    refine follows_pure ⟨rfl, known ▸ upSince, ?_⟩
    rw [PollClock.uptime, if_neg up]

/-- A line that has been received is published with the uptime of the clock. -/
theorem follows_recordLine_timed (timed : Timed log worker) (fresh : log.answered = none)
    (line : LineObj) :
    clockProtocol.Follows (fun reached result => Timed reached result.2) (recordLine line worker)
      log := by
  unfold recordLine
  rw [Method.bind_apply]
  refine follows_bind (follows_trackUptime_timed fresh line timed.upSince) ?_
  rintro tracked _ ⟨samePolls, anchored, rfl⟩
  rw [Method.resume_ok, Method.bind_apply]
  refine follows_bind (follows_uptimeSecs_timed anchored rfl) ?_
  rintro reached _ ⟨stillPolls, upSince, rfl⟩
  rw [Method.resume_ok, Method.bind_apply, Method.read_apply, Program.pure_bind, Method.resume_ok]
  refine follows_perform rfl fun _ => ?_
  have there : Timed (reached.publish line)
      { worker with upSince := (tracked.publish line).upFrom } :=
    ⟨timed.interval,
      timed.lastPoll.trans (congrArg List.getLast? (stillPolls.trans samePolls)).symm, upSince⟩
  have told := follows_sparesClock there (keeps_announce line.linkStatus)
  exact told

theorem follows_attemptPoll_timed (timed : Timed log worker)
    (due : ∀ last, log.polls.getLast? = some last → last + pollGap ≤ log.clock) :
    clockProtocol.Follows (fun reached result => Timed reached result.2) (attemptPoll worker)
      log := by
  rw [attemptPoll_apply]
  refine follows_perform trivial fun now => follows_perform ?_ fun reply => ?_
  · intro _ steady last isLast
    have goesOn : log.clock ≤ now := of_decide_eq_true (Bool.and_eq_true_iff.mp steady).2
    exact Nat.le_trans (due last isLast) goesOn
  · have there : Timed (log.read now).poll { worker with lastPoll := some now } :=
      ⟨timed.interval, List.getLast?_concat.symm, timed.upSince⟩
    cases polled reply with
    | none => exact follows_pure there
    | some line => exact follows_recordLine_timed there rfl line

theorem follows_maybePollBoard_timed (timed : Timed log worker) :
    clockProtocol.Follows (fun reached result => Timed reached result.2) (maybePollBoard worker)
      log := by
  have waits : clockProtocol.Follows (fun reached result => Timed reached worker ∧ ∃ due,
      result = (.ok due, worker) ∧ (due = true → ∀ last, reached.polls.getLast? = some last →
        last + pollGap ≤ reached.clock)) (pollDue worker) log := by
    unfold pollDue
    rw [Method.bind_apply, Method.read_apply, Program.pure_bind, Method.resume_ok]
    cases known : worker.lastPoll with
    | none =>
        refine follows_pure ⟨timed, true, rfl, fun _ last isLast => ?_⟩
        rw [← timed.lastPoll, known] at isLast
        cases isLast
    | some earlier =>
        refine follows_perform trivial fun now =>
          follows_pure ⟨?_, _, rfl, fun due last isLast => ?_⟩
        · exact ⟨timed.interval, timed.lastPoll, timed.upSince⟩
        · have same : earlier = last :=
            Option.some.inj (known.symm.trans (timed.lastPoll.trans isLast))
          have passed : pollGap ≤ now - earlier := timed.interval ▸ of_decide_eq_true due
          change last + pollGap ≤ now
          unfold pollGap at passed ⊢
          omega
  refine follows_bind waits ?_
  rintro reached _ ⟨stillTimed, due, rfl, isDue⟩
  cases due with
  | false => exact follows_pure stillTimed
  | true => exact follows_attemptPoll_timed stillTimed (isDue rfl)

end Poll

section Run

variable {worker : BoardWorker} {history : History workerCalls}

theorem LineOp.sparesClock {op : WorkerOp} (isLine : LineOp op) : SparesClock op := by
  cases op with
  | now | publishLine => cases isLine
  | request retries subtype payload =>
      rcases isLine with rfl | rfl
      · exact (by decide : (1 : UInt8) ≠ 2)
      · exact (by decide : (3 : UInt8) ≠ 2)
  | _ => trivial

theorem FirmwareOp.sparesClock {op : WorkerOp} (upgrades : FirmwareOp op) : SparesClock op := by
  cases op with
  | now | publishLine => cases upgrades
  | request retries subtype payload =>
      obtain rfl : subtype = 8 := upgrades
      exact (by decide : (8 : UInt8) ≠ 2)
  | _ => trivial

theorem keeps_handle_clock (fuel : Nat) (cmd : WorkerCmd) :
    Keeps SparesClock clockView (handle fuel cmd) := by
  have hides : HidesLine clockView := fun _ _ _ _ => rfl
  cases cmd with
  | reload => exact (keeps_handleReload hides).mono fun _ => LineOp.sparesClock
  | restartLine => exact (keeps_handleRestart hides).mono fun _ => LineOp.sparesClock
  | firmwareUpgrade image replyTx =>
      have hidesBoard : HidesBoard clockView := fun _ _ => rfl
      exact (keeps_handleFirmwareUpgrade hidesBoard fuel image replyTx).mono fun _ =>
        FirmwareOp.sparesClock

/-- One turn of the worker keeps it timed. -/
theorem safe_turn_clock (fuel : Nat) (locals : Unit)
    (start : Timed (clockProtocol.phase history) worker) :
    Safe clockProtocol.contract
      (Method.passOwes (fun later _ after => Timed (clockProtocol.phase later) after)
        fun later result => Timed (clockProtocol.phase later) result.2)
      (turn fuel locals worker) history := by
  apply safe_turn
  · intro earlier op reads here
    have unchanged (answer : workerCalls.Answer op) :
        clockProtocol.phase (earlier ++ [⟨op, answer⟩]) = clockProtocol.phase earlier := by
      rw [clockProtocol.phase_snoc]
      rcases reads with rfl | rfl <;> rfl
    constructor
    · rcases reads with rfl | rfl <;> trivial
    · intro answer
      rw [unchanged]
      exact here
  · exact fun cmd _ _ read => follows_sparesClock read (keeps_handle_clock fuel cmd) _ rfl
  · exact fun later current here => follows_maybePollBoard_timed here later rfl
  · exact start

/-- A new worker. -/
structure IsNew (worker : BoardWorker) : Prop where
  interval : worker.pollInterval = pollGap
  unpolled : worker.lastPoll = none
  unseen : worker.upSince = none

theorem isNew_new (board : Settings) (cfg : DslConfig) (overrides : CliOverrides)
    (notifyScript : Option String) : IsNew (.new board cfg overrides notifyScript) :=
  ⟨rfl, rfl, rfl⟩

/-- The worker thread keeps to its clock. -/
theorem follows_run_clock (isNew : IsNew worker) (fuel : Nat) :
    clockProtocol.Follows (fun _ _ => True) (run fuel worker) clockProtocol.initial := by
  intro history here
  have start : Timed (clockProtocol.phase history) worker := by
    rw [here]
    exact ⟨isNew.interval, isNew.unpolled, isNew.unseen⟩
  refine Method.safe_bind (Method.safe_iterate
    (fun _ locals _ here => safe_turn_clock fuel locals here) fuel () start) ?_ ?_
  · intro later _ after _
    rw [Method.bind_apply, Method.update_apply, Program.pure_bind, Method.resume_ok,
      lineConfigDown, callBoard_exchange_bind]
    exact ⟨fun isPoll => absurd isPoll (by decide), fun _ _ => trivial⟩
  · exact fun _ _ _ _ => trivial

end Run

end BoardWorker

end RbctlDsl.Dsl
