import Mathlib.Data.List.Induction
import RbctlDsl.Dsl.LineWatch
import RbctlDsl.Dsl.ReloadConvergence

/-!
# The TC layer

Which mode the notify script has been told last.  The worker tells it when the line has come up
and the mode has not been told since the last reconfiguration, so a mode that changes while every
poll shows the line as up is not told.
-/

namespace RbctlDsl.Dsl

open RbctlDsl.Lib RbctlDsl.Proto

def tcLayerStatus : XferMode → String
  | .atm => "ATM"
  | .ptm => "EFM"

theorem tcLayerStatus_injective {mode other : XferMode}
    (same : tcLayerStatus mode = tcLayerStatus other) : mode = other := by
  revert same
  cases mode <;> cases other <;> decide

namespace BoardWorker

/-- The mode that the notify script has been told last.  Before the worker starts, the daemon
tells the one of the first configuration. -/
def toldMode (first : DslConfig) (history : History workerCalls) : XferMode :=
  (lineProtocol.phase history).tcLayer.getD first.xferMode

/-- The mode in which the line was first published as up, since it was published otherwise. -/
def upMode (history : History workerCalls) : Option XferMode :=
  (lineProtocol.phase history).upMode

def notifies : WorkerOp → Bool
  | .emitStatus .. | .emitTcLayer .. => true
  | _ => false

/-- A poll has just shown the line as up: the last operation, apart from notifications, publishes
a line that is up. -/
def JustUp (history : History workerCalls) : Prop :=
  ∃ line uptime mode modulation annex,
    ((history.map Event.op).filter fun op => !notifies op).getLast? =
        some (.publishLine line uptime mode modulation annex) ∧ line.linkStatus = .up

/-! ## What the worker has told -/

/-- What the worker remembers, and what the notify script has been told. -/
structure TellsMode (watch : LineWatch) (worker : BoardWorker) : Prop where
  script : worker.notifyScript.isNone = false
  status : worker.lastStatus = watch.received.map (·.linkStatus)
  current : worker.tcEmitted = true → watch.tcLayer = some worker.cfg.xferMode
  up : worker.lastStatus = some .up → watch.upMode = watch.tcLayer ∧ watch.tcLayer ≠ none
  other : worker.lastStatus ≠ some .up → watch.upMode = none

section Notified

variable {watch : LineWatch} {worker : BoardWorker} {line : LineObj}

theorem notified_same (same : some line.linkStatus = worker.lastStatus) :
    worker.notified line watch = watch := if_pos (.inr same)

theorem notified_first (script : worker.notifyScript.isNone = false)
    (changed : some line.linkStatus ≠ worker.lastStatus)
    (up : line.linkStatus = .up ∧ worker.tcEmitted = false) :
    worker.notified line watch =
      { watch with told := true, tcLayer := some worker.cfg.xferMode } := by
  rw [notified, if_neg, if_pos up]
  rw [script]
  rintro (absent | same)
  · cases absent
  · exact changed same

theorem notified_again (script : worker.notifyScript.isNone = false)
    (changed : some line.linkStatus ≠ worker.lastStatus)
    (known : ¬ (line.linkStatus = .up ∧ worker.tcEmitted = false)) :
    worker.notified line watch = { watch with told := true } := by
  rw [notified, if_neg, if_neg known]
  rw [script]
  rintro (absent | same)
  · cases absent
  · exact changed same

end Notified

section Invariant

variable {watch : LineWatch} {worker : BoardWorker}

theorem TellsMode.remembers (tells : TellsMode watch worker) : Remembers watch worker := by
  intro line received
  rw [tells.status, received]
  rfl

theorem TellsMode.handles {after : BoardWorker} (tells : TellsMode watch worker)
    (handles : Handles worker after) : TellsMode watch after := by
  cases handles with
  | kept board => exact ⟨tells.script, tells.status, tells.current, tells.up, tells.other⟩
  | restarted => exact ⟨tells.script, tells.status, nofun, tells.up, tells.other⟩
  | reconfigured newCfg changed =>
      exact ⟨tells.script, tells.status, nofun, tells.up, tells.other⟩

theorem upMode_eq_none_of_not_up {left : LinkStatus} (differs : some left ≠ some .up)
    (watch : LineWatch) (mode : XferMode) :
    (if left = .up then some (watch.upMode.getD mode) else none) = none :=
  if_neg fun equal => differs (congrArg some equal)

/-- A poll that shows the line as the worker remembers it. -/
theorem TellsMode.seen_same (tells : TellsMode watch worker) {line : LineObj} (uptime : Nat)
    (lastPoll upSince : Option Nat) (same : some line.linkStatus = worker.lastStatus) :
    TellsMode
      (worker.notified line ((watch.receive line).publish line uptime worker.cfg.xferMode))
      ({ worker with lastPoll := lastPoll, upSince := upSince }.announced line.linkStatus) := by
  rw [notified_same same]
  constructor
  · exact tells.script
  · rfl
  · intro emitted
    apply tells.current
    simpa [announced, same] using emitted
  · intro up
    obtain ⟨equal, known⟩ := tells.up (same.symm.trans up)
    obtain ⟨mode, told⟩ := Option.ne_none_iff_exists'.mp known
    refine ⟨?_, known⟩
    change (if line.linkStatus = .up then some (watch.upMode.getD _) else none) = watch.tcLayer
    rw [if_pos (Option.some.inj up), equal, told, Option.getD_some]
  · exact fun differs => upMode_eq_none_of_not_up differs watch _

/-- A line that was not up has no mode in which it is up. -/
theorem TellsMode.fresh (tells : TellsMode watch worker) {line : LineObj}
    (changed : some line.linkStatus ≠ worker.lastStatus) (up : line.linkStatus = .up) :
    watch.upMode = none := by
  apply tells.other
  rw [← up]
  exact Ne.symm changed

/-- The poll at which the line comes up and the mode is told. -/
theorem TellsMode.seen_first (tells : TellsMode watch worker) {line : LineObj} (uptime : Nat)
    (lastPoll upSince : Option Nat) (changed : some line.linkStatus ≠ worker.lastStatus)
    (first : line.linkStatus = .up ∧ worker.tcEmitted = false) :
    TellsMode
      (worker.notified line ((watch.receive line).publish line uptime worker.cfg.xferMode))
      ({ worker with lastPoll := lastPoll, upSince := upSince }.announced line.linkStatus) := by
  rw [notified_first tells.script changed first]
  constructor
  · exact tells.script
  · rfl
  · exact fun _ => rfl
  · intro up
    refine ⟨?_, nofun⟩
    change (if line.linkStatus = .up then some (watch.upMode.getD _) else none) = _
    rw [if_pos first.1, tells.fresh changed first.1]
    rfl
  · exact fun differs => upMode_eq_none_of_not_up differs watch _

theorem tcEmitted_of_announced {lastPoll upSince : Option Nat} {status : LinkStatus}
    (known : ¬ (status = .up ∧ worker.tcEmitted = false))
    (emitted : ({ worker with lastPoll := lastPoll, upSince := upSince }.announced
      status).tcEmitted = true) : worker.tcEmitted = true := by
  let polled : BoardWorker := { worker with lastPoll := lastPoll, upSince := upSince }
  have settled : polled.announced status = { polled with lastStatus := some status } :=
    announced_of_not_raise known
  rw [settled] at emitted
  exact emitted

/-- A poll that shows a change, and either the line is not up or the mode has been told. -/
theorem TellsMode.seen_again (tells : TellsMode watch worker) {line : LineObj} (uptime : Nat)
    (lastPoll upSince : Option Nat) (changed : some line.linkStatus ≠ worker.lastStatus)
    (known : ¬ (line.linkStatus = .up ∧ worker.tcEmitted = false)) :
    TellsMode
      (worker.notified line ((watch.receive line).publish line uptime worker.cfg.xferMode))
      ({ worker with lastPoll := lastPoll, upSince := upSince }.announced line.linkStatus) := by
  rw [notified_again tells.script changed known]
  constructor
  · exact tells.script
  · rfl
  · exact fun emitted => tells.current (tcEmitted_of_announced known emitted)
  · intro up
    have emitted : worker.tcEmitted = true := by
      by_contra unset
      exact known ⟨Option.some.inj up, Bool.eq_false_iff.mpr unset⟩
    have told : watch.tcLayer = some worker.cfg.xferMode := tells.current emitted
    change (if line.linkStatus = .up then some (watch.upMode.getD _) else none) =
      watch.tcLayer ∧ watch.tcLayer ≠ none
    rw [if_pos (Option.some.inj up), tells.fresh changed (Option.some.inj up), told]
    exact ⟨rfl, nofun⟩
  · exact fun differs => upMode_eq_none_of_not_up differs watch _

theorem TellsMode.seen (tells : TellsMode watch worker) (line : LineObj) (uptime : Nat)
    (lastPoll upSince : Option Nat) :
    TellsMode
      (worker.notified line ((watch.receive line).publish line uptime worker.cfg.xferMode))
      ({ worker with lastPoll := lastPoll, upSince := upSince }.announced line.linkStatus) := by
  by_cases same : some line.linkStatus = worker.lastStatus
  · exact tells.seen_same uptime lastPoll upSince same
  · by_cases first : line.linkStatus = .up ∧ worker.tcEmitted = false
    · exact tells.seen_first uptime lastPoll upSince same first
    · exact tells.seen_again uptime lastPoll upSince same first

theorem lineInvariant_tellsMode : LineInvariant TellsMode where
  remembers := TellsMode.remembers
  handles := TellsMode.handles
  polls := by
    rintro watch worker reached after tells polls
    cases polls with
    | unseen lastPoll =>
        exact ⟨tells.script, tells.status, tells.current, tells.up, tells.other⟩
    | seen line uptime lastPoll upSince => exact tells.seen line uptime lastPoll upSince

theorem tellsMode_new (board : Settings) (cfg : DslConfig) (overrides : CliOverrides)
    (script : String) : TellsMode {} (.new board cfg overrides (some script)) where
  script := rfl
  status := rfl
  current := nofun
  up := nofun
  other _ := rfl

end Invariant

/-! ## The mode after a poll -/

section Poll

variable {history : History workerCalls}

/-- A poll that shows the line as up leaves a mode in which it is up. -/
theorem upMode_of_justUp (justUp : JustUp history) : upMode history ≠ none := by
  induction history using List.reverseRec with
  | nil =>
      obtain ⟨line, uptime, mode, modulation, annex, last, up⟩ := justUp
      cases last
  | append_singleton earlier event ih =>
      obtain ⟨line, uptime, mode, modulation, annex, last, up⟩ := justUp
      rw [upMode, Protocol.phase_snoc]
      rw [List.map_append, List.filter_append] at last
      obtain ⟨op, answer⟩ := event
      cases op with
      | emitStatus | emitTcLayer =>
          apply ih
          refine ⟨line, uptime, mode, modulation, annex, ?_, up⟩
          exact (congrArg List.getLast? (List.append_nil _)).symm.trans last
      | publishLine published =>
          have same := Option.some.inj (List.getLast?_concat.symm.trans last)
          cases same
          change (if line.linkStatus = .up then _ else _) ≠ none
          rw [if_pos up]
          exact Option.some_ne_none _
      | _ => cases List.getLast?_concat.symm.trans last

end Poll

/-- After every poll that shows the line as up, the notify script has been told the worker's
mode last, exactly if the line was seen up in that mode when it came up. -/
theorem toldMode_eq_iff (fuel : Nat) (oracle : Oracle workerCalls) (board : Settings)
    (cfg : DslConfig) (overrides : CliOverrides) (script : String)
    (history : History workerCalls) (worker : BoardWorker)
    (head : Head oracle (turn fuel) [] () (.new board cfg overrides (some script)) history ()
      worker) (justUp : JustUp history) :
    tcLayerStatus (toldMode cfg history) = tcLayerStatus worker.cfg.xferMode ↔
      upMode history = some worker.cfg.xferMode := by
  have tells : TellsMode (lineProtocol.phase history) worker :=
    lineInvariant_tellsMode.head (tellsMode_new board cfg overrides script) head
  have seen := upMode_of_justUp justUp
  have isUp : worker.lastStatus = some .up := by
    by_contra other
    exact seen (tells.other other)
  obtain ⟨equal, known⟩ := tells.up isUp
  obtain ⟨mode, told⟩ := Option.ne_none_iff_exists'.mp known
  rw [toldMode, upMode, equal, told, Option.getD_some]
  constructor
  · intro same
    rw [tcLayerStatus_injective same]
  · intro same
    rw [Option.some.inj same]

/-! ## A reload of a line that is up -/

/-- A line that is up whenever it is polled, and a reload to ATM in the second turn. -/
def changingMode : Oracle workerCalls
  | history, .recvTimeout _ => if history.length = 1 then .timeout else .command .reload
  | _, .loadUci => .ok (onlyOption "network.dsl.xfer_mode" "atm")
  | _, .request _ 2 _ => .ok upReply
  | history, .now => history.length * 1000
  | history, op => reloading (onlyOption "" "") history op

def notifyWorker : BoardWorker :=
  .new ⟨defaultTimeout, defaultRetries⟩ .default {} (some "/sbin/dsl_notify.sh")

/-- Where the worker is after a number of turns. -/
def afterTurns (turns : Nat) : Option (History workerCalls × Unit × BoardWorker) :=
  headAfter changingMode (turn 1) [] () notifyWorker turns

/-- The line has just been shown as up, with this mode in force, and this one told. -/
def showsUp (mode told : XferMode) (reached : History workerCalls × Unit × BoardWorker) : Bool :=
  reached.2.2.cfg.xferMode = mode && toldMode .default reached.1 = told &&
    match ((reached.1.map Event.op).filter fun op => !notifies op).getLast? with
    | some (.publishLine line ..) => line.linkStatus = .up
    | _ => false

theorem exists_head_of_showsUp {turns : Nat} {mode told : XferMode}
    (shown : (afterTurns turns).any (showsUp mode told) = true) :
    ∃ history worker, Head changingMode (turn 1) [] () notifyWorker history () worker ∧
      worker.cfg.xferMode = mode ∧ toldMode .default history = told ∧ JustUp history := by
  obtain ⟨⟨history, ⟨⟩, worker⟩, found, shows⟩ :=
    (Option.any_eq_true _ _).mp shown
  simp only [showsUp, Bool.and_eq_true, decide_eq_true_eq] at shows
  obtain ⟨⟨isMode, isTold⟩, isUp⟩ := shows
  refine ⟨history, worker, head_of_headAfter found, isMode, isTold, ?_⟩
  split at isUp
  · next line uptime mode modulation annex last =>
      exact ⟨line, uptime, mode, modulation, annex, last, of_decide_eq_true isUp⟩
  · cases isUp

/-- The first poll is told in the mode in which it was made. -/
theorem toldMode_eq_iff_firstTurn : ∃ (history : History workerCalls) (worker : BoardWorker),
    worker.cfg.xferMode = .ptm ∧ toldMode .default history = .ptm ∧
      (tcLayerStatus (toldMode .default history) = tcLayerStatus worker.cfg.xferMode ↔
        upMode history = some worker.cfg.xferMode) := by
  obtain ⟨history, worker, head, mode, told, justUp⟩ :=
    exists_head_of_showsUp (by decide +kernel : (afterTurns 1).any (showsUp .ptm .ptm) = true)
  exact ⟨history, worker, mode, told, toldMode_eq_iff 1 changingMode _ .default {}
    "/sbin/dsl_notify.sh" history worker head justUp⟩

/-- A mode that changes while the line is up is not told. -/
theorem not_toldMode_secondTurn :
    ¬ ∀ (fuel : Nat) (oracle : Oracle workerCalls) (board : Settings) (cfg : DslConfig)
      (overrides : CliOverrides) (script : String) (history : History workerCalls)
      (worker : BoardWorker),
      Head oracle (turn fuel) [] () (.new board cfg overrides (some script)) history () worker →
        JustUp history →
          tcLayerStatus (toldMode cfg history) = tcLayerStatus worker.cfg.xferMode := by
  intro claim
  obtain ⟨history, worker, head, mode, told, justUp⟩ :=
    exists_head_of_showsUp (by decide +kernel : (afterTurns 2).any (showsUp .atm .ptm) = true)
  have same := claim 1 changingMode _ .default {} "/sbin/dsl_notify.sh" history worker head justUp
  rw [told, mode] at same
  cases tcLayerStatus_injective same

end BoardWorker

end RbctlDsl.Dsl
