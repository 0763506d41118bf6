import RbctlDsl.Dsl.LineCommands
import RbctlDsl.Lib.Phases

/-!
# Watching the line

What a history of the worker says about the line: the polls that were answered, what has been
published of them, and the notifications.  One turn of the worker changes this, and its own
memory of the line, in few ways.
-/

namespace RbctlDsl.Dsl

open RbctlDsl.Lib RbctlDsl.Proto

/-- The line that a reply to a poll shows, if it shows one. -/
def polled (reply : Except BoardError Bytes) : Option LineObj :=
  (reply.bind fun r =>
    decodeReport 63 "line obj reply too short" parseLineObj (stripEcho r 2)).toOption

/-- A reply that shows the line as up, and is zero otherwise. -/
def upReply : Bytes := List.replicate 4 0 ++ 0x01 :: List.replicate 58 0

/-- What has been seen of the line so far. -/
structure LineWatch where
  /-- The line that the last successful poll has received. -/
  received : Option LineObj := none
  /-- The status that the successful poll before it has received. -/
  before : Option LinkStatus := none
  /-- Whether the notify script has been told since the last successful poll. -/
  told : Bool := true
  /-- The line that has been published, with its uptime. -/
  record : Option (LineObj × Nat) := none
  /-- The mode that the notify script has been told last. -/
  tcLayer : Option XferMode := none
  /-- The mode in which the line was first published as up, since it was published otherwise. -/
  upMode : Option XferMode := none
  deriving DecidableEq

namespace LineWatch

def receive (watch : LineWatch) (line : LineObj) : LineWatch :=
  { watch with received := some line, before := watch.received.map (·.linkStatus), told := false }

def publish (watch : LineWatch) (line : LineObj) (uptime : Nat) (mode : XferMode) : LineWatch :=
  { watch with
    record := some (line, uptime)
    upMode := if line.linkStatus = .up then some (watch.upMode.getD mode) else none }

def after (watch : LineWatch) : Event workerCalls → LineWatch
  | ⟨.request _ subtype _, reply⟩ =>
    if subtype = 2 then
      match polled reply with
      | some line => watch.receive line
      | none => watch
    else
      watch
  | ⟨.publishLine line uptime mode _ _, _⟩ => watch.publish line uptime mode
  | ⟨.emitStatus .., _⟩ => { watch with told := true }
  | ⟨.emitTcLayer _ mode, _⟩ => { watch with tcLayer := some mode }
  | _ => watch

theorem after_poll (watch : LineWatch) (retries : UInt8) (payload : Bytes)
    (reply : Except BoardError Bytes) :
    watch.after ⟨.request retries 2 payload, reply⟩ =
      match polled reply with
      | some line => watch.receive line
      | none => watch := rfl

/-- The notification that is due: the line has been received with another status than before. -/
def owed (watch : LineWatch) : Option LineEvent :=
  match watch.received with
  | some line =>
    if watch.told ∨ some line.linkStatus = watch.before then none
    else some (linkStatusToEvent line.linkStatus)
  | none => none

theorem owed_of_told {watch : LineWatch} (told : watch.told = true) : watch.owed = none := by
  unfold owed
  cases watch.received with
  | none => rfl
  | some line => exact if_pos (.inl told)

/-- A line with the status of the poll before, or one that is down, makes nothing due but
`DOWN`. -/
theorem owed_receive {watch : LineWatch} {line : LineObj}
    (quiet : watch.received.map (·.linkStatus) = some line.linkStatus ∨
      linkStatusToEvent line.linkStatus = .down) :
    ∀ event, (watch.receive line).owed = some event → event = .down := by
  intro event owed
  simp only [LineWatch.owed, receive, Bool.false_eq_true, false_or] at owed
  split at owed
  · cases owed
  · next differs =>
      cases quiet with
      | inl same => exact absurd same.symm differs
      | inr down => exact (Option.some.inj owed).symm.trans down

/-- What is notified is due, and what is published has been received. -/
def Permits (watch : LineWatch) : WorkerOp → Prop
  | .emitStatus _ event => watch.owed = some event
  | .publishLine line uptime .. =>
    watch.received = some line ∧ (line.linkStatus ≠ .up → uptime = 0)
  | .request _ subtype _ => subtype = 1 ∨ subtype = 2 ∨ subtype = 3 ∨ subtype = 8
  | _ => True

end LineWatch

def lineProtocol : Protocol workerCalls LineWatch where
  initial := {}
  after := LineWatch.after
  permits := LineWatch.Permits

namespace BoardWorker

open Protocol

/-! ## A poll -/

/-- What a poll does once it is due. -/
def attemptPoll : Worker Unit := do
  let now ← onWorker .now
  Method.update fun worker => { worker with lastPoll := some now }
  match ← callBoard quiet getLineObj with
  | .ok line => recordLine line
  | .error _ => pure ()

/-- The worker after it has been notified of a status. -/
def announced (worker : BoardWorker) (status : LinkStatus) : BoardWorker :=
  { worker with
    lastStatus := some status
    tcEmitted := worker.tcEmitted || (some status ≠ worker.lastStatus && status = .up) }

/-- The notifications about a line: one of its status if that is new, and one of the mode if the
line has come up and the mode has not been told. -/
def notified (worker : BoardWorker) (line : LineObj) (watch : LineWatch) : LineWatch :=
  if worker.notifyScript.isNone ∨ some line.linkStatus = worker.lastStatus then watch
  else if line.linkStatus = .up ∧ worker.tcEmitted = false then
    { watch with told := true, tcLayer := some worker.cfg.xferMode }
  else
    { watch with told := true }

/-- What a poll does: nothing that the worker remembers, or the line is received, published, and
notified. -/
inductive Polls (watch : LineWatch) (worker : BoardWorker) : LineWatch → BoardWorker → Prop
  | unseen (lastPoll : Option Nat) : Polls watch worker watch { worker with lastPoll := lastPoll }
  | seen (line : LineObj) (uptime : Nat) (lastPoll upSince : Option Nat) :
      Polls watch worker
        (worker.notified line ((watch.receive line).publish line uptime worker.cfg.xferMode))
        ({ worker with lastPoll := lastPoll, upSince := upSince }.announced line.linkStatus)

/-- The worker remembers the status that it has received last. -/
def Remembers (watch : LineWatch) (worker : BoardWorker) : Prop :=
  ∀ line, watch.received = some line → worker.lastStatus = some line.linkStatus

theorem remembers_initial (worker : BoardWorker) : Remembers {} worker := by
  intro line received
  cases received

section Poll

variable {watch : LineWatch} {worker : BoardWorker}

theorem follows_trackUptime (status : LinkStatus) :
    lineProtocol.Follows (fun reached result => reached = watch ∧ ∃ upSince,
        result = (.ok (), { worker with upSince := upSince }) ∧ (status ≠ .up → upSince = none))
      (trackUptime status worker) watch := by
  unfold trackUptime
  rw [Method.bind_apply, Method.read_apply, Program.pure_bind, Method.resume_ok]
  by_cases up : status = .up
  · rw [if_pos up]
    cases since : worker.upSince with
    | none =>
        refine follows_perform trivial fun now => follows_pure ⟨rfl, some now, rfl, ?_⟩
        exact fun other => absurd up other
    | some since' =>
        refine follows_pure ⟨rfl, some since', ?_, fun other => absurd up other⟩
        rw [← since]
  · rw [if_neg up]
    exact follows_pure ⟨rfl, none, rfl, fun _ => rfl⟩

theorem follows_uptimeSecs :
    lineProtocol.Follows (fun reached result => reached = watch ∧ ∃ uptime,
        result = (.ok uptime, worker) ∧ (worker.upSince = none → uptime = 0))
      (uptimeSecs worker) watch := by
  unfold uptimeSecs
  rw [Method.bind_apply, Method.read_apply, Program.pure_bind, Method.resume_ok]
  cases since : worker.upSince with
  | none => exact follows_pure ⟨rfl, 0, rfl, fun _ => rfl⟩
  | some since' =>
      refine follows_perform trivial fun now => follows_pure ⟨rfl, _, rfl, ?_⟩
      exact fun none => by cases none

theorem notifying_bind {α : Type} (op : String → workerCalls.Op) (next : Unit → Worker α) :
    (notifying op worker).bind (Method.resume next) =
      match worker.notifyScript with
      | none => next () worker
      | some script => .perform (op script) fun _ => next () worker := by
  rw [notifying, Method.bind_apply, Method.read_apply, Program.pure_bind, Method.resume_ok]
  cases worker.notifyScript with
  | none => rfl
  | some script => rfl

theorem announced_of_same {status : LinkStatus} (same : some status = worker.lastStatus) :
    worker.announced status = worker := by
  simp [announced, same]

/-- The worker after an announcement that raises the line. -/
theorem announced_of_raise {status : LinkStatus} (changed : some status ≠ worker.lastStatus)
    (raise : status = .up ∧ worker.tcEmitted = false) :
    worker.announced status = { worker with lastStatus := some status, tcEmitted := true } := by
  simp [announced, raise.1, raise.1 ▸ changed]

/-- The worker after any other announcement. -/
theorem announced_of_not_raise {status : LinkStatus}
    (known : ¬ (status = .up ∧ worker.tcEmitted = false)) :
    worker.announced status = { worker with lastStatus := some status } := by
  rw [not_and, Bool.not_eq_false] at known
  by_cases up : status = .up
  · simp [announced, known up]
  · simp [announced, up]

/-- A change of the line is due to be told. -/
theorem owed_of_changed {line : LineObj} (received : watch.received = some line)
    (untold : watch.told = false) (changed : some line.linkStatus ≠ watch.before) :
    watch.owed = some (linkStatusToEvent line.linkStatus) := by
  simp [LineWatch.owed, received, untold, changed]

/-- An announcement makes the notifications that are due. -/
theorem follows_announce {line : LineObj} (received : watch.received = some line)
    (untold : watch.told = false)
    (remembered : ∀ status, watch.before = some status → worker.lastStatus = some status) :
    lineProtocol.Follows
      (fun reached result => reached = worker.notified line watch ∧
        result.2 = worker.announced line.linkStatus)
      (announce line.linkStatus worker) watch := by
  unfold announce
  rw [Method.bind_apply, Method.read_apply, Program.pure_bind, Method.resume_ok]
  by_cases same : some line.linkStatus = worker.lastStatus
  · rw [if_neg (not_not_intro same)]
    exact follows_pure ⟨(if_pos (.inr same)).symm, (announced_of_same same).symm⟩
  · rw [if_pos same, Method.bind_apply, notifying_bind]
    have owed : watch.owed = some (linkStatusToEvent line.linkStatus) :=
      owed_of_changed received untold fun equal => same (remembered _ equal.symm).symm
    by_cases raise : line.linkStatus = .up ∧ worker.tcEmitted = false
    · have after := announced_of_raise same raise
      rw [if_pos raise]
      rcases Option.eq_none_or_eq_some worker.notifyScript with script | ⟨name, script⟩
      · rw [script, Method.bind_apply, notifying_bind, script]
        refine follows_pure ⟨?_, after.symm⟩
        rw [notified, if_pos (.inl (by rw [script]; rfl))]
      · rw [script]
        refine follows_perform owed fun _ => ?_
        rw [Method.bind_apply, notifying_bind, script]
        refine follows_perform trivial fun _ => follows_pure ⟨?_, after.symm⟩
        rw [notified, if_neg (by simp [script, same]), if_pos raise]
        rfl
    · have after := announced_of_not_raise raise
      rw [if_neg raise]
      rcases Option.eq_none_or_eq_some worker.notifyScript with script | ⟨name, script⟩
      · rw [script]
        refine follows_pure ⟨?_, after.symm⟩
        rw [notified, if_pos (.inl (by rw [script]; rfl))]
      · rw [script]
        refine follows_perform owed fun _ => follows_pure ⟨?_, after.symm⟩
        rw [notified, if_neg (by simp [script, same]), if_neg raise]
        rfl

/-- A line that has been received is published and announced. -/
theorem follows_recordLine (remembers : Remembers watch worker) (line : LineObj)
    (lastPoll : Option Nat) :
    lineProtocol.Follows (fun reached result => Polls watch worker reached result.2)
      (recordLine line { worker with lastPoll := lastPoll }) (watch.receive line) := by
  refine follows_bind (follows_trackUptime _) ?_
  rintro _ _ ⟨rfl, upSince, rfl, upOnly⟩
  rw [Method.resume_ok, Method.bind_apply]
  refine follows_bind follows_uptimeSecs ?_
  rintro _ _ ⟨rfl, uptime, rfl, downZero⟩
  rw [Method.resume_ok, Method.bind_apply, Method.read_apply, Program.pure_bind, Method.resume_ok]
  refine follows_perform ⟨rfl, fun down => downZero (upOnly down)⟩ fun _ => ?_
  refine (follows_announce rfl rfl ?_).mono ?_
  · intro status before
    obtain ⟨earlier, received, rfl⟩ := Option.map_eq_some_iff.mp before
    exact remembers earlier received
  · rintro reached ⟨result, after⟩ ⟨rfl, rfl⟩
    exact .seen line uptime lastPoll upSince

theorem attemptPoll_apply :
    attemptPoll worker = .perform .now fun now =>
      .perform (.request worker.board.retries 2 [0x02]) fun reply =>
        match polled reply with
        | some line => recordLine line { worker with lastPoll := some now }
        | none => .pure (.ok (), { worker with lastPoll := some now }) := by
  rw [attemptPoll, Method.perform_bind_apply]
  congr
  funext now
  rw [Method.bind_apply, Method.update_apply, Program.pure_bind, Method.resume_ok, getLineObj,
    callBoard_exchange_bind]
  congr
  funext reply
  rw [polled]
  cases reply.bind fun r =>
      decodeReport 63 "line obj reply too short" parseLineObj (stripEcho r 2) with
  | ok line => rfl
  | error error => rfl

theorem follows_attemptPoll (remembers : Remembers watch worker) :
    lineProtocol.Follows (fun reached result => Polls watch worker reached result.2)
      (attemptPoll worker) watch := by
  rw [attemptPoll_apply]
  refine follows_perform trivial fun now => ?_
  refine follows_perform (.inr (.inl rfl)) fun reply => ?_
  change lineProtocol.Follows _ _ (watch.after ⟨.request worker.board.retries 2 [0x02], reply⟩)
  rw [LineWatch.after_poll]
  cases polled reply with
  | none => exact follows_pure (.unseen _)
  | some line => exact follows_recordLine remembers line _

theorem follows_maybePollBoard (remembers : Remembers watch worker) :
    lineProtocol.Follows (fun reached result => Polls watch worker reached result.2)
      (maybePollBoard worker) watch := by
  have idle : Polls watch worker watch worker := .unseen worker.lastPoll
  have due : lineProtocol.Follows (fun reached result => reached = watch ∧ ∃ due,
      result = (.ok due, worker)) (pollDue worker) watch := by
    unfold pollDue
    rw [Method.bind_apply, Method.read_apply, Program.pure_bind, Method.resume_ok]
    cases worker.lastPoll with
    | none => exact follows_pure ⟨rfl, true, rfl⟩
    | some last => exact follows_perform trivial fun now => follows_pure ⟨rfl, _, rfl⟩
  refine follows_bind due ?_
  rintro _ _ ⟨rfl, due, rfl⟩
  cases due with
  | false => exact follows_pure idle
  | true => exact follows_attemptPoll remembers

end Poll

/-! ## A command -/

/-- What a command does to the worker: nothing but to its board, or the line is restarted, with
the same configuration or with a new one. -/
inductive Handles (worker : BoardWorker) : BoardWorker → Prop
  | kept (board : Settings) : Handles worker { worker with board := board }
  | restarted : Handles worker { worker with tcEmitted := false }
  | reconfigured (newCfg : DslConfig) (changed : configChanged worker.cfg newCfg = true) :
      Handles worker { worker with cfg := newCfg, tcEmitted := false }

section Command

variable {watch : LineWatch} {worker : BoardWorker}

theorem handles_self : Handles worker worker := .kept worker.board

/-- The operations of an upgrade do not concern the watch. -/
theorem stays_firmware {op : WorkerOp} (upgrades : FirmwareOp op) :
    lineProtocol.Stays watch op := by
  cases op with
  | request retries subtype payload =>
      obtain rfl : subtype = 8 := upgrades
      exact ⟨.inr (.inr (.inr rfl)), fun _ => rfl⟩
  | sendFwEvent | setFwStatus => exact ⟨trivial, fun _ => rfl⟩
  | shouldExit | recvTimeout | loadUci | sleep | now | publishConfig | publishLine | emitStatus
  | emitTcLayer => cases upgrades

/-- The worker without its board. -/
def hideBoard (worker : BoardWorker) : BoardWorker := { worker with board := ⟨0, 0⟩ }

theorem stays_handleFirmwareUpgrade (fuel : Nat) (image : Bytes) (replyTx : Nat) :
    Keeps (lineProtocol.Stays watch) hideBoard (handleFirmwareUpgrade fuel image replyTx) := by
  have hides : HidesBoard hideBoard := fun _ _ => rfl
  exact (keeps_handleFirmwareUpgrade hides fuel image replyTx).mono fun _ => stays_firmware

theorem follows_handle (fuel : Nat) (cmd : WorkerCmd) :
    lineProtocol.Follows (fun reached result => reached = watch ∧ Handles worker result.2)
      (handle fuel cmd worker) watch := by
  cases cmd with
  | reload =>
      rw [handle, handleReload_apply]
      refine follows_perform trivial fun opened => ?_
      cases DslConfig.load opened worker.overrides with
      | error error => exact follows_pure ⟨rfl, handles_self⟩
      | ok newCfg =>
          dsimp only
          split
          · next changed =>
              rw [reconfigure_apply]
              refine follows_perform (.inr (.inr (.inl rfl))) fun _ => ?_
              refine follows_perform (.inl rfl) fun _ => ?_
              exact follows_perform trivial fun _ => follows_pure ⟨rfl, .reconfigured _ changed⟩
          · exact follows_pure ⟨rfl, handles_self⟩
  | restartLine =>
      rw [handle, handleRestart_apply]
      refine follows_perform (.inr (.inr (.inl rfl))) fun _ => ?_
      refine follows_perform trivial fun _ => ?_
      exact follows_perform (.inl rfl) fun _ => follows_pure ⟨rfl, .restarted⟩
  | firmwareUpgrade image replyTx =>
      refine (follows_of_stays (stays_handleFirmwareUpgrade fuel image replyTx worker [])).mono ?_
      rintro reached ⟨result, after⟩ ⟨same, sameRest⟩
      have equal : after = { worker with board := after.board } :=
        congrArg (fun hidden => { hidden with board := after.board }) sameRest
      exact ⟨same, equal ▸ .kept after.board⟩

end Command

/-! ## Runs -/

/-- A relation between what has been seen of the line and the worker between its turns. -/
structure LineInvariant (holds : LineWatch → BoardWorker → Prop) : Prop where
  remembers : ∀ {watch worker}, holds watch worker → Remembers watch worker
  handles : ∀ {watch worker after}, holds watch worker → Handles worker after → holds watch after
  polls : ∀ {watch worker reached after}, holds watch worker →
    Polls watch worker reached after → holds reached after

section Run

variable {holds : LineWatch → BoardWorker → Prop} {history : History workerCalls}
  {worker : BoardWorker}

/-- One turn of the worker keeps an invariant. -/
theorem safe_turn_line (invariant : LineInvariant holds) (fuel : Nat) (locals : Unit)
    (start : holds (lineProtocol.phase history) worker) :
    Safe lineProtocol.contract
      (Method.passOwes (fun later _ after => holds (lineProtocol.phase later) after)
        fun later result => holds (lineProtocol.phase later) result.2)
      (turn fuel locals worker) history := by
  apply safe_turn
  · intro earlier op reads here
    have unchanged (answer : workerCalls.Answer op) :
        lineProtocol.phase (earlier ++ [⟨op, answer⟩]) = lineProtocol.phase earlier := by
      rw [lineProtocol.phase_snoc]
      rcases reads with rfl | rfl <;> rfl
    constructor
    · rcases reads with rfl | rfl <;> trivial
    · intro answer
      rw [unchanged]
      exact here
  · intro cmd _ _ read
    refine (follows_handle fuel cmd _ rfl).mono ?_
    rintro later result ⟨same, handles⟩
    rw [same]
    exact invariant.handles read handles
  · intro later current here
    refine (follows_maybePollBoard (invariant.remembers here) later rfl).mono ?_
    exact fun _ _ polls => invariant.polls here polls
  · exact start

/-- The worker thread follows the protocol of the line. -/
theorem follows_run_line (invariant : LineInvariant holds) (fuel : Nat)
    (start : holds {} worker) :
    lineProtocol.Follows (fun _ _ => True) (run fuel worker) lineProtocol.initial := by
  intro history here
  refine Method.safe_bind (Method.safe_iterate
    (fun _ locals _ here => safe_turn_line invariant fuel locals here) fuel () ?_) ?_
    fun _ error => nomatch error
  · rw [here]
    exact start
  · intro later _ after _
    rw [Method.bind_apply, Method.update_apply, Program.pure_bind, Method.resume_ok,
      lineConfigDown, callBoard_exchange_bind]
    exact ⟨.inr (.inr (.inl rfl)), fun _ _ => trivial⟩

theorem received_notified (line : LineObj) (watch : LineWatch) :
    (worker.notified line watch).received = watch.received := by
  unfold notified
  split
  · rfl
  · split <;> rfl

theorem lineInvariant_remembers : LineInvariant Remembers where
  remembers := id
  handles := by
    rintro watch worker after remembers handles
    cases handles <;> exact remembers
  polls := by
    rintro watch worker reached after remembers polls
    cases polls with
    | unseen lastPoll => exact remembers
    | seen line uptime lastPoll upSince =>
        intro other received
        rw [received_notified] at received
        obtain rfl : line = other := Option.some.inj received
        rfl

/-- An invariant holds at every head of the worker loop. -/
theorem LineInvariant.head (invariant : LineInvariant holds) {fuel : Nat}
    {oracle : Oracle workerCalls} {first : BoardWorker} (start : holds {} first)
    (head : Head oracle (turn fuel) [] () first history () worker) :
    holds (lineProtocol.phase history) worker := by
  have base : holds (lineProtocol.phase []) first := start
  refine Head.invariant lineProtocol.contract
    (fun later _ after => holds (lineProtocol.phase later) after)
    (fun later result => holds (lineProtocol.phase later) result.2) ?_ ?_ base head
  · exact fun _ locals _ _ here => safe_turn_line invariant fuel locals here
  · exact fun _ _ _ _ => along_true _ _

/-- The protocol of the line is followed up to every head of the worker loop. -/
theorem permits_head {fuel : Nat} {oracle : Oracle workerCalls} {first : BoardWorker}
    (head : Head oracle (turn fuel) [] () first history () worker) :
    Along (fun earlier event => LineWatch.Permits (lineProtocol.phase earlier) event.op) []
      history := by
  have base : Remembers (lineProtocol.phase []) first := remembers_initial first
  obtain ⟨events, rfl, permitted⟩ := Head.permitted lineProtocol.contract
    (fun later _ after => Remembers (lineProtocol.phase later) after)
    (fun later result => Remembers (lineProtocol.phase later) result.2)
    (fun _ locals _ _ here => safe_turn_line lineInvariant_remembers fuel locals here)
    (fun _ _ _ _ => along_true _ _) base head
  exact permitted

end Run

end BoardWorker

end RbctlDsl.Dsl
