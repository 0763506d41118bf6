import RbctlDsl.Dsl.TcLayer
import RbctlDsl.Lib.Collapse

/-!
# Line events

The worker compares the statuses of successive polls, and tells the notify script the events
that they stand for.  Several statuses stand for `DOWN`, so that two of them in a row are told
twice.
-/

namespace RbctlDsl.Dsl

open RbctlDsl.Lib RbctlDsl.Proto

namespace BoardWorker

/-- The status that a successful poll shows. -/
def shownStatus : Event workerCalls → Option LinkStatus
  | ⟨.request _ subtype _, reply⟩ =>
    if subtype = 2 then (polled reply).map (·.linkStatus) else none
  | _ => none

/-- The event of a notification of `DSL_INTERFACE_STATUS`. -/
def emittedEvent : WorkerOp → Option LineEvent
  | .emitStatus _ event => some event
  | _ => none

/-- The statuses of the successful polls. -/
def statuses (history : History workerCalls) : List LinkStatus := history.filterMap shownStatus

/-- The notifications of `DSL_INTERFACE_STATUS`. -/
def emitted (history : History workerCalls) : List LineEvent :=
  history.filterMap fun event => emittedEvent event.op

/-- Two statuses are the same, or do not both stand for `DOWN`. -/
def ToldApart (earlier later : LinkStatus) : Prop :=
  earlier = later ∨ ¬ (linkStatusToEvent earlier = .down ∧ linkStatusToEvent later = .down)

/-- No other event than `DOWN` stands for several statuses. -/
theorem eq_of_event_eq {earlier later : LinkStatus}
    (equal : linkStatusToEvent earlier = linkStatusToEvent later)
    (other : linkStatusToEvent earlier ≠ .down) : earlier = later := by
  cases earlier with
  | up | initializing | establishingLink =>
      cases later with
      | up | initializing | establishingLink | noSignal | unknown =>
          first | rfl | cases equal
  | noSignal | unknown => exact absurd rfl other

theorem toldApart_iff (earlier later : LinkStatus) :
    ToldApart earlier later ↔
      (linkStatusToEvent earlier = linkStatusToEvent later → earlier = later) := by
  constructor
  · rintro (same | apart) equal
    · exact same
    · exact eq_of_event_eq equal fun down => apart ⟨down, equal.symm.trans down⟩
  · intro told
    by_cases same : earlier = later
    · exact .inl same
    · exact .inr fun down => same (told (down.1.trans down.2.symm))

/-! ## Silent operations -/

/-- An operation that neither shows a status nor notifies of one. -/
def Silent (op : WorkerOp) : Prop :=
  emittedEvent op = none ∧ ∀ answer, shownStatus ⟨op, answer⟩ = none

section Silent

variable {history events : History workerCalls}

theorem statuses_snoc (event : Event workerCalls) :
    statuses (history ++ [event]) = statuses history ++ (shownStatus event).toList := by
  rw [statuses, List.filterMap_append]
  cases shown : shownStatus event <;> simp [shown, statuses]

theorem emitted_snoc (event : Event workerCalls) :
    emitted (history ++ [event]) = emitted history ++ (emittedEvent event.op).toList := by
  rw [emitted, List.filterMap_append]
  cases told : emittedEvent event.op <;> simp [told, emitted]

theorem statuses_append (silent : ∀ event ∈ events, Silent event.op) :
    statuses (history ++ events) = statuses history := by
  have none : events.filterMap shownStatus = [] :=
    List.filterMap_eq_nil_iff.mpr fun event member => (silent event member).2 event.answer
  rw [statuses, List.filterMap_append, none, List.append_nil, statuses]

theorem emitted_append (silent : ∀ event ∈ events, Silent event.op) :
    emitted (history ++ events) = emitted history := by
  have none : (events.filterMap fun event => emittedEvent event.op) = [] :=
    List.filterMap_eq_nil_iff.mpr fun event member => (silent event member).1
  rw [emitted, List.filterMap_append, none, List.append_nil, emitted]

/-- A request for another opcode than the one of a poll. -/
theorem silent_request (retries : UInt8) {subtype : UInt8} (payload : Bytes)
    (other : subtype ≠ 2) : Silent (.request retries subtype payload) :=
  ⟨rfl, fun _ => if_neg other⟩

theorem FirmwareOp.silent {op : WorkerOp} (upgrades : FirmwareOp op) : Silent op := by
  cases op with
  | request retries subtype payload =>
      obtain rfl : subtype = 8 := upgrades
      exact silent_request retries payload (by decide)
  | sendFwEvent | setFwStatus => exact ⟨rfl, fun _ => rfl⟩
  | shouldExit | recvTimeout | loadUci | sleep | now | publishConfig | publishLine | emitStatus
  | emitTcLayer => cases upgrades

/-- What the worker remembers for its notifications. -/
def statusMemory (worker : BoardWorker) : Option LinkStatus × Option String :=
  (worker.lastStatus, worker.notifyScript)

/-- A method that neither looks at the status nor notifies. -/
abbrev KeepsStatus {α : Type} (method : Worker α) : Prop := Keeps Silent statusMemory method

theorem keepsStatus_lineCommand {opcode : UInt8} {payload : Bytes}
    (other : opcode ≠ 2) (decode : Bytes → Except BoardError Unit) :
    KeepsStatus (callBoard quiet (exchange opcode payload decode)) := by
  apply keeps_callBoard (fun _ _ => rfl) (keeps_exchange opcode payload decode)
  · exact fun retries payload => silent_request retries payload other
  · exact fun _ => keeps_pure ()

theorem keepsStatus_handle (fuel : Nat) (cmd : WorkerCmd) : KeepsStatus (handle fuel cmd) := by
  have down : KeepsStatus (callBoard quiet lineConfigDown) :=
    keepsStatus_lineCommand (by decide) _
  have up (cfg : DslConfig) : KeepsStatus (callBoard quiet cfg.lineUp) :=
    keepsStatus_lineCommand (by decide) _
  cases cmd with
  | reload =>
      refine keeps_bind (keeps_perform ⟨rfl, fun _ => rfl⟩) fun opened => ?_
      refine keeps_bind keeps_read fun worker => ?_
      cases DslConfig.load opened worker.overrides with
      | error error => exact keeps_pure ()
      | ok newCfg =>
          refine keeps_ite (keeps_bind down fun _ => keeps_bind (up newCfg) fun _ => ?_)
            (keeps_pure ())
          refine keeps_bind (keeps_update fun _ => rfl) fun _ => keeps_bind ?_ fun _ => ?_
          · exact keeps_bind keeps_read fun worker => keeps_perform ⟨rfl, fun _ => rfl⟩
          · exact keeps_update fun _ => rfl
  | restartLine =>
      refine keeps_bind down fun _ => keeps_bind (keeps_perform ⟨rfl, fun _ => rfl⟩) fun _ => ?_
      refine keeps_bind keeps_read fun worker => keeps_bind (up worker.cfg) fun _ => ?_
      exact keeps_update fun _ => rfl
  | firmwareUpgrade image replyTx =>
      exact (keeps_handleFirmwareUpgrade (fun _ _ => rfl) fuel image replyTx).mono
        fun _ => FirmwareOp.silent

theorem keepsStatus_trackUptime (status : LinkStatus) : KeepsStatus (trackUptime status) := by
  refine keeps_bind keeps_read fun worker => keeps_ite ?_ (keeps_update fun _ => rfl)
  cases worker.upSince with
  | none =>
      exact keeps_bind (keeps_perform ⟨rfl, fun _ => rfl⟩) fun _ => keeps_update fun _ => rfl
  | some since => exact keeps_pure ()

theorem keepsStatus_uptimeSecs : KeepsStatus uptimeSecs := by
  refine keeps_bind keeps_read fun worker => ?_
  cases worker.upSince with
  | none => exact keeps_pure 0
  | some since => exact keeps_bind (keeps_perform ⟨rfl, fun _ => rfl⟩) fun _ => keeps_pure _

end Silent

/-! ## What has been shown, and what has been told -/

/-- The polls have shown `shown`, and the worker has told the script of `told`. -/
structure Tells (shown told : List LinkStatus) (history : History workerCalls)
    (worker : BoardWorker) : Prop where
  script : worker.notifyScript.isNone = false
  polls : statuses history = shown
  last : worker.lastStatus = told.getLast?
  events : emitted history = (collapse told).map linkStatusToEvent

/-- The worker has told the script of everything that the polls have shown. -/
def TellsAll (history : History workerCalls) (worker : BoardWorker) : Prop :=
  Tells (statuses history) (statuses history) history worker

section Tells

variable {shown told : List LinkStatus} {history : History workerCalls} {worker : BoardWorker}

theorem Tells.all (tells : Tells shown shown history worker) : TellsAll history worker := by
  rw [TellsAll, tells.polls]
  exact tells

theorem Tells.snoc (tells : Tells shown told history worker) {event : Event workerCalls}
    (silent : Silent event.op) : Tells shown told (history ++ [event]) worker := by
  have single : ∀ member ∈ [event], Silent member.op := List.forall_mem_singleton.mpr silent
  constructor
  · exact tells.script
  · rw [statuses_append single, tells.polls]
  · exact tells.last
  · rw [emitted_append single, tells.events]

theorem Tells.keeps {α : Type} {method : Worker α} (keeps : KeepsStatus method)
    (tells : Tells shown told history worker) :
    Safe (onlyOps fun _ => True) (fun later result => Tells shown told later result.2)
      (method worker) history := by
  refine (keeps worker history).onlyAdds.mono ?_
  rintro later ⟨result, after⟩ ⟨⟨events, rfl, silent⟩, same⟩
  obtain ⟨sameStatus, sameScript⟩ := Prod.mk.inj same
  constructor
  · rw [sameScript]
    exact tells.script
  · rw [statuses_append silent, tells.polls]
  · rw [sameStatus]
    exact tells.last
  · rw [emitted_append silent, tells.events]

/-- Nothing is told of the status that was told last. -/
theorem Tells.same (tells : Tells shown told history worker) {status : LinkStatus}
    (same : some status = worker.lastStatus) : Tells shown (told ++ [status]) history worker := by
  have last : told.getLast? = some status := tells.last.symm.trans same.symm
  constructor
  · exact tells.script
  · exact tells.polls
  · rw [List.getLast?_concat, same]
  · rw [tells.events, collapse_snoc_same last]

/-- Another status is told by its event. -/
theorem Tells.other (tells : Tells shown told history worker) {status : LinkStatus}
    (differs : some status ≠ worker.lastStatus) (script : String) {after : BoardWorker}
    (memory : statusMemory after = (some status, worker.notifyScript)) :
    Tells shown (told ++ [status])
      (history ++ [⟨.emitStatus script (linkStatusToEvent status), ()⟩]) after := by
  obtain ⟨sameStatus, sameScript⟩ := Prod.mk.inj memory
  have last : told.getLast? ≠ some status := fun last => differs (last.symm.trans tells.last.symm)
  constructor
  · rw [sameScript]
    exact tells.script
  · rw [statuses_snoc]
    exact (List.append_nil _).trans tells.polls
  · rw [List.getLast?_concat, sameStatus]
  · rw [emitted_snoc, collapse_snoc_other last, List.map_append, ← tells.events]
    rfl

theorem safe_announce_tells {status : LinkStatus} (tells : Tells shown told history worker) :
    Safe (onlyOps fun _ => True)
      (fun later result => Tells shown (told ++ [status]) later result.2)
      (announce status worker) history := by
  obtain ⟨script, named⟩ := Option.ne_none_iff_exists'.mp
    (Option.isNone_eq_false_iff.mp tells.script |> Option.isSome_iff_ne_none.mp)
  unfold announce
  rw [Method.bind_apply, Method.read_apply, Program.pure_bind, Method.resume_ok]
  by_cases same : some status = worker.lastStatus
  · rw [if_neg (not_not_intro same)]
    exact tells.same same
  · rw [if_pos same, Method.bind_apply, notifying_bind, named]
    refine ⟨trivial, fun _ _ => ?_⟩
    have told {after : BoardWorker}
        (memory : statusMemory after = (some status, worker.notifyScript)) :
        Tells shown (told ++ [status])
          (history ++ [⟨.emitStatus script (linkStatusToEvent status), ()⟩]) after :=
      tells.other same script memory
    split
    · rw [Method.bind_apply, notifying_bind, named]
      refine ⟨trivial, fun _ _ => (told ?_).snoc ⟨rfl, fun _ => rfl⟩⟩
      rfl
    · exact told rfl

theorem safe_recordLine_tells (line : LineObj) (tells : Tells shown told history worker) :
    Safe (onlyOps fun _ => True)
      (fun later result => Tells shown (told ++ [line.linkStatus]) later result.2)
      (recordLine line worker) history := by
  refine Method.safe_bind (tells.keeps (keepsStatus_trackUptime _)) ?_ fun _ error => nomatch error
  intro later _ after tracked
  refine Method.safe_bind (tracked.keeps keepsStatus_uptimeSecs) ?_ fun _ error => nomatch error
  intro later uptime after timed
  rw [Method.bind_apply, Method.read_apply, Program.pure_bind, Method.resume_ok]
  refine ⟨trivial, fun _ _ => safe_announce_tells (timed.snoc ?_)⟩
  exact ⟨rfl, fun _ => rfl⟩

/-- A poll tells of what it shows. -/
theorem safe_attemptPoll_tells (tells : TellsAll history worker) :
    Safe (onlyOps fun _ => True) (fun later result => TellsAll later result.2)
      (attemptPoll worker) history := by
  rw [attemptPoll_apply]
  refine ⟨trivial, fun now _ => ⟨trivial, fun reply _ => ?_⟩⟩
  have asked : Tells (statuses history) (statuses history) (history ++ [⟨.now, now⟩]) worker :=
    tells.snoc ⟨rfl, fun _ => rfl⟩
  have received : Tells (statuses history ++ ((polled reply).map (·.linkStatus)).toList)
      (statuses history)
      (history ++ [⟨.now, now⟩] ++ [⟨.request worker.board.retries 2 [0x02], reply⟩])
      { worker with lastPoll := some now } := by
    constructor
    · exact asked.script
    · rw [statuses_snoc, asked.polls]
      rfl
    · exact asked.last
    · rw [emitted_snoc, asked.events]
      exact List.append_nil _
  dsimp only
  cases shown : polled reply with
  | none =>
      rw [shown, Option.map_none, Option.toList_none, List.append_nil] at received
      exact received.all
  | some line =>
      rw [shown] at received
      exact (safe_recordLine_tells line received).mono fun _ _ recorded => recorded.all

theorem safe_maybePollBoard_tells (tells : TellsAll history worker) :
    Safe (onlyOps fun _ => True) (fun later result => TellsAll later result.2)
      (maybePollBoard worker) history := by
  have due : KeepsStatus pollDue := by
    refine keeps_bind keeps_read fun worker => ?_
    cases worker.lastPoll with
    | none => exact keeps_pure true
    | some last => exact keeps_bind (keeps_perform ⟨rfl, fun _ => rfl⟩) fun _ => keeps_pure _
  refine Method.safe_bind (tells.keeps due) ?_ fun _ error => nomatch error
  intro later due after asked
  cases due with
  | false => exact asked.all
  | true => exact safe_attemptPoll_tells asked.all

end Tells

/-! ## Runs -/

section Runs

variable {fuel : Nat} {oracle : Oracle workerCalls} {first worker : BoardWorker}
  {history : History workerCalls}

theorem tellsAll_new (board : Settings) (cfg : DslConfig) (overrides : CliOverrides)
    (script : String) : TellsAll [] (.new board cfg overrides (some script)) := by
  constructor
  · rfl
  · rfl
  · rfl
  · rfl

/-- At every head of the worker loop the script has been told of everything. -/
theorem tellsAll_head (start : TellsAll [] first)
    (head : Head oracle (turn fuel) [] () first history () worker) : TellsAll history worker := by
  refine Head.invariant (onlyOps fun _ => True) (fun later _ after => TellsAll later after)
    (fun later result => TellsAll later result.2) ?_ ?_ start head
  · intro earlier _ current _ here
    apply safe_turn
    · intro earlier op reads tells
      refine ⟨trivial, fun answer => (tells.snoc ?_).all⟩
      rcases reads with rfl | rfl
      · exact ⟨rfl, fun _ => rfl⟩
      · exact ⟨rfl, fun _ => rfl⟩
    · intro cmd _ _ read
      exact (read.keeps (keepsStatus_handle fuel cmd)).mono fun _ _ tells => tells.all
    · exact fun later after tells => safe_maybePollBoard_tells tells
    · exact here
  · exact fun _ _ _ _ => along_true _ _

end Runs

/-- Between the turns of the worker the notifications are the events of the statuses that were
polled, with equal events in a row collapsed, exactly if no two successive polls have shown
different statuses that both stand for `DOWN`. -/
theorem emitted_eq_collapse_iff (fuel : Nat) (oracle : Oracle workerCalls) (board : Settings)
    (cfg : DslConfig) (overrides : CliOverrides) (script : String)
    (history : History workerCalls) (worker : BoardWorker)
    (head : Head oracle (turn fuel) [] () (.new board cfg overrides (some script)) history ()
      worker) :
    emitted history = collapse ((statuses history).map linkStatusToEvent) ↔
      (statuses history).IsChain ToldApart := by
  have tells := tellsAll_head (tellsAll_new board cfg overrides script) head
  rw [tells.events, map_collapse_iff]
  constructor
  · exact fun told => told.imp fun earlier later => (toldApart_iff earlier later).mpr
  · exact fun apart => apart.imp fun earlier later => (toldApart_iff earlier later).mp

/-! ## A line without a signal -/

/-- A reply that shows a status code, and is zero otherwise. -/
def lineReply (code : UInt8) : Bytes := List.replicate 4 0 ++ code :: List.replicate 58 0

/-- A line that shows one code first, and then another. -/
def showing (code next : UInt8) : Oracle workerCalls
  | history, .request _ 2 _ => .ok (lineReply (if statuses history = [] then code else next))
  | _, .recvTimeout _ => .timeout
  | history, .now => history.length * 1000
  | history, op => reloading (onlyOption "" "") history op

/-- What is notified of two polls. -/
theorem exists_head_of_showing {code next : UInt8} {seen : List LinkStatus}
    {told : List LineEvent}
    (found : (headAfter (showing code next) (turn 1) [] () notifyWorker 2).any
      (fun reached => statuses reached.1 = seen && emitted reached.1 = told) = true) :
    ∃ history worker, Head (showing code next) (turn 1) [] () notifyWorker history () worker ∧
      statuses history = seen ∧ emitted history = told := by
  obtain ⟨⟨history, ⟨⟩, worker⟩, reached, shows⟩ := (Option.any_eq_true _ _).mp found
  simp only [Bool.and_eq_true, decide_eq_true_eq] at shows
  exact ⟨history, worker, head_of_headAfter reached, shows.1, shows.2⟩

/-- A line that comes up is told by two events. -/
theorem emitted_eq_collapse_iff_comingUp : ∃ history : History workerCalls,
    statuses history = [.noSignal, .up] ∧ emitted history = [.down, .up] ∧
      (emitted history = collapse ((statuses history).map linkStatusToEvent) ↔
        (statuses history).IsChain ToldApart) := by
  obtain ⟨history, worker, head, seen, told⟩ := exists_head_of_showing
    (by decide +kernel : (headAfter (showing 0 1) (turn 1) [] () notifyWorker 2).any
      (fun reached => statuses reached.1 = [.noSignal, .up] && emitted reached.1 = [.down, .up])
        = true)
  exact ⟨history, seen, told, emitted_eq_collapse_iff 1 (showing 0 1) _ .default {}
    "/sbin/dsl_notify.sh" history worker head⟩

/-- A status that is not known, after none, is told as a second `DOWN`. -/
theorem not_emitted_eq_collapse_unknownCode :
    ¬ ∀ (fuel : Nat) (oracle : Oracle workerCalls) (board : Settings) (cfg : DslConfig)
      (overrides : CliOverrides) (script : String) (history : History workerCalls)
      (worker : BoardWorker),
      Head oracle (turn fuel) [] () (.new board cfg overrides (some script)) history () worker →
        emitted history = collapse ((statuses history).map linkStatusToEvent) := by
  intro claim
  obtain ⟨history, worker, head, seen, told⟩ := exists_head_of_showing
    (by decide +kernel : (headAfter (showing 0 5) (turn 1) [] () notifyWorker 2).any
      (fun reached => statuses reached.1 = [.noSignal, .unknown 5] &&
        emitted reached.1 = [.down, .down]) = true)
  have same := claim 1 (showing 0 5) _ .default {} "/sbin/dsl_notify.sh" history worker head
  rw [seen, told] at same
  exact absurd same (by decide)

end BoardWorker

end RbctlDsl.Dsl
