import RbctlDsl.Dsl.BoardWorker
import RbctlDsl.Lib.Frame
import RbctlDsl.Lib.Heads

/-!
# Line commands

What the methods of the worker do to the line.  Only a reload and a restart send opcode 1
and 3, and only a reload changes the configuration that they are made from.
-/

namespace RbctlDsl.Dsl

open RbctlDsl.Lib RbctlDsl.Proto

namespace BoardWorker

/-- The line command that an operation is: opcode 1 or 3 with its payload. -/
def lineCommand? : WorkerOp → Option (UInt8 × Bytes)
  | .request _ subtype payload =>
    if subtype = 1 ∨ subtype = 3 then some (subtype, payload) else none
  | _ => none

/-- An operation that is no line command. -/
def SparesLine (op : WorkerOp) : Prop := lineCommand? op = none

/-- The settings that the line commands are made from. -/
def lineSettings (worker : BoardWorker) : DslConfig × CliOverrides :=
  (worker.cfg, worker.overrides)

/-- A method that leaves the line and its settings alone. -/
abbrev KeepsLine {α : Type} (method : Worker α) : Prop := Keeps SparesLine lineSettings method

/-- A request for one opcode. -/
def RequestFor (opcode : UInt8) : BoardOp → Prop
  | .request _ subtype _ => subtype = opcode
  | .progress _ => True

section Requests

theorem keeps_ask {τ : Type} {view : Settings → τ} (opcode : UInt8) (payload : Bytes) :
    Keeps (RequestFor opcode) view (ask opcode payload) := by
  refine keeps_bind keeps_read fun board => ?_
  refine keeps_bind (keeps_perform rfl) fun answer => ?_
  cases answer with
  | ok reply => exact keeps_pure reply
  | error error => exact keeps_fail error

theorem keeps_exchange {α τ : Type} {view : Settings → τ} (opcode : UInt8) (payload : Bytes)
    (decode : Bytes → Except BoardError α) :
    Keeps (RequestFor opcode) view (exchange opcode payload decode) := by
  refine keeps_bind (keeps_ask opcode payload) fun reply => ?_
  cases decode (stripEcho reply opcode) with
  | ok value => exact keeps_pure value
  | error error => exact keeps_fail error

theorem keeps_notify (opcode : UInt8) (update : FwProgress) :
    Keeps (RequestFor opcode) (fun _ => ()) (notify update) :=
  fun _ _ => ⟨trivial, fun _ _ => rfl⟩

theorem keeps_rejectStatus (saved : Settings) (reason : String) (data : Bytes) :
    Keeps (RequestFor 8) (fun _ => ()) (rejectStatus saved reason data) := by
  unfold rejectStatus
  cases replyWord data with
  | none => exact keeps_pure ()
  | some status =>
      exact keeps_ite (keeps_bind (keeps_update fun _ => rfl) fun _ => keeps_fail _)
        (keeps_pure ())

theorem keeps_statusStage (saved : Settings) (timeout : Nat) (retries : UInt8)
    (payload : Bytes) (reason : String) (stage : UInt8) :
    Keeps (RequestFor 8) (fun _ => ())
      (statusStage saved timeout retries payload reason stage) := by
  refine keeps_bind (keeps_update fun _ => rfl) fun _ => ?_
  refine keeps_bind (keeps_ask 8 payload) fun resp => ?_
  exact keeps_bind (keeps_rejectStatus saved reason _) fun _ => keeps_notify 8 _

theorem keeps_streamPass (image : Bytes) (total : UInt32) (cursor : Cursor) :
    Keeps (RequestFor 8) (fun _ => ()) (streamPass image total cursor) := by
  refine keeps_ite ?_ (keeps_pure _)
  refine keeps_bind (keeps_orPanic _ _) fun chunk => ?_
  refine keeps_bind (keeps_ask 8 _) fun resp => ?_
  exact keeps_ite (keeps_bind (keeps_notify 8 _) fun _ => keeps_pure _) (keeps_pure _)

/-- An upgrade makes requests for opcode 8 only. -/
theorem keeps_firmwareUpgrade (fuel : Nat) (image : Bytes) :
    Keeps (RequestFor 8) (fun _ => ()) (firmwareUpgrade fuel image) := by
  refine keeps_bind keeps_read fun saved => ?_
  refine keeps_bind (keeps_statusStage _ _ _ _ _ _) fun _ => ?_
  refine keeps_bind (keeps_bind (keeps_update fun _ => rfl) fun _ => ?_) fun _ => ?_
  · exact keeps_iterate (keeps_streamPass image _) fuel _
  refine keeps_bind (keeps_statusStage _ _ _ _ _ _) fun _ => ?_
  refine keeps_bind (keeps_update fun _ => rfl) fun _ => ?_
  refine keeps_bind (keeps_ask 8 _) fun resp => ?_
  refine keeps_bind (keeps_notify 8 _) fun _ => ?_
  exact keeps_bind (keeps_update fun _ => rfl) fun _ => keeps_pure _

end Requests

/-- A view of the worker that does not show its board. -/
def HidesBoard {τ : Type} (view : BoardWorker → τ) : Prop :=
  ∀ worker board, view { worker with board := board } = view worker

/-- A typed method of the board keeps what its requests and its progress keep. -/
theorem keeps_callBoard {α τ : Type} {progress : FwProgress → Worker Unit} {method : Typed α}
    {opcode : UInt8} {allowed : WorkerOp → Prop} {view : BoardWorker → τ}
    (hides : HidesBoard view) (asked : Keeps (RequestFor opcode) (fun _ => ()) method)
    (requests : ∀ retries payload, allowed (.request retries opcode payload))
    (reports : ∀ update, Keeps allowed view (progress update)) :
    Keeps allowed view (callBoard progress method) := by
  have each : ∀ op, RequestFor opcode op → Keeps allowed view (boardHandler progress op) := by
    intro op isFor
    cases op with
    | request retries subtype payload =>
        obtain rfl : subtype = opcode := isFor
        exact keeps_perform (requests retries payload)
    | progress update => exact reports update
  refine keeps_bind keeps_read fun worker => ?_
  have safe := (asked worker.board []).mono fun _ _ _ => trivial
  refine keeps_bind (keeps_interp each safe) fun result => ?_
  exact keeps_bind (keeps_update fun worker => hides worker _) fun _ => keeps_pure _

/-! ## An upgrade -/

/-- The operations of an upgrade after its start. -/
def UploadOp : WorkerOp → Prop
  | .request _ subtype _ => subtype = 8
  | .sendFwEvent .. | .setFwStatus (.upgradingProgress ..) => True
  | _ => False

theorem keeps_upload {τ : Type} {view : BoardWorker → τ} (hides : HidesBoard view) (fuel : Nat)
    (image : Bytes) (replyTx : Nat) :
    Keeps UploadOp view (callBoard (reportProgress replyTx) (firmwareUpgrade fuel image)) := by
  refine keeps_callBoard hides (keeps_firmwareUpgrade fuel image) (fun _ _ => rfl)
    fun update => ?_
  exact keeps_bind (keeps_perform trivial) fun _ => keeps_perform trivial

/-- The operations of a command to upgrade. -/
def FirmwareOp : WorkerOp → Prop
  | .request _ subtype _ => subtype = 8
  | .sendFwEvent .. | .setFwStatus _ => True
  | _ => False

theorem UploadOp.firmwareOp {op : WorkerOp} (uploads : UploadOp op) : FirmwareOp op := by
  cases op with
  | request retries subtype payload => exact uploads
  | sendFwEvent | setFwStatus => trivial
  | shouldExit | recvTimeout | loadUci | sleep | now | publishConfig | publishLine | emitStatus
  | emitTcLayer => cases uploads

theorem FirmwareOp.sparesLine {op : WorkerOp} (upgrades : FirmwareOp op) : SparesLine op := by
  cases op with
  | request retries subtype payload =>
      obtain rfl : subtype = 8 := upgrades
      rfl
  | _ => rfl

theorem keeps_handleFirmwareUpgrade {τ : Type} {view : BoardWorker → τ} (hides : HidesBoard view)
    (fuel : Nat) (image : Bytes) (replyTx : Nat) :
    Keeps FirmwareOp view (handleFirmwareUpgrade fuel image replyTx) := by
  refine keeps_bind (keeps_perform trivial) fun _ => ?_
  refine keeps_bind ((keeps_upload hides fuel image replyTx).mono fun _ => UploadOp.firmwareOp)
    fun result => ?_
  cases result with
  | ok result => exact keeps_bind (keeps_perform trivial) fun _ => keeps_perform trivial
  | error error => exact keeps_bind (keeps_perform trivial) fun _ => keeps_perform trivial

theorem keepsLine_handleFirmwareUpgrade (fuel : Nat) (image : Bytes) (replyTx : Nat) :
    KeepsLine (handleFirmwareUpgrade fuel image replyTx) := by
  have hides : HidesBoard lineSettings := fun _ _ => rfl
  exact (keeps_handleFirmwareUpgrade hides fuel image replyTx).mono fun _ => FirmwareOp.sparesLine

/-! ## A poll -/

/-- The operations of a poll. -/
def PollOp : WorkerOp → Prop
  | .request _ subtype _ => subtype = 2
  | .now | .publishLine .. | .emitStatus .. | .emitTcLayer .. => True
  | _ => False

theorem PollOp.sparesLine {op : WorkerOp} (polls : PollOp op) : SparesLine op := by
  cases op with
  | request retries subtype payload =>
      obtain rfl : subtype = 2 := polls
      rfl
  | _ => rfl

/-- A part of a poll. -/
abbrev KeepsPoll {α : Type} (method : Worker α) : Prop := Keeps PollOp lineSettings method

theorem keepsPoll_pollDue : KeepsPoll pollDue := by
  refine keeps_bind keeps_read fun worker => ?_
  cases worker.lastPoll with
  | none => exact keeps_pure true
  | some last => exact keeps_bind (keeps_perform trivial) fun _ => keeps_pure _

theorem keepsPoll_trackUptime (status : LinkStatus) : KeepsPoll (trackUptime status) := by
  refine keeps_bind keeps_read fun worker => ?_
  refine keeps_ite ?_ (keeps_update fun _ => rfl)
  cases worker.upSince with
  | none => exact keeps_bind (keeps_perform trivial) fun _ => keeps_update fun _ => rfl
  | some since => exact keeps_pure ()

theorem keepsPoll_uptimeSecs : KeepsPoll uptimeSecs := by
  refine keeps_bind keeps_read fun worker => ?_
  cases worker.upSince with
  | none => exact keeps_pure 0
  | some since => exact keeps_bind (keeps_perform trivial) fun _ => keeps_pure _

theorem keepsPoll_notifying {op : String → workerCalls.Op}
    (polls : ∀ script, PollOp (op script)) : KeepsPoll (notifying op) := by
  refine keeps_bind keeps_read fun worker => ?_
  cases worker.notifyScript with
  | none => exact keeps_pure ()
  | some script => exact keeps_bind (keeps_perform (polls script)) fun _ => keeps_pure ()

theorem keepsPoll_announce (status : LinkStatus) : KeepsPoll (announce status) := by
  refine keeps_bind keeps_read fun worker => ?_
  refine keeps_ite ?_ (keeps_pure ())
  refine keeps_bind (keepsPoll_notifying fun _ => trivial) fun _ => ?_
  refine keeps_ite (keeps_bind (keepsPoll_notifying fun _ => trivial) fun _ => ?_) ?_
  · exact keeps_bind (keeps_update fun _ => rfl) fun _ => keeps_update fun _ => rfl
  · exact keeps_update fun _ => rfl

theorem keepsPoll_maybePollBoard : KeepsPoll maybePollBoard := by
  refine keeps_bind keepsPoll_pollDue fun due => ?_
  refine keeps_ite ?_ (keeps_pure ())
  refine keeps_bind (keeps_perform trivial) fun now => ?_
  refine keeps_bind (keeps_update fun _ => rfl) fun _ => ?_
  have polled : KeepsPoll (callBoard quiet getLineObj) :=
    keeps_callBoard (fun _ _ => rfl) (keeps_exchange 2 _ _) (fun _ _ => rfl) fun _ =>
      keeps_pure ()
  refine keeps_bind polled fun result => ?_
  cases result with
  | error error => exact keeps_pure ()
  | ok line =>
      refine keeps_bind (keepsPoll_trackUptime _) fun _ => ?_
      refine keeps_bind keepsPoll_uptimeSecs fun uptime => ?_
      refine keeps_bind keeps_read fun worker => ?_
      exact keeps_bind (keeps_perform trivial) fun _ => keepsPoll_announce _

/-- A poll leaves the line and its settings alone. -/
theorem keepsLine_maybePollBoard : KeepsLine maybePollBoard :=
  keepsPoll_maybePollBoard.mono fun _ => PollOp.sparesLine

/-! ## Reload and restart -/

/-- The payload of opcode 1. -/
def upPayload (cfg : DslConfig) : Bytes :=
  0x01 :: packDslLine cfg.modulation cfg.annex cfg.bitswap cfg.sra cfg.profiles

/-- A typed method with one request makes one request. -/
theorem callBoard_exchange {α : Type} (progress : FwProgress → Worker Unit) (opcode : UInt8)
    (payload : Bytes) (decode : Bytes → Except BoardError α) (worker : BoardWorker) :
    callBoard progress (exchange opcode payload decode) worker =
      .perform (.request worker.board.retries opcode payload) fun reply =>
        .pure (.ok (reply.bind fun r => decode (stripEcho r opcode)), worker) := by
  rw [callBoard, callTyped, Method.bind_apply, Method.read_apply, Program.pure_bind,
    Method.resume_ok, Method.bind_apply, exchange_apply, Program.interp_perform]
  rfl

theorem callBoard_exchange_bind {α β : Type} (progress : FwProgress → Worker Unit)
    (opcode : UInt8) (payload : Bytes) (decode : Bytes → Except BoardError α)
    (next : Except BoardError α → Worker β) (worker : BoardWorker) :
    (callBoard progress (exchange opcode payload decode) >>= next) worker =
      .perform (.request worker.board.retries opcode payload) fun reply =>
        next (reply.bind fun r => decode (stripEcho r opcode)) worker := by
  rw [Method.bind_apply, callBoard_exchange]
  rfl

theorem reconfigure_apply (newCfg : DslConfig) (worker : BoardWorker) :
    reconfigure newCfg worker =
      .perform (.request worker.board.retries 3 [0x03]) fun _ =>
        .perform (.request worker.board.retries 1 (upPayload newCfg)) fun _ =>
          .perform (.publishConfig newCfg.xferMode newCfg.modulation newCfg.annex) fun _ =>
            .pure (.ok (), { worker with cfg := newCfg, tcEmitted := false }) := by
  rw [reconfigure, lineConfigDown, callBoard_exchange_bind]
  congr
  funext down
  rw [DslConfig.lineUp, lineConfigUp, callBoard_exchange_bind]
  rfl

theorem handleReload_apply (worker : BoardWorker) :
    handleReload worker = .perform .loadUci fun opened =>
      match DslConfig.load opened worker.overrides with
      | .error _ => .pure (.ok (), worker)
      | .ok newCfg =>
        if configChanged worker.cfg newCfg then reconfigure newCfg worker
        else .pure (.ok (), worker) := by
  rw [handleReload, Method.perform_bind_apply]
  congr
  funext opened
  rw [Method.bind_apply, Method.read_apply, Program.pure_bind, Method.resume_ok]
  cases DslConfig.load opened worker.overrides with
  | error error => rfl
  | ok newCfg => exact Method.ite_apply _ _ _ _

theorem handleRestart_apply (worker : BoardWorker) :
    handleRestart worker =
      .perform (.request worker.board.retries 3 [0x03]) fun _ =>
        .perform (.sleep 1000) fun _ =>
          .perform (.request worker.board.retries 1 (upPayload worker.cfg)) fun _ =>
            .pure (.ok (), { worker with tcEmitted := false }) := by
  rw [handleRestart, lineConfigDown, callBoard_exchange_bind]
  congr
  funext down
  rw [Method.perform_bind_apply]
  congr
  funext slept
  rw [Method.bind_apply, Method.read_apply, Program.pure_bind, Method.resume_ok,
    DslConfig.lineUp, lineConfigUp, callBoard_exchange_bind]
  rfl

/-- The operations of a reload and of a restart. -/
def LineOp : WorkerOp → Prop
  | .request _ subtype _ => subtype = 1 ∨ subtype = 3
  | .loadUci | .sleep _ | .publishConfig .. => True
  | _ => False

/-- A view of the worker that does not show what a reload and a restart change. -/
def HidesLine {τ : Type} (view : BoardWorker → τ) : Prop :=
  ∀ worker board cfg tcEmitted,
    view { worker with board := board, cfg := cfg, tcEmitted := tcEmitted } = view worker

section Keeps

variable {τ : Type} {view : BoardWorker → τ}

theorem keeps_lineExchange {α : Type} (hides : HidesLine view) {opcode : UInt8}
    (isLine : opcode = 1 ∨ opcode = 3) (payload : Bytes) (decode : Bytes → Except BoardError α) :
    Keeps LineOp view (callBoard quiet (exchange opcode payload decode)) :=
  keeps_callBoard (fun worker board => hides worker board worker.cfg worker.tcEmitted)
    (keeps_exchange opcode payload decode) (fun _ _ => isLine) fun _ => keeps_pure ()

theorem keeps_reconfigure (hides : HidesLine view) (newCfg : DslConfig) :
    Keeps LineOp view (reconfigure newCfg) := by
  refine keeps_bind (keeps_lineExchange hides (.inr rfl) _ _) fun _ => ?_
  refine keeps_bind (keeps_lineExchange hides (.inl rfl) _ _) fun _ => ?_
  refine keeps_bind (keeps_update fun worker => hides worker _ newCfg worker.tcEmitted) fun _ => ?_
  refine keeps_bind (keeps_bind keeps_read fun _ => keeps_perform trivial) fun _ => ?_
  exact keeps_update fun worker => hides worker _ worker.cfg false

theorem keeps_handleReload (hides : HidesLine view) : Keeps LineOp view handleReload := by
  refine keeps_bind (keeps_perform trivial) fun opened => ?_
  refine keeps_bind keeps_read fun worker => ?_
  cases DslConfig.load opened worker.overrides with
  | error error => exact keeps_pure ()
  | ok newCfg => exact keeps_ite (keeps_reconfigure hides newCfg) (keeps_pure ())

theorem keeps_handleRestart (hides : HidesLine view) : Keeps LineOp view handleRestart := by
  refine keeps_bind (keeps_lineExchange hides (.inr rfl) _ _) fun _ => ?_
  refine keeps_bind (keeps_perform trivial) fun _ => ?_
  refine keeps_bind keeps_read fun worker => ?_
  refine keeps_bind (keeps_lineExchange hides (.inl rfl) _ _) fun _ => ?_
  exact keeps_update fun worker => hides worker _ worker.cfg false

end Keeps

/-! ## A turn -/

/-- A turn keeps what its reads, its command and its poll keep. -/
theorem safe_turn {contract : Contract workerCalls}
    {holds : History workerCalls → BoardWorker → Prop} {fuel : Nat}
    {history : History workerCalls} {worker : BoardWorker}
    (reads : ∀ earlier op, op = .shouldExit ∨ op = .recvTimeout workerTick →
      holds earlier worker →
        contract.may earlier op ∧ ∀ answer, holds (earlier ++ [⟨op, answer⟩]) worker)
    (handles : ∀ cmd, contract.answers history ⟨.shouldExit, false⟩ →
      contract.answers (history ++ [⟨.shouldExit, false⟩])
        ⟨.recvTimeout workerTick, .command cmd⟩ →
      holds (history ++ [⟨.shouldExit, false⟩] ++ [⟨.recvTimeout workerTick, .command cmd⟩])
        worker →
      Safe contract (fun later result => holds later result.2) (handle fuel cmd worker)
        (history ++ [⟨.shouldExit, false⟩] ++ [⟨.recvTimeout workerTick, .command cmd⟩]))
    (polls : ∀ later after, holds later after →
      Safe contract (fun later result => holds later result.2) (maybePollBoard after) later)
    (start : holds history worker) :
    Safe contract
      (Method.passOwes (fun later _ after => holds later after)
        fun later result => holds later result.2)
      (turn fuel () worker) history := by
  -- what every turn ends with
  have polled {later : History workerCalls} {after : BoardWorker} (here : holds later after) :
      Safe contract
        (Method.passOwes (fun later _ after => holds later after)
          fun later result => holds later result.2)
        ((maybePollBoard >>= fun _ => pure (.inl ()) : Worker (Unit ⊕ Unit)) after) later :=
    Method.safe_bind (polls later after here) (fun _ _ _ kept => kept) fun _ _ _ kept => kept
  obtain ⟨asks, asked⟩ := reads history .shouldExit (.inl rfl) start
  refine Method.safe_perform_bind.mpr ⟨asks, fun exit goesOn => ?_⟩
  cases exit with
  | true => exact asked true
  | false =>
      obtain ⟨receives, read⟩ := reads _ (.recvTimeout workerTick) (.inr rfl) (asked false)
      refine Method.safe_perform_bind.mpr ⟨receives, fun received arrives => ?_⟩
      cases received with
      | timeout => exact polled (read .timeout)
      | disconnected => exact read .disconnected
      | command cmd =>
          exact Method.safe_bind (handles cmd goesOn arrives (read (.command cmd)))
            (fun _ _ _ kept => polled kept) fun _ _ _ kept => kept

end BoardWorker

end RbctlDsl.Dsl
