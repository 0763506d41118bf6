import RbctlDsl.Dsl.Daemon
import RbctlDsl.Dsl.LineCommands

/-!
# The start of the daemon

What each part of the main thread does, up to the control loop: the configuration that the
worker is started with has passed both checks, and requests are made before that only.
-/

namespace RbctlDsl.Dsl

open RbctlDsl.Lib RbctlDsl.Proto

namespace Daemon

/-- A configuration that the daemon goes on with. -/
structure Prepared (cfg : DslConfig) : Prop where
  valid : cfg.Valid
  transportVlanBase : cfg.transportVlanBase ≤ 7

/-- The operations up to the link-add.  The only request is the line command, for a
configuration that goes on. -/
def SetUpOp : DaemonOp → Prop
  | .request _ subtype payload =>
    subtype = 1 ∧ ∃ cfg, Prepared cfg ∧ payload = BoardWorker.upPayload cfg
  | .loadUci | .ifaceExists _ | .openSocket _ => True
  | _ => False

/-- The operations of the control loop and before it.  The worker that is spawned has this
configuration. -/
def ServeOp (overrides : CliOverrides) (cfg : DslConfig) : DaemonOp → Prop
  | .spawnWorker worker => worker.cfg = cfg ∧ worker.overrides = overrides
  | .request .. | .createVlan .. | .deleteVlan .. | .waitWorker _ => False
  | _ => True

section Parts

variable {overrides : CliOverrides} {cfg : DslConfig} {board : Settings}
  {history : History daemonCalls}

theorem validateConfig_iff (cfg : DslConfig) : validateConfig cfg = .ok () ↔ cfg.Valid := by
  rw [validateConfig, bind_eq_ok, DslConfig.Valid]
  constructor
  · rintro ⟨_, line, xfer⟩
    exact ⟨line, xfer⟩
  · rintro ⟨line, xfer⟩
    exact ⟨(), line, xfer⟩

theorem transportVlanBase_loadOrDefault (opened : Except String Uci) :
    (loadOrDefault opened overrides).transportVlanBase ≤ 7 := by
  unfold loadOrDefault
  cases loaded : DslConfig.load opened overrides with
  | error error =>
      have zero : DslConfig.default.transportVlanBase ≤ 7 := by decide
      exact zero
  | ok cfg =>
      obtain ⟨uci, _, built⟩ := bind_eq_ok.mp loaded
      exact (built_of_build built).transportVlanBase

theorem callBoard_exchange {α : Type} (opcode : UInt8) (payload : Bytes)
    (decode : Bytes → Except BoardError α) :
    callBoard (exchange opcode payload decode) board =
      .perform (.request board.retries opcode payload) fun reply =>
        .pure (.ok (reply.bind fun r => decode (stripEcho r opcode)), board) := by
  rw [callBoard, callTyped, Method.bind_apply, Method.read_apply, Program.pure_bind,
    Method.resume_ok, Method.bind_apply, exchange_apply, Program.interp_perform]
  rfl

theorem configure_apply :
    configure overrides board = .perform .loadUci fun opened =>
      match validateConfig (loadOrDefault opened overrides) with
      | .ok () => .pure (.ok (loadOrDefault opened overrides), board)
      | .error _ => .pure (.error 1, board) := by
  rw [configure, Method.perform_bind_apply]
  congr
  funext opened
  cases validateConfig (loadOrDefault opened overrides) with
  | ok passed => rfl
  | error error => rfl

/-- The configuration that is checked is the one that goes on. -/
theorem safe_configure :
    Safe (onlyOps SetUpOp) (fun _ result => ∀ cfg, result.1 = .ok cfg → Prepared cfg)
      (configure overrides board) history := by
  rw [configure_apply]
  refine ⟨trivial, fun opened _ => ?_⟩
  cases checked : validateConfig (loadOrDefault opened overrides) with
  | error error =>
      simp only [checked]
      intro cfg equal
      cases equal
  | ok passed =>
      simp only [checked]
      intro cfg equal
      cases equal
      exact ⟨(validateConfig_iff _).mp checked, transportVlanBase_loadOrDefault opened⟩

theorem keeps_openBoard (configIface : String) :
    Keeps SetUpOp (fun _ => ()) (openBoard configIface) := by
  refine keeps_bind (keeps_perform trivial) fun present => ?_
  refine keeps_ite ?_ (keeps_fail 1)
  refine keeps_bind (keeps_perform trivial) fun opened => ?_
  cases opened with
  | ok socket => exact keeps_update fun _ => rfl
  | error error => exact keeps_fail 1

/-- Whatever the daemon goes on with has passed the checks. -/
theorem safe_setUp (configIface : String) :
    Safe (onlyOps SetUpOp) (fun _ result => ∀ cfg, result.1 = .ok cfg → Prepared cfg)
      (setUp configIface overrides board) history := by
  have stops (error : Nat) : ∀ cfg,
      (Except.error error : Except Nat DslConfig) = .ok cfg → Prepared cfg := by
    intro cfg equal
    cases equal
  refine Method.safe_bind safe_configure ?_ fun _ _ _ holds => holds
  intro later cfg after prepared
  refine Method.safe_bind (keeps_openBoard configIface after later) ?_
    fun _ error _ _ => stops error
  intro later _ after _
  have up : Safe (onlyOps SetUpOp) (fun _ _ => True) (callBoard cfg.lineUp after) later := by
    rw [DslConfig.lineUp, lineConfigUp, callBoard_exchange]
    exact ⟨⟨rfl, cfg, prepared cfg rfl, rfl⟩, fun _ _ => trivial⟩
  refine Method.safe_bind up ?_ fun _ error _ _ => stops error
  intro later _ after _ found equal
  cases equal
  exact prepared cfg rfl

theorem keeps_notifying (notifyScript : Option String) {op : String → daemonCalls.Op}
    {allowed : DaemonOp → Prop} (each : ∀ script, allowed (op script)) :
    Keeps allowed (fun _ => ()) (notifying notifyScript op) := by
  cases notifyScript with
  | none => exact keeps_pure ()
  | some script => exact keeps_bind (keeps_perform (each script)) fun _ => keeps_pure ()

theorem keeps_serveIpc : Keeps (ServeOp overrides cfg) (fun _ => ()) serveIpc := by
  refine keeps_bind (keeps_perform trivial) fun accepted => ?_
  match accepted with
  | .ok (some .reload) | .ok (some .restartLine) => exact keeps_perform trivial
  | .ok (some .stop) | .ok (some (.firmwareUpgrade _ _)) => exact keeps_perform trivial
  | .ok (some .none) | .ok none | .error _ => exact keeps_pure ()

theorem keeps_when {condition : Bool} {method : Daemon Unit}
    (keeps : Keeps (ServeOp overrides cfg) (fun _ => ()) method) :
    Keeps (ServeOp overrides cfg) (fun _ => ()) (when condition method) :=
  keeps_ite keeps (keeps_pure ())

theorem keeps_controlTurn (ipc ubus : Bool) (locals : Unit) :
    Keeps (ServeOp overrides cfg) (fun _ => ()) (controlTurn ipc ubus locals) := by
  refine keeps_bind (keeps_perform trivial) fun exit => ?_
  refine keeps_ite (keeps_pure _) ?_
  refine keeps_bind (keeps_perform trivial) fun reload => ?_
  refine keeps_bind (keeps_when (keeps_perform trivial)) fun _ => ?_
  refine keeps_bind (keeps_perform trivial) fun restart => ?_
  refine keeps_bind (keeps_when (keeps_perform trivial)) fun _ => ?_
  refine keeps_bind (keeps_when keeps_serveIpc) fun _ => ?_
  refine keeps_bind (keeps_when (keeps_perform trivial)) fun _ => ?_
  exact keeps_bind (keeps_perform trivial) fun _ => keeps_pure _

theorem keeps_serve (fuel : Nat) (notifyScript : Option String) (overrides : CliOverrides)
    (cfg : DslConfig) :
    Keeps (ServeOp overrides cfg) (fun _ => ()) (serve fuel notifyScript overrides cfg) := by
  refine keeps_bind (keeps_perform trivial) fun ipc => ?_
  refine keeps_bind (keeps_perform trivial) fun _ => ?_
  refine keeps_bind (keeps_perform trivial) fun ubus => ?_
  refine keeps_bind (keeps_notifying notifyScript fun _ => trivial) fun _ => ?_
  refine keeps_bind keeps_read fun board => ?_
  refine keeps_bind (keeps_perform ⟨rfl, rfl⟩) fun _ => ?_
  exact keeps_iterate (keeps_controlTurn ipc ubus) fuel ()

end Parts

end Daemon

end RbctlDsl.Dsl
