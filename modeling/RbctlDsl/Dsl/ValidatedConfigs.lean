import RbctlDsl.Dsl.ReloadConvergence
import RbctlDsl.Dsl.TransportVlan

/-!
# Validated configurations

Which configurations the worker stores and sends.  The one it is started with has been
checked; the ones that it loads later are not checked again, and pass only if the two mode
selectors of the file agree.
-/

namespace RbctlDsl.Dsl

open RbctlDsl.Lib RbctlDsl.Proto

namespace BoardWorker

/-! ## What the worker stores and sends -/

def loaded? : Event workerCalls → Option (Except String Uci)
  | ⟨.loadUci, opened⟩ => some opened
  | _ => none

/-- The configuration that a line command is made from: the one that has been loaded since the
turn began, else the stored one. -/
def inForce (worker : BoardWorker) (earlier : History workerCalls) : Option DslConfig :=
  match (earlier.filterMap loaded?).getLast? with
  | some opened => (DslConfig.load opened worker.overrides).toOption
  | none => some worker.cfg

/-- A command for opcode 1 is for a valid configuration, the one in force. -/
def SendsValid (worker : BoardWorker) (earlier : History workerCalls) (op : WorkerOp) : Prop :=
  ∀ payload, lineCommand? op = some (1, payload) →
    ∃ cfg, inForce worker earlier = some cfg ∧ payload = upPayload cfg ∧ cfg.Valid

/-- In a run of the worker loop, every stored configuration is valid, and so is every one that
is sent. -/
structure ValidOnly (fuel : Nat) (oracle : Oracle workerCalls) (start : BoardWorker)
    (before : History workerCalls) : Prop where
  stored : ∀ history worker,
    Head oracle (turn fuel) before () start history () worker → worker.cfg.Valid
  sent : ∀ history worker, Head oracle (turn fuel) before () start history () worker →
    ∀ earlier event later,
      ((turn fuel () worker).exec oracle history).events = earlier ++ event :: later →
        SendsValid worker earlier event.op

/-- Every reload that comes to a new configuration finds selectors that agree. -/
def ReloadsAgree (fuel : Nat) (oracle : Oracle workerCalls) (start : BoardWorker)
    (before : History workerCalls) : Prop :=
  ∀ history worker, Head oracle (turn fuel) before () start history () worker →
    ∀ newCfg, Reloads oracle history worker newCfg →
      ∀ uci, oracle (reloadRead history) .loadUci = .ok uci →
        SelectorsAgree uci worker.overrides

section Reload

variable {oracle : Oracle workerCalls} {history : History workerCalls} {worker : BoardWorker}
  {newCfg : DslConfig}

/-- The new configuration is valid exactly if the selectors agree. -/
theorem Reloads.valid_iff (reloads : Reloads oracle history worker newCfg) :
    newCfg.Valid ↔ ∀ uci, oracle (reloadRead history) .loadUci = .ok uci →
      SelectorsAgree uci worker.overrides := by
  obtain ⟨uci, opened, built⟩ := bind_eq_ok.mp reloads.loads
  cases read : oracle (reloadRead history) .loadUci with
  | error text =>
      rw [read] at opened
      cases opened
  | ok found =>
      rw [read] at opened
      cases opened
      rw [valid_build_iff built]
      exact ⟨fun agree _ equal => by cases equal; exact agree, fun agree => agree uci rfl⟩

/-- A valid configuration and an invalid one that was loaded differ for the worker. -/
theorem configChanged_of_not_valid (reloads : Reloads oracle history worker newCfg)
    (valid : worker.cfg.Valid) (invalid : ¬ newCfg.Valid) :
    configChanged worker.cfg newCfg = true := by
  by_contra same
  simp only [configChanged, Bool.or_eq_true, bne_iff_ne, ne_eq, not_or, Decidable.not_not]
    at same
  obtain ⟨⟨⟨modulation, _⟩, _⟩, xferMode⟩ := same
  obtain ⟨uci, _, built⟩ := bind_eq_ok.mp reloads.loads
  refine invalid ⟨validateLineConfig_build built, ?_⟩
  rw [← modulation, ← xferMode]
  exact valid.2

end Reload

/-! ## One turn -/

/-- In the turn of a head, against an oracle, only valid configurations are sent. -/
def sendsContract (oracle : Oracle workerCalls) (history : History workerCalls)
    (worker : BoardWorker) : Contract workerCalls where
  may before op := ∀ earlier, before = history ++ earlier → SendsValid worker earlier op
  answers before event := event.answer = oracle before event.op

section Turn

variable {fuel : Nat} {oracle : Oracle workerCalls} {history before : History workerCalls}
  {worker current : BoardWorker}

theorem sendsContract_of_spares {op : WorkerOp} (spares : SparesLine op) :
    (sendsContract oracle history worker).may before op := by
  intro earlier _ payload sends
  rw [spares] at sends
  cases sends

theorem sendsContract_down (retries : UInt8) :
    (sendsContract oracle history worker).may before (.request retries 3 [0x03]) := by
  intro earlier _ payload sends
  cases sends

theorem sendsContract_up {earlier : History workerCalls} {cfg : DslConfig} (retries : UInt8)
    (inForced : inForce worker earlier = some cfg) (valid : cfg.Valid) :
    (sendsContract oracle history worker).may (history ++ earlier)
      (.request retries 1 (upPayload cfg)) := by
  intro earlier' same payload sends
  obtain rfl := List.append_cancel_left same
  cases sends
  exact ⟨cfg, inForced, rfl, valid⟩

theorem safe_valid_of_keepsLine {α : Type} {method : Worker α} (keeps : KeepsLine method)
    (valid : current.cfg.Valid) :
    Safe (sendsContract oracle history worker) (fun _ result => result.2.cfg.Valid)
      (method current) before := by
  have sends : Safe (sendsContract oracle history worker)
      (fun _ result => lineSettings result.2 = lineSettings current) (method current) before :=
    (keeps current before).weaken (fun _ _ => sendsContract_of_spares) (fun _ _ _ => trivial)
      fun _ _ => trivial
  refine sends.mono fun later result same => ?_
  have sameCfg : result.2.cfg = current.cfg := congrArg Prod.fst same
  rwa [sameCfg]

theorem safe_handleRestart_valid (valid : worker.cfg.Valid) {received : Recv} :
    Safe (sendsContract oracle history worker) (fun _ result => result.2.cfg.Valid)
      (handleRestart worker)
      (history ++ [⟨.shouldExit, false⟩] ++ [⟨.recvTimeout workerTick, received⟩]) := by
  rw [handleRestart_apply]
  refine ⟨sendsContract_down _, fun down _ => ?_⟩
  refine ⟨sendsContract_of_spares rfl, fun slept _ => ?_⟩
  refine ⟨?_, fun up _ => valid⟩
  simp only [List.append_assoc]
  exact sendsContract_up _ rfl valid

theorem safe_handleReload_valid (valid : worker.cfg.Valid)
    (goesOn : oracle history .shouldExit = false)
    (reads : oracle (history ++ [⟨.shouldExit, false⟩]) (.recvTimeout workerTick) =
      .command .reload)
    (loadsValid : ∀ newCfg, Reloads oracle history worker newCfg → newCfg.Valid) :
    Safe (sendsContract oracle history worker) (fun _ result => result.2.cfg.Valid)
      (handleReload worker) (reloadRead history) := by
  rw [handleReload_apply]
  refine ⟨sendsContract_of_spares rfl, fun opened answered => ?_⟩
  cases loaded : DslConfig.load opened worker.overrides with
  | error error =>
      simp only [loaded]
      exact valid
  | ok newCfg =>
      have reloads : Reloads oracle history worker newCfg := by
        refine ⟨goesOn, reads, ?_⟩
        rw [← show opened = oracle (reloadRead history) .loadUci from answered]
        exact loaded
      simp only [loaded]
      split
      · rw [reconfigure_apply]
        refine ⟨sendsContract_down _, fun down _ => ⟨?_, fun up _ => ?_⟩⟩
        · have inForced : inForce worker
              ([⟨.shouldExit, false⟩] ++ ([⟨.recvTimeout workerTick, .command .reload⟩] ++
                ([⟨.loadUci, opened⟩] ++ [⟨.request worker.board.retries 3 [0x03], down⟩]))) =
                  some newCfg := by
            change (DslConfig.load opened worker.overrides).toOption = some newCfg
            rw [loaded]
            rfl
          simp only [reloadRead, List.append_assoc]
          exact sendsContract_up _ inForced (loadsValid newCfg reloads)
        · exact ⟨sendsContract_of_spares rfl, fun _ _ => loadsValid newCfg reloads⟩
      · exact valid

/-- A turn keeps the stored configuration valid, if what it reloads is. -/
theorem safe_turn_valid (valid : worker.cfg.Valid)
    (loadsValid : ∀ newCfg, Reloads oracle history worker newCfg → newCfg.Valid) :
    Safe (sendsContract oracle history worker)
      (Method.passOwes (fun _ _ after => after.cfg.Valid) fun _ result => result.2.cfg.Valid)
      (turn fuel () worker) history := by
  apply safe_turn
  · intro earlier op reads valid
    refine ⟨sendsContract_of_spares ?_, fun _ => valid⟩
    rcases reads with rfl | rfl <;> rfl
  · intro cmd goesOn reads valid
    cases cmd with
    | reload => exact safe_handleReload_valid valid goesOn.symm reads.symm loadsValid
    | restartLine => exact safe_handleRestart_valid valid
    | firmwareUpgrade image replyTx =>
        exact safe_valid_of_keepsLine (keepsLine_handleFirmwareUpgrade fuel image replyTx) valid
  · exact fun later after valid => safe_valid_of_keepsLine keepsLine_maybePollBoard valid
  · exact valid

end Turn

/-! ## Whole runs -/

section Runs

variable {fuel : Nat} {oracle : Oracle workerCalls} {start : BoardWorker}
  {before : History workerCalls}

theorem validOnly_of_reloadsAgree (valid : start.cfg.Valid)
    (agree : ReloadsAgree fuel oracle start before) : ValidOnly fuel oracle start before := by
  have safe {history : History workerCalls} {worker : BoardWorker}
      (head : Head oracle (turn fuel) before () start history () worker)
      (valid : worker.cfg.Valid) :
      Safe (sendsContract oracle history worker)
        (Method.passOwes (fun _ _ after => after.cfg.Valid) fun _ result => result.2.cfg.Valid)
        (turn fuel () worker) history :=
    safe_turn_valid valid fun newCfg reloads =>
      reloads.valid_iff.mpr (agree history worker head newCfg reloads)
  have stored : ∀ history worker,
      Head oracle (turn fuel) before () start history () worker → worker.cfg.Valid := by
    intro history worker head
    refine head.invariant (against oracle) (fun _ _ after => after.cfg.Valid)
      (fun _ result => result.2.cfg.Valid) ?_ ?_ valid
    · intro history _ worker head valid
      exact (safe head valid).weaken (fun _ _ _ => trivial) (fun _ _ => id) fun _ _ => trivial
    · exact fun history _ _ _ => Program.exec_along oracle _ history
  refine ⟨stored, fun history worker head earlier event later split => ?_⟩
  have asked := ((safe head (stored history worker head)).exec
    (Program.exec_along oracle _ history)).1
  rw [split] at asked
  exact asked.at earlier rfl

/-- The turn of a reload begins with the handling of the reload. -/
theorem reloadRun_prefix (fuel : Nat) {history : History workerCalls} {worker : BoardWorker}
    {newCfg : DslConfig} (reloads : Reloads oracle history worker newCfg) :
    [⟨.shouldExit, false⟩, ⟨.recvTimeout workerTick, .command .reload⟩] ++
        (reloadRun oracle history worker).events <+:
      ((turn fuel () worker).exec oracle history).events := by
  rw [turn, Method.perform_bind_apply, Program.exec_perform, reloads.goesOn]
  simp only [Bool.false_eq_true, if_false]
  rw [Method.perform_bind_apply, Program.exec_perform, reloads.reads]
  rw [List.cons_append, List.cons_append, List.nil_append, List.cons_prefix_cons,
    List.cons_prefix_cons]
  exact ⟨rfl, rfl, Program.exec_bind_prefix oracle (reloadRead history) (handleReload worker) _⟩

/-- A reload whose selectors disagree is sent, since it differs from what was valid. -/
theorem reloadsAgree_of_validOnly (only : ValidOnly fuel oracle start before) :
    ReloadsAgree fuel oracle start before := by
  intro history worker head newCfg reloads
  rw [← reloads.valid_iff]
  by_contra invalid
  have changed := configChanged_of_not_valid reloads (only.stored history worker head) invalid
  obtain ⟨down, up, events⟩ := reloadRun_changed reloads changed
  obtain ⟨later, split⟩ := reloadRun_prefix fuel reloads
  rw [events] at split
  obtain ⟨cfg, inForced, _, valid⟩ := only.sent history worker head
    [⟨.shouldExit, false⟩, ⟨.recvTimeout workerTick, .command .reload⟩,
      ⟨.loadUci, oracle (reloadRead history) .loadUci⟩,
      ⟨.request worker.board.retries 3 [0x03], down⟩]
    ⟨.request worker.board.retries 1 (upPayload newCfg), up⟩ _ split.symm _ rfl
  change (DslConfig.load (oracle (reloadRead history) .loadUci) worker.overrides).toOption =
    some cfg at inForced
  rw [reloads.loads] at inForced
  cases inForced
  exact invalid valid

/-- Every line command for opcode 1 is sent in a turn of the loop. -/
theorem exists_turn_of_lineUp {event : Event workerCalls} {payload : Bytes}
    (member : event ∈ ((run fuel start).exec oracle before).events)
    (sends : lineCommand? event.op = some (1, payload)) :
    ∃ history worker, Head oracle (turn fuel) before () start history () worker ∧
      event ∈ ((turn fuel () worker).exec oracle history).events := by
  have sparesUp : Keeps (fun op => ∀ payload, lineCommand? op ≠ some (1, payload)) (fun _ => ())
      (callBoard quiet lineConfigDown >>= fun _ => pure () : Worker Unit) := by
    intro worker history
    rw [lineConfigDown, callBoard_exchange_bind]
    refine ⟨fun payload sends => ?_, fun _ _ => rfl⟩
    cases sends
  rw [run, Method.bind_apply, Program.mem_exec_bind] at member
  rcases member with inLoop | ⟨⟨result, after⟩, _, later⟩
  · obtain ⟨history, _, worker, head, found⟩ := exists_head_of_mem inLoop
    exact ⟨history, worker, head, found⟩
  · cases result with
    | error error => cases later
    | ok left =>
        exact absurd sends ((sparesUp _ _).allowed_of_mem oracle event later payload)

end Runs

end BoardWorker

/-! ## From the start of the daemon -/

namespace Daemon

/-- A worker is started with a valid configuration, and the line with one as well. -/
def StartsValid : DaemonOp → Prop
  | .spawnWorker worker => worker.cfg.Valid
  | .request _ subtype payload =>
    subtype = 1 → ∃ cfg, cfg.Valid ∧ payload = BoardWorker.upPayload cfg
  | _ => True

theorem SetUpOp.startsValid {op : DaemonOp} (setsUp : SetUpOp op) : StartsValid op := by
  cases op with
  | request retries subtype payload =>
      obtain ⟨_, cfg, prepared, equal⟩ := setsUp
      exact fun _ => ⟨cfg, prepared.valid, equal⟩
  | spawnWorker worker => cases setsUp
  | _ => trivial

theorem ServeOp.startsValid {overrides : CliOverrides} {cfg : DslConfig} (valid : cfg.Valid)
    {op : DaemonOp} (serves : ServeOp overrides cfg op) : StartsValid op := by
  cases op with
  | request => cases serves
  | spawnWorker worker =>
      obtain ⟨same, _⟩ := serves
      rw [StartsValid, same]
      exact valid
  | _ => trivial

section Start

variable {fuel : Nat} {configIface : String} {notifyScript : Option String}
  {overrides : CliOverrides} {cfg : DslConfig}

theorem keeps_shutdown (parent : String) (vlan : UInt16) :
    Keeps StartsValid (fun _ => ()) (shutdown notifyScript parent vlan) := by
  refine keeps_bind (keeps_notifying notifyScript fun _ => trivial) fun _ => ?_
  refine keeps_bind (keeps_perform trivial) fun _ => ?_
  exact keeps_bind (keeps_perform trivial) fun _ => keeps_perform trivial

theorem keeps_operate (valid : cfg.Valid) :
    Keeps StartsValid (fun _ => ()) (operate fuel configIface notifyScript overrides cfg) := by
  have finished (vlan : UInt16) : Keeps StartsValid (fun _ => ())
      (finish fuel configIface notifyScript overrides cfg vlan) := by
    refine keeps_bind ((keeps_serve fuel notifyScript overrides cfg).mono fun _ =>
      ServeOp.startsValid valid) fun _ => ?_
    exact keeps_bind (keeps_shutdown _ vlan) fun _ => keeps_pure 0
  intro board history
  rw [operate_apply]
  refine ⟨?_, fun reply _ => ⟨trivial, fun _ _ => finished _ board _⟩⟩
  intro isUp
  cases mode : cfg.xferMode <;> simp [linkOpcode, mode] at isUp

/-- The daemon starts nothing with a configuration that has not been checked. -/
theorem safe_run_startsValid {board : Settings} {history : History daemonCalls} :
    Safe (onlyOps StartsValid) (fun _ _ => True)
      (run fuel configIface notifyScript overrides board) history := by
  have prepared : Safe (onlyOps StartsValid)
      (fun _ result => ∀ cfg, result.1 = .ok cfg → Prepared cfg)
      (setUp configIface overrides board) history :=
    (safe_setUp configIface).weaken (fun _ _ => SetUpOp.startsValid) (fun _ _ _ => trivial)
      fun _ _ => trivial
  refine Method.safe_bind prepared ?_ fun _ _ _ _ => trivial
  intro later cfg after checked
  exact (keeps_operate (checked cfg rfl).valid after later).mono fun _ _ _ => trivial

end Start

/-- Whatever the daemon starts its worker with: in the run of the worker, only valid
configurations are stored and sent, exactly if every reload finds selectors that agree. -/
theorem validOnly_iff_reloadsAgree (fuel workerFuel : Nat) (configIface : String)
    (notifyScript : Option String) (overrides : CliOverrides) (board : Settings)
    (oracle : Oracle daemonCalls) (worker : BoardWorker)
    (spawned : ⟨.spawnWorker worker, ()⟩ ∈
      ((run fuel configIface notifyScript overrides board).exec oracle []).events)
    (workerOracle : Oracle workerCalls) (before : History workerCalls) :
    BoardWorker.ValidOnly workerFuel workerOracle worker before ↔
      BoardWorker.ReloadsAgree workerFuel workerOracle worker before := by
  have safe : Safe (onlyOps StartsValid) (fun _ _ => True)
      (run fuel configIface notifyScript overrides board) [] := safe_run_startsValid
  have valid : worker.cfg.Valid := safe.allowed_of_mem oracle _ spawned
  exact ⟨BoardWorker.reloadsAgree_of_validOnly, BoardWorker.validOnly_of_reloadsAgree valid⟩

theorem validOnly_iff_reloadsAgree_annex :
    BoardWorker.ValidOnly 1
        (BoardWorker.reloading (BoardWorker.onlyOption "network.dsl.annex" "a"))
        (.new ⟨2000, 3⟩ .default {} none) [] ↔
      BoardWorker.ReloadsAgree 1
        (BoardWorker.reloading (BoardWorker.onlyOption "network.dsl.annex" "a"))
        (.new ⟨2000, 3⟩ .default {} none) [] := by
  refine validOnly_iff_reloadsAgree 1 1 "lan0.500" none {} ⟨2000, 3⟩ (assigning 2000) _ ?_ _ _
  exact List.mem_of_getElem? (show _[9]? = _ from rfl)

/-- A file with a line mode and a transfer mode that do not go together. -/
def conflicting : Uci := fun key =>
  if key = "network.dsl.line_mode" then some "vdsl"
  else if key = "network.dsl.xfer_mode" then some "atm"
  else none

/-- A reload of such a file stores VDSL2 with ATM. -/
theorem not_validOnly_conflicting :
    ¬ ∀ (fuel workerFuel : Nat) (configIface : String) (notifyScript : Option String)
      (overrides : CliOverrides) (board : Settings) (oracle : Oracle daemonCalls)
      (worker : BoardWorker),
      ⟨.spawnWorker worker, ()⟩ ∈
        ((run fuel configIface notifyScript overrides board).exec oracle []).events →
      ∀ (workerOracle : Oracle workerCalls) (before : History workerCalls),
        BoardWorker.ValidOnly workerFuel workerOracle worker before := by
  intro claim
  have only := claim 1 1 "lan0.500" none {} ⟨2000, 3⟩ (assigning 2000)
    (.new ⟨2000, 3⟩ .default {} none) (List.mem_of_getElem? (show _[9]? = _ from rfl))
    (BoardWorker.reloading conflicting) []
  have agree := BoardWorker.reloadsAgree_of_validOnly only [] _ .first
    { DslConfig.default with xferMode := .atm, atm := some ⟨8, 35, .llc, .eoa, .ubr, 0⟩ }
    ⟨rfl, rfl, by rfl⟩ conflicting rfl "atm" rfl
  exact absurd (agree.mp (by decide)) (by decide)

end Daemon

end RbctlDsl.Dsl
