import RbctlDsl.Dsl.LineCommands

/-!
# Reload convergence

Whether the board has the configuration that a reload has loaded.  The worker compares the
new configuration with the one it stored, which is the one it last sent, but neither with
what the board acknowledged nor in all the fields that are sent.
-/

namespace RbctlDsl.Dsl

open RbctlDsl.Lib RbctlDsl.Proto

namespace BoardWorker

/-! ## What the board was sent, and what it acknowledged -/

def isLine (event : Event workerCalls) : Bool := (lineCommand? event.op).isSome

/-- An answer that is a reply to a request, and one of the kind that acknowledges it. -/
def acknowledged (acks : UInt8 → Bytes → Bool) : Event workerCalls → Bool
  | ⟨.request _ subtype _, .ok reply⟩ => acks subtype reply
  | _ => false

/-- The last line command that was sent. -/
def lastLine (history : History workerCalls) : Option (Event workerCalls) :=
  (history.filter isLine).getLast?

/-- The last line command that the board acknowledged. -/
def lastAcked (acks : UInt8 → Bytes → Bool) (history : History workerCalls) :
    Option (Event workerCalls) :=
  (history.filter fun event => isLine event && acknowledged acks event).getLast?

/-- The command is opcode 1 with the fields of a configuration. -/
def Configures (event : Event workerCalls) (cfg : DslConfig) : Prop :=
  lineCommand? event.op = some (1, upPayload cfg)

/-- The last line command that the board acknowledged is opcode 1 for this configuration. -/
def BoardHolds (acks : UInt8 → Bytes → Bool) (history : History workerCalls)
    (cfg : DslConfig) : Prop :=
  ∃ event, lastAcked acks history = some event ∧ Configures event cfg

/-- The last line command was acknowledged. -/
def LineSettled (acks : UInt8 → Bytes → Bool) (history : History workerCalls) : Prop :=
  ∃ event, lastLine history = some event ∧ acknowledged acks event = true

/-- The stored configuration is the one that was sent last. -/
def Synced (history : History workerCalls) (worker : BoardWorker) : Prop :=
  ∃ event, lastLine history = some event ∧ Configures event worker.cfg

section Histories

variable {acks : UInt8 → Bytes → Bool} {history events : History workerCalls}
  {event : Event workerCalls}

theorem isLine_eq_false (spares : SparesLine event.op) : isLine event = false := by
  rw [isLine, spares]
  rfl

theorem lastLine_append (spared : ∀ event ∈ events, SparesLine event.op) :
    lastLine (history ++ events) = lastLine history := by
  have none : events.filter isLine = [] :=
    List.filter_eq_nil_iff.mpr fun event member =>
      Bool.eq_false_iff.mp (isLine_eq_false (spared event member))
  rw [lastLine, List.filter_append, none, List.append_nil, lastLine]

theorem lastAcked_append (spared : ∀ event ∈ events, SparesLine event.op) :
    lastAcked acks (history ++ events) = lastAcked acks history := by
  have none : (events.filter fun event => isLine event && acknowledged acks event) = [] :=
    List.filter_eq_nil_iff.mpr fun event member => by
      rw [isLine_eq_false (spared event member), Bool.false_and]
      exact Bool.false_ne_true
  rw [lastAcked, List.filter_append, none, List.append_nil, lastAcked]

theorem lastLine_snoc (line : isLine event = true) :
    lastLine (history ++ [event]) = some event := by
  simp [lastLine, List.filter_append, line]

theorem lastAcked_snoc (line : isLine event = true) (acked : acknowledged acks event = true) :
    lastAcked acks (history ++ [event]) = some event := by
  simp [lastAcked, List.filter_append, line, acked]

theorem Configures.isLine {cfg : DslConfig} (configures : Configures event cfg) :
    isLine event = true := by
  rw [BoardWorker.isLine, configures]
  rfl

/-- A last line command that was acknowledged is the last one that was. -/
theorem lastAcked_eq_lastLine (found : lastLine history = some event)
    (acked : acknowledged acks event = true) : lastAcked acks history = some event := by
  have split : (history.filter fun event => isLine event && acknowledged acks event) =
      (history.filter isLine).filter (acknowledged acks) := by
    rw [List.filter_filter]
    congr 1
    funext event
    exact Bool.and_comm _ _
  obtain ⟨earlier, lines⟩ := List.getLast?_eq_some_iff.mp found
  rw [lastAcked, split, lines]
  simp [List.filter_append, acked]

end Histories

/-! ## The stored configuration is the one sent last -/

section Synced

variable {history : History workerCalls} {worker : BoardWorker}

/-- Methods that spare the line keep the two in step. -/
theorem Synced.keeps {α : Type} {method : Worker α} (keeps : KeepsLine method)
    (synced : Synced history worker) :
    Safe (onlyOps fun _ => True) (fun later result => Synced later result.2)
      (method worker) history := by
  refine (keeps worker history).onlyAdds.mono ?_
  rintro later ⟨result, after⟩ ⟨⟨events, rfl, spared⟩, same⟩
  obtain ⟨event, found, configures⟩ := synced
  have sameCfg : after.cfg = worker.cfg := congrArg Prod.fst same
  refine ⟨event, ?_, ?_⟩
  · rw [lastLine_append spared]
    exact found
  · rw [Configures, sameCfg]
    exact configures

/-- A line command that configures the stored configuration puts them in step. -/
theorem synced_snoc {event : Event workerCalls} (configures : Configures event worker.cfg) :
    Synced (history ++ [event]) worker :=
  ⟨event, lastLine_snoc configures.isLine, configures⟩

theorem Synced.spared {event : Event workerCalls} (synced : Synced history worker)
    (spares : SparesLine event.op) : Synced (history ++ [event]) worker := by
  obtain ⟨last, found, configures⟩ := synced
  refine ⟨last, ?_, configures⟩
  rw [lastLine_append (List.forall_mem_singleton.mpr spares)]
  exact found

theorem safe_handle_synced (fuel : Nat) (cmd : WorkerCmd) (synced : Synced history worker) :
    Safe (onlyOps fun _ => True) (fun later result => Synced later result.2)
      (handle fuel cmd worker) history := by
  cases cmd with
  | firmwareUpgrade image replyTx =>
      exact synced.keeps (keepsLine_handleFirmwareUpgrade fuel image replyTx)
  | restartLine =>
      rw [handle, handleRestart_apply]
      exact ⟨trivial, fun _ _ => ⟨trivial, fun _ _ => ⟨trivial, fun _ _ => synced_snoc rfl⟩⟩⟩
  | reload =>
      rw [handle, handleReload_apply]
      refine ⟨trivial, fun opened _ => ?_⟩
      have unchanged : Synced (history ++ [⟨.loadUci, opened⟩]) worker := by
        apply synced.spared
        rfl
      cases loaded : DslConfig.load opened worker.overrides with
      | error error =>
          simp only [loaded]
          exact unchanged
      | ok newCfg =>
          simp only [loaded]
          split
          · rw [reconfigure_apply]
            refine ⟨trivial, fun _ _ => ⟨trivial, fun sent _ => ⟨trivial, fun published _ => ?_⟩⟩⟩
            have configured (earlier : History workerCalls) :
                Synced (earlier ++ [⟨.request worker.board.retries 1 (upPayload newCfg), sent⟩])
                  { worker with cfg := newCfg, tcEmitted := false } := synced_snoc rfl
            apply (configured _).spared
            rfl
          · exact unchanged

theorem safe_turn_synced (fuel : Nat) (synced : Synced history worker) :
    Safe (onlyOps fun _ => True)
      (Method.passOwes (fun later _ after => Synced later after)
        fun later result => Synced later result.2)
      (turn fuel () worker) history := by
  apply safe_turn
  · intro earlier op reads synced
    refine ⟨trivial, fun answer => synced.spared ?_⟩
    rcases reads with rfl | rfl <;> rfl
  · exact fun cmd _ _ read => safe_handle_synced fuel cmd read
  · exact fun later after synced => synced.keeps keepsLine_maybePollBoard
  · exact synced

/-- At every head of the worker loop the stored configuration is the one sent last. -/
theorem synced_head {fuel : Nat} {oracle : Oracle workerCalls} {start : BoardWorker}
    {before : History workerCalls} (synced : Synced before start)
    (head : Head oracle (turn fuel) before () start history () worker) :
    Synced history worker := by
  refine Head.invariant (onlyOps fun _ => True) (fun later _ after => Synced later after)
    (fun later result => Synced later result.2) ?_ ?_ synced head
  · exact fun _ _ _ _ synced => safe_turn_synced fuel synced
  · exact fun _ _ _ _ => along_true _ _

end Synced

/-! ## A reload -/

/-- The history when the worker begins to handle a reload that it reads at a head. -/
def reloadRead (history : History workerCalls) : History workerCalls :=
  history ++ [⟨.shouldExit, false⟩] ++ [⟨.recvTimeout workerTick, .command .reload⟩]

/-- What the handling of the reload does. -/
def reloadRun (oracle : Oracle workerCalls) (history : History workerCalls)
    (worker : BoardWorker) : Run workerCalls (Except Empty Unit × BoardWorker) :=
  (handleReload worker).exec oracle (reloadRead history)

/-- The worker reads a reload at a head, and loads a new configuration. -/
structure Reloads (oracle : Oracle workerCalls) (history : History workerCalls)
    (worker : BoardWorker) (newCfg : DslConfig) : Prop where
  goesOn : oracle history .shouldExit = false
  reads : oracle (history ++ [⟨.shouldExit, false⟩]) (.recvTimeout workerTick) =
    .command .reload
  loads : DslConfig.load (oracle (reloadRead history) .loadUci) worker.overrides = .ok newCfg

/-- Every request is acknowledged. -/
def AllAcked (acks : UInt8 → Bytes → Bool) (events : History workerCalls) : Prop :=
  ∀ event ∈ events, (∃ retries subtype payload, event.op = .request retries subtype payload) →
    acknowledged acks event = true

/-- What makes the reload of `newCfg` come out right: the worker sees a change, or the last
line command was acknowledged and the fields it does not look at are as before, or it was not
and the board has the new configuration from earlier on. -/
def Detected (acks : UInt8 → Bytes → Bool) (history : History workerCalls)
    (worker : BoardWorker) (newCfg : DslConfig) : Prop :=
  configChanged worker.cfg newCfg = true ∨
    (LineSettled acks history ∧ newCfg.bitswap = worker.cfg.bitswap ∧
      newCfg.sra = worker.cfg.sra) ∨
    (¬ LineSettled acks history ∧ BoardHolds acks history newCfg)

section Reload

variable {acks : UInt8 → Bytes → Bool} {oracle : Oracle workerCalls}
  {history : History workerCalls} {worker : BoardWorker} {newCfg : DslConfig}

/-- A reload without a change that the worker sees only reads the configuration. -/
theorem reloadRun_unchanged (reloads : Reloads oracle history worker newCfg)
    (unchanged : configChanged worker.cfg newCfg = false) :
    (reloadRun oracle history worker).events =
      [⟨.loadUci, oracle (reloadRead history) .loadUci⟩] := by
  rw [reloadRun, handleReload_apply, Program.exec_perform]
  simp only [reloads.loads, unchanged, Bool.false_eq_true, if_false, Program.exec_pure]

/-- A reload with a change takes the line down, and up with the new configuration. -/
theorem reloadRun_changed (reloads : Reloads oracle history worker newCfg)
    (changed : configChanged worker.cfg newCfg = true) :
    ∃ down up, (reloadRun oracle history worker).events =
      [⟨.loadUci, oracle (reloadRead history) .loadUci⟩,
        ⟨.request worker.board.retries 3 [0x03], down⟩,
        ⟨.request worker.board.retries 1 (upPayload newCfg), up⟩,
        ⟨.publishConfig newCfg.xferMode newCfg.modulation newCfg.annex, ()⟩] := by
  rw [reloadRun, handleReload_apply, Program.exec_perform]
  simp only [reloads.loads, changed, if_true, reconfigure_apply, Program.exec_perform,
    Program.exec_pure]
  exact ⟨_, _, rfl⟩

/-- The fields that the worker does not compare. -/
theorem upPayload_eq_iff {old new : DslConfig} (unchanged : configChanged old new = false) :
    upPayload old = upPayload new ↔ new.bitswap = old.bitswap ∧ new.sra = old.sra := by
  have flag (left right : Bool) : left.toUInt8 = right.toUInt8 ↔ right = left := by
    cases left <;> cases right <;> decide
  simp only [configChanged, Bool.or_eq_false_iff, bne_eq_false_iff_eq] at unchanged
  obtain ⟨⟨⟨modulation, annex⟩, profiles⟩, _⟩ := unchanged
  simp [upPayload, packDslLine, modulation, annex, profiles, flag]

/-- A reload with a change leaves the board with the new configuration. -/
theorem boardHolds_of_changed (reloads : Reloads oracle history worker newCfg)
    (changed : configChanged worker.cfg newCfg = true)
    (acked : AllAcked acks (reloadRun oracle history worker).events) :
    BoardHolds acks (reloadRead history ++ (reloadRun oracle history worker).events) newCfg := by
  obtain ⟨down, up, events⟩ := reloadRun_changed reloads changed
  rw [events] at acked ⊢
  have ackedUp := acked _ (.tail _ (.tail _ (.head _))) ⟨_, _, _, rfl⟩
  refine ⟨⟨.request worker.board.retries 1 (upPayload newCfg), up⟩, ?_, rfl⟩
  have published : SparesLine
      (.publishConfig newCfg.xferMode newCfg.modulation newCfg.annex) := rfl
  calc
    lastAcked acks (reloadRead history ++ _) =
        lastAcked acks (reloadRead history ++
          [⟨.loadUci, oracle (reloadRead history) .loadUci⟩,
            ⟨.request worker.board.retries 3 [0x03], down⟩] ++
          [⟨.request worker.board.retries 1 (upPayload newCfg), up⟩] ++
          [⟨.publishConfig newCfg.xferMode newCfg.modulation newCfg.annex, ()⟩]) := by
      simp only [List.append_assoc, List.cons_append, List.nil_append]
    _ = _ := lastAcked_append (List.forall_mem_singleton.mpr published)
    _ = _ := lastAcked_snoc rfl ackedUp

/-- A reload without a change that the worker sees sends no line command. -/
theorem lastAcked_unchanged (reloads : Reloads oracle history worker newCfg)
    (unchanged : configChanged worker.cfg newCfg = false) :
    lastAcked acks (reloadRead history ++ (reloadRun oracle history worker).events) =
      lastAcked acks history := by
  rw [reloadRun_unchanged reloads unchanged, reloadRead, List.append_assoc,
    List.append_assoc, lastAcked_append]
  simp [SparesLine, lineCommand?]

/-- For every reload that the worker handles in a run that began with the stored
configuration sent: if every request of the reload is acknowledged, then the last line command
that the board acknowledged is opcode 1 for the new configuration, exactly if the worker saw a
change or the board had no need of one. -/
theorem boardHolds_iff_detected (acks : UInt8 → Bytes → Bool) (fuel : Nat)
    (oracle : Oracle workerCalls) (start : BoardWorker) (before : History workerCalls)
    (configured : Synced before start) (history : History workerCalls) (worker : BoardWorker)
    (head : Head oracle (turn fuel) before () start history () worker) (newCfg : DslConfig)
    (reloads : Reloads oracle history worker newCfg)
    (acked : AllAcked acks (reloadRun oracle history worker).events) :
    BoardHolds acks (reloadRead history ++ (reloadRun oracle history worker).events) newCfg ↔
      Detected acks history worker newCfg := by
  by_cases changed : configChanged worker.cfg newCfg = true
  · exact iff_of_true (boardHolds_of_changed reloads changed acked) (.inl changed)
  · have unchanged := Bool.eq_false_iff.mpr changed
    have same : lastAcked acks
        (reloadRead history ++ (reloadRun oracle history worker).events) = lastAcked acks history :=
      lastAcked_unchanged reloads unchanged
    rw [BoardHolds, same, Detected, or_iff_right changed]
    by_cases settled : LineSettled acks history
    · obtain ⟨last, found, ackedLast⟩ := settled
      obtain ⟨sent, foundSent, configures⟩ := synced_head configured head
      obtain rfl := Option.some.inj (found.symm.trans foundSent)
      rw [lastAcked_eq_lastLine found ackedLast, ← upPayload_eq_iff unchanged]
      have holds : LineSettled acks history := ⟨last, found, ackedLast⟩
      rw [Configures] at configures
      simp [holds, Configures, configures]
    · simp [settled, BoardHolds]

end Reload

/-! ## Two reloads -/

/-- A board that acknowledges everything, below a worker that is told to reload a file. -/
def reloading (uci : Uci) : Oracle workerCalls
  | _, .shouldExit => false
  | _, .recvTimeout _ => .command .reload
  | _, .loadUci => .ok uci
  | _, .request .. => .ok (beBytes32 0)
  | _, .now => 0
  | _, .sleep _ | _, .publishConfig .. | _, .publishLine .. | _, .setFwStatus _ => ()
  | _, .sendFwEvent .. | _, .emitStatus .. | _, .emitTcLayer .. => ()

/-- A file with one option. -/
def onlyOption (key value : String) : Uci := fun asked =>
  if asked = key then some value else none

/-- A worker with the default configuration, and what has been sent before it starts. -/
def freshWorker : BoardWorker := .new ⟨defaultTimeout, defaultRetries⟩ .default {} none

def freshHistory : History workerCalls :=
  [⟨.request defaultRetries 1 (upPayload .default), .ok (beBytes32 0)⟩]

theorem boardHolds_iff_detected_annex :
    BoardHolds (fun _ _ => true)
        (reloadRead freshHistory ++ (reloadRun (reloading
          (onlyOption "network.dsl.annex" "a")) freshHistory freshWorker).events)
        { DslConfig.default with annex := .a } ↔
      Detected (fun _ _ => true) freshHistory freshWorker
        { DslConfig.default with annex := .a } := by
  have events : (reloadRun (reloading (onlyOption "network.dsl.annex" "a")) freshHistory
      freshWorker).events = [⟨.loadUci, .ok (onlyOption "network.dsl.annex" "a")⟩,
        ⟨.request 3 3 [0x03], .ok (beBytes32 0)⟩,
        ⟨.request 3 1 (upPayload { DslConfig.default with annex := .a }), .ok (beBytes32 0)⟩,
        ⟨.publishConfig .ptm .vdsl2 .a, ()⟩] := rfl
  refine boardHolds_iff_detected (fun _ _ => true) 1 _ freshWorker freshHistory
    ⟨_, rfl, rfl⟩ freshHistory freshWorker .first _ ⟨rfl, rfl, by rfl⟩ ?_
  rw [events]
  simp [AllAcked, acknowledged]

/-- A reload that only turns bitswap off sends nothing. -/
theorem not_boardHolds_bitswap :
    ¬ ∀ (acks : UInt8 → Bytes → Bool) (fuel : Nat) (oracle : Oracle workerCalls)
      (start : BoardWorker) (before : History workerCalls),
      Synced before start → LineSettled acks before →
      ∀ (history : History workerCalls) (worker : BoardWorker),
        Head oracle (turn fuel) before () start history () worker →
        ∀ newCfg, Reloads oracle history worker newCfg →
          AllAcked acks (reloadRun oracle history worker).events →
          BoardHolds acks
            (reloadRead history ++ (reloadRun oracle history worker).events) newCfg := by
  intro claim
  have events : (reloadRun (reloading (onlyOption "network.dsl.bitswap" "0")) freshHistory
      freshWorker).events = [⟨.loadUci, .ok (onlyOption "network.dsl.bitswap" "0")⟩] := rfl
  have acked : AllAcked (fun _ _ => true) (reloadRun (reloading
      (onlyOption "network.dsl.bitswap" "0")) freshHistory freshWorker).events := by
    rw [events]
    simp [AllAcked]
  obtain ⟨event, last, configures⟩ := claim (fun _ _ => true) 1 _ freshWorker freshHistory
    ⟨_, rfl, rfl⟩ ⟨_, rfl, rfl⟩ freshHistory freshWorker .first
    { DslConfig.default with bitswap := false } ⟨rfl, rfl, by rfl⟩ acked
  rw [events] at last
  cases last
  have same : upPayload .default = upPayload { DslConfig.default with bitswap := false } :=
    (Prod.mk.inj (Option.some.inj configures)).2
  exact absurd same (by decide)

end BoardWorker

end RbctlDsl.Dsl
