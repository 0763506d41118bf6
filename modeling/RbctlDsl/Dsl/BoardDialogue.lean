import RbctlDsl.Dsl.UpgradeDelivery
import RbctlDsl.Lib.Chronicle

/-!
# What the board sees

The requests of the whole process, in their order.  The main thread configures the line and adds
the data link, then hands the board over; from there on the worker polls, uploads images, and
takes the line down and up again, and its last request takes the line down.
-/

namespace RbctlDsl.Dsl

open RbctlDsl.Lib RbctlDsl.Proto

/-- What the worker does with the board in one go: a poll, a request of an upgrade, or the line
down and up again. -/
def IsExchange (opcodes : List UInt8) : Prop := opcodes = [2] ∨ opcodes = [8] ∨ opcodes = [3, 1]

/-- The opcodes that a worker sends, where `lowered` tells that it has taken the line down last. -/
inductive WorkerTalk : (lowered : Bool) → List UInt8 → Prop
  | begin : WorkerTalk false []
  | exchange {opcodes request : List UInt8} (before : WorkerTalk false opcodes)
      (isExchange : IsExchange request) : WorkerTalk false (opcodes ++ request)
  | lower {opcodes : List UInt8} (before : WorkerTalk false opcodes) :
      WorkerTalk true (opcodes ++ [3])

namespace WorkerTalk

/-- A line that is down is brought up. -/
theorem raise {opcodes : List UInt8} (talk : WorkerTalk true opcodes) :
    WorkerTalk false (opcodes ++ [1]) := by
  cases talk with
  | lower before =>
      have exchanged := before.exchange (.inr (.inr rfl))
      rw [List.append_assoc]
      exact exchanged

theorem split {lowered : Bool} {opcodes : List UInt8} (talk : WorkerTalk lowered opcodes) :
    ∃ exchanges : List (List UInt8), (∀ request ∈ exchanges, IsExchange request) ∧
      opcodes = exchanges.flatten ++ if lowered then [3] else [] := by
  induction talk with
  | begin => exact ⟨[], (fun _ member => by cases member), rfl⟩
  | @exchange opcodes request _ isExchange ih =>
      obtain ⟨exchanges, each, same⟩ := ih
      refine ⟨exchanges ++ [request], fun other member => ?_, ?_⟩
      · rcases List.mem_append.mp member with before | last
        · exact each other before
        · rw [List.mem_singleton.mp last]
          exact isExchange
      · rw [same]
        simp
  | lower _ ih =>
      obtain ⟨exchanges, each, same⟩ := ih
      refine ⟨exchanges, each, ?_⟩
      rw [same]
      simp

theorem getLast {opcodes : List UInt8} (talk : WorkerTalk true opcodes) :
    opcodes.getLast? = some 3 := by
  cases talk with
  | lower before => exact List.getLast?_concat

end WorkerTalk

/-- What the board sees: the line comes up, the data link is added, and then exchanges, the last
of which may have taken the line down only. -/
inductive Dialogue : List UInt8 → Prop
  | silent : Dialogue []
  | up : Dialogue [1]
  | linked {link : UInt8} {exchanges : List (List UInt8)} {last : List UInt8}
      (isLink : link = 5 ∨ link = 15) (each : ∀ request ∈ exchanges, IsExchange request)
      (isLast : last = [] ∨ last = [3]) :
      Dialogue (1 :: link :: (exchanges.flatten ++ last))

/-! ## The main thread -/

/-- The opcodes that the main thread has sent. -/
def setUpProtocol : Protocol daemonCalls (List UInt8) where
  initial := []
  after
    | sent, ⟨.request _ subtype _, _⟩ => sent ++ [subtype]
    | sent, _ => sent
  permits sent
    | .request _ subtype _ =>
      sent = [] ∧ subtype = 1 ∨ sent = [1] ∧ (subtype = 5 ∨ subtype = 15)
    | .spawnWorker _ => sent = [1, 5] ∨ sent = [1, 15]
    | _ => True

namespace Daemon

open Protocol

/-- An operation that has nothing to do with the board. -/
def SparesBoard : DaemonOp → Prop
  | .request .. | .spawnWorker _ => False
  | _ => True

section Leads

variable {notifyScript : Option String} {overrides : CliOverrides} {cfg : DslConfig}
  {sent : List UInt8}

theorem stays_sparesBoard {op : DaemonOp} (spares : SparesBoard op) :
    setUpProtocol.Stays sent op := by
  cases op with
  | request | spawnWorker => cases spares
  | _ => exact ⟨trivial, fun _ => rfl⟩

theorem leads_sparesBoard {α τ : Type} {view : Settings → τ} {method : Daemon α}
    (keeps : Keeps SparesBoard view method) : setUpProtocol.Leads method sent sent :=
  leads_of_keeps (keeps.mono fun _ => stays_sparesBoard)

theorem talks_setUp (configIface : String) :
    setUpProtocol.Leads (setUp configIface overrides) [] [1] := by
  have configured : setUpProtocol.Leads (configure overrides) [] [] := by
    intro board
    rw [configure_apply]
    refine follows_perform trivial fun opened => ?_
    split
    · exact follows_pure fun _ _ => rfl
    · exact follows_pure fun _ equal => by cases equal
  have opened : setUpProtocol.Leads (openBoard configIface) [] [] := by
    have view : Keeps SparesBoard (fun _ => ()) (openBoard configIface) := by
      refine keeps_bind (keeps_perform trivial) fun present => keeps_ite ?_ (keeps_fail 1)
      refine keeps_bind (keeps_perform trivial) fun opened => ?_
      cases opened with
      | ok socket => exact keeps_update fun _ => rfl
      | error error => exact keeps_fail 1
    exact leads_sparesBoard view
  have up (cfg : DslConfig) : setUpProtocol.Leads (callBoard cfg.lineUp) [] [1] := by
    intro board
    rw [DslConfig.lineUp, lineConfigUp, callBoard_exchange]
    exact follows_perform (.inl ⟨rfl, rfl⟩) fun _ => follows_pure fun _ _ => rfl
  refine leads_bind configured fun cfg => leads_bind opened fun _ => ?_
  exact leads_bind (up cfg) fun _ => leads_pure cfg

/-- The opcodes of a finished set-up. -/
def SetUpSent (sent : List UInt8) : Prop := sent = [1, 5] ∨ sent = [1, 15]

theorem talks_addLink :
    setUpProtocol.Leads (addLink cfg) [1] [1, linkOpcode cfg.xferMode] := by
  intro board
  rw [addLink_apply]
  refine follows_perform (.inr ⟨rfl, ?_⟩) fun _ => follows_pure fun _ _ => rfl
  cases cfg.xferMode with
  | ptm => exact .inr rfl
  | atm => exact .inl rfl

theorem talks_serve (complete : SetUpSent sent) (fuel : Nat) :
    setUpProtocol.Leads (serve fuel notifyScript overrides cfg) sent sent := by
  refine leads_of_keeps ((keeps_serve fuel notifyScript overrides cfg).mono fun op serves => ?_)
  cases op with
  | request => cases serves
  | spawnWorker worker => exact ⟨complete, fun _ => rfl⟩
  | _ => exact ⟨trivial, fun _ => rfl⟩

theorem talks_shutdown (parent : String) (vlan : UInt16) :
    setUpProtocol.Leads (shutdown notifyScript parent vlan) sent sent := by
  have view : Keeps SparesBoard (fun _ => ()) (shutdown notifyScript parent vlan) := by
    refine keeps_bind (keeps_notifying notifyScript fun _ => trivial) fun _ => ?_
    refine keeps_bind (keeps_perform trivial) fun _ => ?_
    exact keeps_bind (keeps_perform trivial) fun _ => keeps_perform trivial
  exact leads_sparesBoard view

/-- The main thread sends one line command and one link-add, before it starts the worker. -/
theorem talks_run (fuel : Nat) (configIface : String) :
    setUpProtocol.Follows (fun _ _ => True)
      (run fuel configIface notifyScript overrides ⟨defaultTimeout, defaultRetries⟩) [] := by
  have rest (cfg : DslConfig) : setUpProtocol.Leads
      (operate fuel configIface notifyScript overrides cfg) [1] [1, linkOpcode cfg.xferMode] := by
    have complete : SetUpSent [1, linkOpcode cfg.xferMode] := by
      cases cfg.xferMode with
      | ptm => exact .inr rfl
      | atm => exact .inl rfl
    refine leads_bind talks_addLink fun vlan => ?_
    refine leads_bind (leads_perform trivial fun _ => rfl) fun _ => ?_
    refine leads_bind (talks_serve complete fuel) fun _ => ?_
    exact leads_bind (talks_shutdown _ vlan) fun _ => leads_pure 0
  refine follows_bind_of_leads (talks_setUp configIface) (fun cfg board => ?_)
    (fun _ _ _ => trivial) _
  exact (rest cfg board).mono fun _ _ _ => trivial

end Leads

end Daemon

/-! ## The worker -/

/-- Whether the line has been taken down last, and the opcodes that may come next. -/
def talkProtocol : Protocol workerCalls Bool where
  initial := false
  after
    | lowered, ⟨.request _ subtype _, _⟩ =>
      if subtype = 3 then true else if subtype = 1 then false else lowered
    | lowered, _ => lowered
  permits lowered
    | .request _ subtype _ =>
      if lowered then subtype = 1 else subtype = 2 ∨ subtype = 8 ∨ subtype = 3
    | .shouldExit | .recvTimeout _ => lowered = false
    | _ => True

namespace BoardWorker

open Protocol

section Leads

theorem stays_pollTalk {op : WorkerOp} (polls : PollOp op) : talkProtocol.Stays false op := by
  cases op with
  | request retries subtype payload =>
      obtain rfl : subtype = 2 := polls
      exact ⟨.inl rfl, fun _ => rfl⟩
  | now | publishLine | emitStatus | emitTcLayer => exact ⟨trivial, fun _ => rfl⟩
  | shouldExit | recvTimeout | loadUci | sleep | publishConfig | setFwStatus | sendFwEvent =>
      cases polls

theorem stays_firmwareTalk {op : WorkerOp} (upgrades : FirmwareOp op) :
    talkProtocol.Stays false op := by
  cases op with
  | request retries subtype payload =>
      obtain rfl : subtype = 8 := upgrades
      exact ⟨.inr (.inl rfl), fun _ => rfl⟩
  | setFwStatus | sendFwEvent => exact ⟨trivial, fun _ => rfl⟩
  | shouldExit | recvTimeout | loadUci | sleep | now | publishConfig | publishLine | emitStatus
  | emitTcLayer => cases upgrades

theorem talks_handleReload : talkProtocol.Leads handleReload false false := by
  intro worker
  rw [handleReload_apply]
  refine follows_perform trivial fun opened => ?_
  cases DslConfig.load opened worker.overrides with
  | error error => exact follows_pure fun _ _ => rfl
  | ok newCfg =>
      dsimp only
      split
      · rw [reconfigure_apply]
        refine follows_perform (.inr (.inr rfl)) fun _ => ?_
        refine follows_perform rfl fun _ => ?_
        exact follows_perform trivial fun _ => follows_pure fun _ _ => rfl
      · exact follows_pure fun _ _ => rfl

theorem talks_handleRestart : talkProtocol.Leads handleRestart false false := by
  intro worker
  rw [handleRestart_apply]
  refine follows_perform (.inr (.inr rfl)) fun _ => ?_
  refine follows_perform trivial fun _ => ?_
  exact follows_perform rfl fun _ => follows_pure fun _ _ => rfl

theorem talks_handle (fuel : Nat) (cmd : WorkerCmd) :
    talkProtocol.Leads (handle fuel cmd) false false := by
  cases cmd with
  | reload => exact talks_handleReload
  | restartLine => exact talks_handleRestart
  | firmwareUpgrade image replyTx =>
      have hides : HidesBoard lineSettings := fun _ _ => rfl
      exact leads_of_keeps ((keeps_handleFirmwareUpgrade hides fuel image replyTx).mono fun _ =>
        stays_firmwareTalk)

theorem talks_turn (fuel : Nat) (locals : Unit) :
    talkProtocol.Leads (turn fuel locals) false false := by
  have polled : talkProtocol.Leads
      (maybePollBoard >>= fun _ => pure (.inl ()) : Worker (Unit ⊕ Unit)) false false :=
    leads_bind (leads_of_keeps (keepsPoll_maybePollBoard.mono fun _ => stays_pollTalk))
      fun _ => leads_pure _
  refine leads_perform_bind rfl fun exit => ?_
  cases exit with
  | true => exact leads_pure _
  | false =>
      refine leads_perform_bind rfl fun received => ?_
      match received with
      | .timeout => exact polled
      | .disconnected => exact leads_pure _
      | .command cmd => exact leads_bind (talks_handle fuel cmd) fun _ => polled

/-- The worker leaves the line down. -/
theorem talks_run (fuel : Nat) : talkProtocol.Leads (run fuel) false true := by
  have down : talkProtocol.Leads (callBoard quiet lineConfigDown) false true := by
    intro worker
    rw [lineConfigDown, callBoard_exchange]
    exact follows_perform (.inr (.inr rfl)) fun _ => follows_pure fun _ _ => rfl
  have looped : talkProtocol.Leads (Method.iterate (turn fuel) fuel ()) false false :=
    leads_iterate (fun locals _ => passEnds_of_leads (talks_turn fuel locals)) fuel ()
  refine leads_bind looped fun _ => ?_
  refine leads_bind (leads_update _) fun _ => ?_
  exact leads_bind down fun _ => leads_pure ()

end Leads

end BoardWorker

/-! ## Every interleaving -/

namespace Process

open Threads Discipline Daemon

abbrev TalkPhaseOf : ThreadId → Type
  | .main => List UInt8
  | .worker => Bool
  | .client _ => ClientPhase

def talkProtocolOf : (i : ThreadId) → Protocol (callsOf i) (TalkPhaseOf i)
  | .main => setUpProtocol
  | .worker => talkProtocol
  | .client stream => clientProtocol stream

/-- A worker that has returned has taken the line down last. -/
def talkEndsOf : (i : ThreadId) → TalkPhaseOf i → ResultOf i → Prop
  | .worker, lowered, _ => lowered = true
  | _, _, _ => True

def talking (fuel : Nat) : Discipline (meaning fuel) TalkPhaseOf where
  protocol := talkProtocolOf
  ends := talkEndsOf
  starts i _ event j program _ new := by
    cases i with
    | worker | client => cases new
    | main =>
        obtain ⟨op, answer⟩ := event
        cases op with
        | spawnWorker worker =>
            cases new
            refine (BoardWorker.talks_run fuel worker).mono ?_
            rintro reached ⟨result, after⟩ goesOn
            cases result with
            | ok value => exact goesOn value rfl
            | error never => cases never
        | spawnFirmwareIpc path stream =>
            cases new
            exact (leads_handleFirmwareIpc fuel path stream ()).mono fun _ _ _ => trivial
        | _ => cases new

theorem talking_launched (launch : Launch) : (talking launch.fuel).Obeyed (launched launch) := by
  intro i thread there
  cases i with
  | worker | client => cases there
  | main =>
      cases there
      exact talks_run launch.fuel launch.configIface [] rfl

/-- The requests of an operation. -/
def opcodesOf (i : ThreadId) (event : Event (callsOf i)) : List UInt8 :=
  (boardRequest? i event).toList

/-- What every step keeps: what either thread has sent, and that the worker is there only once the
set-up is complete. -/
structure TalkInv (fuel : Nat) (process : Process) : Prop where
  main : (talking fuel).phase process .main = notesOf opcodesOf process .main
  setUp : notesOf opcodesOf process .main = [] ∨ notesOf opcodesOf process .main = [1] ∨
    SetUpSent (notesOf opcodesOf process .main)
  handedOver : process.thread .worker ≠ none → SetUpSent (notesOf opcodesOf process .main)
  worker : WorkerTalk ((talking fuel).phase process .worker) (notesOf opcodesOf process .worker)

section Step

variable {fuel : Nat} {process process' : Process} {i : ThreadId}

/-- The worker is there after a step of the main thread that does not start it if it was before. -/
theorem worker_of_step_main {event : Event (callsOf .main)}
    (noSpawn : ∀ worker, event.op ≠ .spawnWorker worker)
    (step : Step (meaning fuel) process .main event process')
    (there : process'.thread .worker ≠ none) : process.thread .worker ≠ none := by
  rcases step.thread_other (by decide : ThreadId.worker ≠ .main) with same | ⟨program, new, _⟩
  · rwa [same] at there
  · obtain ⟨op, answer⟩ := event
    cases op with
    | spawnWorker worker => exact absurd rfl (noSpawn worker)
    | _ => cases new

theorem TalkInv.step_main {event : Event (callsOf .main)} (inv : TalkInv fuel process)
    (permitted : setUpProtocol.permits ((talking fuel).phase process .main) event.op)
    (step : Step (meaning fuel) process .main event process') : TalkInv fuel process' := by
  have after : (talking fuel).phase process' .main =
      setUpProtocol.after ((talking fuel).phase process .main) event := phase_step_self step
  have notes : notesOf opcodesOf process' .main =
      notesOf opcodesOf process .main ++ opcodesOf .main event := notesOf_step_self step
  have samePhase : (talking fuel).phase process' .worker = (talking fuel).phase process .worker :=
    phase_step_other step (by decide)
  have sameNotes : notesOf opcodesOf process' .worker = notesOf opcodesOf process .worker :=
    notesOf_step_other step (by decide)
  have worker : WorkerTalk ((talking fuel).phase process' .worker)
      (notesOf opcodesOf process' .worker) := by
    rw [samePhase, sameNotes]
    exact inv.worker
  rw [inv.main] at permitted after
  -- an operation that sends nothing
  have silent (nothing : opcodesOf .main event = [])
      (stays : setUpProtocol.after (notesOf opcodesOf process .main) event =
        notesOf opcodesOf process .main)
      (handedOver : process'.thread .worker ≠ none → SetUpSent (notesOf opcodesOf process .main)) :
      TalkInv fuel process' := by
    rw [nothing, List.append_nil] at notes
    rw [stays] at after
    exact ⟨after.trans notes.symm, by rw [notes]; exact inv.setUp, by rw [notes]; exact handedOver,
      worker⟩
  obtain ⟨op, answer⟩ := event
  cases op with
  | request retries subtype payload =>
      have unspawned := worker_of_step_main (fun _ equal => by cases equal) step
      refine ⟨after.trans notes.symm, ?_, fun there => ?_, worker⟩
      · rw [notes]
        rcases permitted with ⟨empty, rfl⟩ | ⟨up, rfl | rfl⟩
        · exact .inr (.inl (congrArg (· ++ [1]) empty))
        · exact .inr (.inr (.inl (congrArg (· ++ [5]) up)))
        · exact .inr (.inr (.inr (congrArg (· ++ [15]) up)))
      · -- a request is part of the set-up
        rcases inv.handedOver (unspawned there) with complete | complete
        · rw [complete] at permitted
          rcases permitted with ⟨other, _⟩ | ⟨other, _⟩ <;> cases other
        · rw [complete] at permitted
          rcases permitted with ⟨other, _⟩ | ⟨other, _⟩ <;> cases other
  | spawnWorker worker => exact silent rfl rfl fun _ => permitted
  | _ =>
      exact silent rfl rfl fun there =>
        inv.handedOver (worker_of_step_main (fun _ equal => by cases equal) step there)

theorem TalkInv.step_other {i : ThreadId} {event : Event (callsOf i)} (other : .main ≠ i)
    (inv : TalkInv fuel process)
    (worker : WorkerTalk ((talking fuel).phase process' .worker)
      (notesOf opcodesOf process' .worker))
    (unspawned : process'.thread .worker ≠ none → process.thread .worker ≠ none)
    (step : Step (meaning fuel) process i event process') : TalkInv fuel process' := by
  have sameNotes : notesOf opcodesOf process' .main = notesOf opcodesOf process .main :=
    notesOf_step_other step other
  have samePhase : (talking fuel).phase process' .main = (talking fuel).phase process .main :=
    phase_step_other step other
  refine ⟨?_, ?_, fun there => ?_, worker⟩
  · rw [sameNotes, samePhase, inv.main]
  · rw [sameNotes]
    exact inv.setUp
  · rw [sameNotes]
    exact inv.handedOver (unspawned there)

theorem workerTalk_step {lowered : Bool} {opcodes : List UInt8} {event : Event workerCalls}
    (talk : WorkerTalk lowered opcodes) (permitted : talkProtocol.permits lowered event.op) :
    WorkerTalk (talkProtocol.after lowered event) (opcodes ++ opcodesOf .worker event) := by
  obtain ⟨op, answer⟩ := event
  cases op with
  | request retries subtype payload =>
      cases lowered with
      | true =>
          obtain rfl : subtype = 1 := permitted
          exact talk.raise
      | false =>
          rcases permitted with rfl | rfl | rfl
          · exact talk.exchange (.inl rfl)
          · exact talk.exchange (.inr (.inl rfl))
          · exact talk.lower
  | _ =>
      rw [show opcodesOf .worker ⟨_, answer⟩ = [] from rfl, List.append_nil]
      exact talk

theorem TalkInv.step {event : Event (callsOf i)} (inv : TalkInv fuel process)
    (permitted : ((talking fuel).protocol i).permits ((talking fuel).phase process i) event.op)
    (step : Step (meaning fuel) process i event process') : TalkInv fuel process' := by
  cases i with
  | main => exact inv.step_main permitted step
  | worker =>
      refine inv.step_other (by decide) ?_ (fun _ => ?_) step
      · have after : (talking fuel).phase process' .worker =
            talkProtocol.after ((talking fuel).phase process .worker) event := phase_step_self step
        rw [after, notesOf_step_self step]
        exact workerTalk_step inv.worker permitted
      · obtain ⟨history, next, performs, _⟩ := step.thread_self
        rw [performs]
        exact Option.some_ne_none _
  | client stream =>
      have other : ThreadId.worker ≠ .client stream := fun equal => by cases equal
      refine inv.step_other (fun equal => by cases equal) ?_ (fun there => ?_) step
      · have same : (talking fuel).phase process' .worker = (talking fuel).phase process .worker :=
          phase_step_other step other
        rw [same, notesOf_step_other step other]
        exact inv.worker
      · rcases step.thread_other other with same | ⟨program, new, _⟩
        · rwa [same] at there
        · cases new

theorem talkInv_of_reachable {launch : Launch} (reachable : Reachable launch process) :
    TalkInv launch.fuel process := by
  have start : TalkInv launch.fuel (launched launch) :=
    ⟨rfl, .inl rfl, fun there => absurd rfl there, .begin⟩
  exact Discipline.invariant (talking launch.fuel) (talking_launched launch) (TalkInv launch.fuel)
    start (fun _ _ _ _ inv _ permitted step => inv.step permitted step) reachable

theorem notesOf_worker_of_absent (absent : process.thread .worker = none) :
    notesOf opcodesOf process .worker = [] := by
  rw [notesOf, Threads.history, absent, List.flatMap_nil]

/-- Before the set-up is complete, the worker has sent nothing. -/
theorem TalkInv.worker_silent (inv : TalkInv fuel process)
    (incomplete : ¬ SetUpSent (notesOf opcodesOf process .main)) :
    notesOf opcodesOf process .worker = [] := by
  refine notesOf_worker_of_absent ?_
  by_contra there
  exact incomplete (inv.handedOver there)

/-- The main thread has done with the board when the worker begins. -/
theorem opcodes_of_chronicle {launch : Launch} {opcodes : List UInt8}
    (chronicle : Chronicle (meaning launch.fuel) opcodesOf (launched launch) process opcodes) :
    opcodes = notesOf opcodesOf process .main ++ notesOf opcodesOf process .worker := by
  refine Chronicle.eq_append (by decide) (fun i event notMain notWorker => ?_) ?_ ⟨rfl, rfl⟩
    chronicle
  · cases i with
    | main => exact absurd rfl notMain
    | worker => exact absurd rfl notWorker
    | client stream => rfl
  · intro process process' event reachable step
    have permitted := (obeyed_of_reaches (talking_launched launch) reachable).permits step
    have inv : TalkInv launch.fuel process := talkInv_of_reachable reachable
    obtain ⟨op, answer⟩ := event
    cases op with
    | request retries subtype payload =>
        have sent : (talking launch.fuel).phase process .main = [] ∨
            (talking launch.fuel).phase process .main = [1] := permitted.imp And.left And.left
        rw [inv.main] at sent
        refine .inr (inv.worker_silent ?_)
        rcases sent with nothing | up
        · rw [nothing, SetUpSent]
          decide
        · rw [up, SetUpSent]
          decide
    | _ => exact .inl rfl

theorem TalkInv.dialogue (inv : TalkInv fuel process) :
    Dialogue (notesOf opcodesOf process .main ++ notesOf opcodesOf process .worker) := by
  obtain ⟨exchanges, each, same⟩ := inv.worker.split
  have isLast : (if (talking fuel).phase process .worker = true then [(3 : UInt8)] else []) = [] ∨
      (if (talking fuel).phase process .worker = true then [(3 : UInt8)] else []) = [3] := by
    split
    · exact .inr rfl
    · exact .inl rfl
  have unsent {sent : List UInt8} (notes : notesOf opcodesOf process .main = sent)
      (incomplete : ¬ SetUpSent sent) : notesOf opcodesOf process .worker = [] :=
    inv.worker_silent (notes ▸ incomplete)
  rcases inv.setUp with nothing | up | linked | linked
  · rw [nothing, unsent nothing (by unfold SetUpSent; decide)]
    exact .silent
  · rw [up, unsent up (by unfold SetUpSent; decide)]
    exact .up
  · rw [linked, same]
    exact .linked (.inl rfl) each isLast
  · rw [linked, same]
    exact .linked (.inr rfl) each isLast

/-- A worker that has returned has taken the line down last. -/
theorem last_of_returned {launch : Launch} (reachable : Reachable launch process)
    (returned : (process.thread .worker).any Thread.returned = true) :
    (notesOf opcodesOf process .worker).getLast? = some 3 := by
  obtain ⟨⟨history, rest⟩, there, ended⟩ := (Option.any_eq_true _ _).mp returned
  cases rest with
  | perform | panic | spin => cases ended
  | pure value =>
      have lowered : (talking launch.fuel).phase process .worker = true :=
        (obeyed_of_reaches (talking_launched launch) reachable).ends there
      have inv : TalkInv launch.fuel process := talkInv_of_reachable reachable
      have talk := inv.worker
      rw [lowered] at talk
      exact talk.getLast

end Step

/-- In every order of steps, the requests of the process in their order are a dialogue: one line
command and one link-add, and then polls, uploads, and the line down and up again, with nothing
else in between.  A worker that has returned has left the line down. -/
theorem dialogue_of_chronicle {launch : Launch} {process : Process} {opcodes : List UInt8}
    (chronicle : Chronicle (meaning launch.fuel) opcodesOf (launched launch) process opcodes) :
    Dialogue opcodes ∧ ((process.thread .worker).any Thread.returned = true →
      opcodes.getLast? = some 3) := by
  have reachable : Reachable launch process := chronicle.reaches
  rw [opcodes_of_chronicle chronicle]
  refine ⟨(talkInv_of_reachable reachable).dialogue, fun returned => ?_⟩
  rw [List.getLast?_append, last_of_returned reachable returned]
  rfl

/-- A signal to restart the line that is always up, and a worker that takes the command. -/
def restartSignals : (i : ThreadId) → Oracle (callsOf i)
  | .main, _, .takeRestart => true
  | .worker, _, .recvTimeout _ => .command .restartLine
  | i, history, op => upgradeRequests i history op

/-- The set-up, a restart of the line, and a poll. -/
theorem dialogue_of_chronicle_restart : ∃ opcodes : List UInt8,
    opcodes = [1, 15, 3, 1, 2] ∧ Dialogue opcodes := by
  have played : (play (meaning upgradeLaunch.fuel) restartSignals
      (List.replicate 16 .main ++ List.replicate 7 .worker) (launched upgradeLaunch)).any
        (fun process => notesOf opcodesOf process .main ++ notesOf opcodesOf process .worker =
          [1, 15, 3, 1, 2]) = true := by
    decide +kernel
  obtain ⟨process, taken, sent⟩ := (Option.any_eq_true _ _).mp played
  have reachable : Reachable upgradeLaunch process :=
    reaches_of_play (fun _ _ _ _ => trivial) .first taken
  obtain ⟨opcodes, chronicle⟩ := Chronicle.exists_of_reaches opcodesOf reachable
  exact ⟨opcodes, (opcodes_of_chronicle chronicle).trans (of_decide_eq_true sent),
    (dialogue_of_chronicle chronicle).1⟩

end Process

end RbctlDsl.Dsl
