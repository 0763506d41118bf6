import RbctlDsl.Dsl.LineCommands
import RbctlDsl.Lib.Phases

/-!
# The reports of an upgrade

What the worker tells the client of the upgrade that it has in hand: progress while the upgrade
runs, and one result at its end, which is the one that the upgrade status shows.
-/

namespace RbctlDsl.Dsl

open RbctlDsl.Lib RbctlDsl.Proto

/-- What the worker has in hand: nothing, an upgrade that it has not begun, one that runs, or one
that has ended with a status that the client has not been told. -/
inductive ReportPhase where
  | free
  | dequeued (replyTx : Nat)
  | running (replyTx : Nat)
  | ended (replyTx : Nat) (status : FwStatus)
  deriving DecidableEq

/-- The upgrade status of a result. -/
def FwStatus.ofResult : Except String FwUpgradeResult → FwStatus
  | .ok _ => .done
  | .error message => .failed message

namespace ReportPhase

def after : ReportPhase → Event workerCalls → ReportPhase
  | _, ⟨.recvTimeout _, .command (.firmwareUpgrade _ replyTx)⟩ => .dequeued replyTx
  | .dequeued replyTx, ⟨.setFwStatus .upgrading, _⟩ => .running replyTx
  | .running replyTx, ⟨.setFwStatus .done, _⟩ => .ended replyTx .done
  | .running replyTx, ⟨.setFwStatus (.failed message), _⟩ => .ended replyTx (.failed message)
  | .ended .., ⟨.sendFwEvent .., _⟩ => .free
  | phase, _ => phase

/-- Commands are taken with nothing in hand, and a client is told of its own upgrade only. -/
def Permits (phase : ReportPhase) : WorkerOp → Prop
  | .recvTimeout _ => phase = .free
  | .sendFwEvent replyTx (.progress _) => phase = .running replyTx
  | .sendFwEvent replyTx (.done result) => phase = .ended replyTx (.ofResult result)
  | .setFwStatus .upgrading => ∃ replyTx, phase = .dequeued replyTx
  | .setFwStatus .idle => False
  | .setFwStatus _ => ∃ replyTx, phase = .running replyTx
  | _ => True

/-- The phase is about the upgrade of this client. -/
def Serves (stream : Nat) : ReportPhase → Prop
  | .free => False
  | .dequeued replyTx | .running replyTx | .ended replyTx _ => replyTx = stream

end ReportPhase

def reportProtocol : Protocol workerCalls ReportPhase where
  initial := .free
  after := ReportPhase.after
  permits := ReportPhase.Permits

namespace BoardWorker

open Protocol

/-- An operation that has nothing to do with the upgrade in hand. -/
def SparesReports : WorkerOp → Prop
  | .recvTimeout _ | .setFwStatus _ | .sendFwEvent .. => False
  | _ => True

/-- What is done while an upgrade runs. -/
def ReportsOn (replyTx : Nat) : WorkerOp → Prop
  | .request .. | .setFwStatus (.upgradingProgress ..) => True
  | .sendFwEvent tx (.progress _) => tx = replyTx
  | _ => False

section Follows

variable {replyTx : Nat}

theorem stays_sparesReports (phase : ReportPhase) {op : WorkerOp} (spares : SparesReports op) :
    reportProtocol.Stays phase op := by
  cases op with
  | recvTimeout | setFwStatus | sendFwEvent => cases spares
  | _ => exact ⟨trivial, fun _ => by cases phase <;> rfl⟩

theorem stays_reportsOn {op : WorkerOp} (reports : ReportsOn replyTx op) :
    reportProtocol.Stays (.running replyTx) op := by
  cases op with
  | request => exact ⟨trivial, fun _ => rfl⟩
  | setFwStatus status =>
      cases status with
      | upgradingProgress stage pct => exact ⟨⟨replyTx, rfl⟩, fun _ => rfl⟩
      | idle | upgrading | done | failed => cases reports
  | sendFwEvent tx event =>
      cases event with
      | progress update =>
          obtain rfl : tx = replyTx := reports
          exact ⟨rfl, fun _ => rfl⟩
      | done result => cases reports
  | shouldExit | recvTimeout | loadUci | sleep | now | publishConfig | publishLine | emitStatus
  | emitTcLayer => cases reports

theorem keeps_reports (fuel : Nat) (image : Bytes) (replyTx : Nat) :
    Keeps (ReportsOn replyTx) lineSettings
      (callBoard (reportProgress replyTx) (firmwareUpgrade fuel image)) := by
  have hides : HidesBoard lineSettings := fun _ _ => rfl
  refine keeps_callBoard hides (keeps_firmwareUpgrade fuel image) (fun _ _ => trivial)
    fun update => ?_
  exact keeps_bind (keeps_perform rfl) fun _ => keeps_perform trivial

end Follows

section Spares

theorem LineOp.sparesReports {op : WorkerOp} (isLine : LineOp op) : SparesReports op := by
  cases op with
  | recvTimeout | setFwStatus | sendFwEvent => cases isLine
  | _ => trivial

theorem PollOp.sparesReports {op : WorkerOp} (polls : PollOp op) : SparesReports op := by
  cases op with
  | recvTimeout | setFwStatus | sendFwEvent => cases polls
  | _ => trivial

theorem leads_spares {α : Type} {method : Worker α} {τ : Type} {view : BoardWorker → τ}
    (keeps : Keeps SparesReports view method) (phase : ReportPhase) :
    reportProtocol.Leads method phase phase :=
  leads_of_keeps (keeps.mono fun _ => stays_sparesReports phase)

end Spares

section Leads

/-- The client is told of progress, and then of the result that the status shows. -/
theorem reports_handleFirmwareUpgrade (fuel : Nat) (image : Bytes) (replyTx : Nat) :
    reportProtocol.Leads (handleFirmwareUpgrade fuel image replyTx) (.dequeued replyTx) .free := by
  have begun : reportProtocol.Leads (onWorker (.setFwStatus .upgrading)) (.dequeued replyTx)
      (.running replyTx) := leads_perform ⟨replyTx, rfl⟩ fun _ => rfl
  have uploaded := leads_of_keeps ((keeps_reports fuel image replyTx).mono fun _ => stays_reportsOn)
  refine leads_bind begun fun _ => leads_bind uploaded fun result => ?_
  cases result with
  | ok result =>
      refine leads_bind (leads_perform ⟨replyTx, rfl⟩ fun _ => rfl) fun _ => ?_
      exact leads_perform rfl fun _ => rfl
  | error error =>
      refine leads_bind (leads_perform ⟨replyTx, rfl⟩ fun _ => rfl) fun _ => ?_
      exact leads_perform rfl fun _ => rfl

theorem reports_turn (fuel : Nat) (locals : Unit) :
    reportProtocol.Leads (turn fuel locals) .free .free := by
  have polled : reportProtocol.Leads
      (maybePollBoard >>= fun _ => pure (.inl ()) : Worker (Unit ⊕ Unit)) .free .free :=
    leads_bind (leads_spares (keepsPoll_maybePollBoard.mono fun _ => PollOp.sparesReports) .free)
      fun _ => leads_pure _
  have hides : HidesLine (fun _ : BoardWorker => ()) := fun _ _ _ _ => rfl
  have lineOps {method : Worker Unit} (keeps : Keeps LineOp (fun _ => ()) method) :
      reportProtocol.Leads method .free .free :=
    leads_spares (keeps.mono fun _ => LineOp.sparesReports) .free
  refine leads_perform_bind trivial fun exit => ?_
  cases exit with
  | true => exact leads_pure _
  | false =>
      refine leads_perform_bind rfl fun received => ?_
      match received with
      | .timeout => exact polled
      | .disconnected => exact leads_pure _
      | .command .reload => exact leads_bind (lineOps (keeps_handleReload hides)) fun _ => polled
      | .command .restartLine =>
          exact leads_bind (lineOps (keeps_handleRestart hides)) fun _ => polled
      | .command (.firmwareUpgrade image replyTx) =>
          exact leads_bind (reports_handleFirmwareUpgrade fuel image replyTx) fun _ => polled

/-- The worker thread keeps to the protocol of the reports. -/
theorem reports_run (fuel : Nat) : reportProtocol.Leads (run fuel) .free .free := by
  have looped : reportProtocol.Leads (Method.iterate (turn fuel) fuel ()) .free .free :=
    leads_iterate (fun locals _ => passEnds_of_leads (reports_turn fuel locals)) fuel ()
  have down : Keeps LineOp (fun _ => ()) (callBoard quiet lineConfigDown) :=
    keeps_lineExchange (fun _ _ _ _ => rfl) (.inr rfl) _ _
  refine leads_bind looped fun _ => ?_
  refine leads_bind (leads_update _) fun _ => ?_
  exact leads_bind (leads_spares (down.mono fun _ => LineOp.sparesReports) .free) fun _ =>
    leads_pure ()

end Leads

end BoardWorker

/-! ## One client -/

section Service

def reportsOn (stream : Nat) : Event workerCalls → List FwEvent
  | ⟨.sendFwEvent replyTx event, _⟩ => if replyTx = stream then [event] else []
  | _ => []

/-- The images of a client that the worker takes. -/
def imagesOf (stream : Nat) : Event workerCalls → List Bytes
  | ⟨.recvTimeout _, .command (.firmwareUpgrade image replyTx)⟩ =>
    if replyTx = stream then [image] else []
  | _ => []

/-- How far the worker has come with one client: the images that it has taken from it, and what
it has reported. -/
inductive Served (stream : Nat) (phase : ReportPhase) : List Bytes → List FwEvent → Prop
  | waiting (elsewhere : ¬ phase.Serves stream) : Served stream phase [] []
  | dequeued (image : Bytes) (inHand : phase = .dequeued stream) : Served stream phase [image] []
  | running (image : Bytes) (updates : List FwProgress) (inHand : phase = .running stream) :
      Served stream phase [image] (updates.map .progress)
  | ended (image : Bytes) (updates : List FwProgress) (status : FwStatus)
      (inHand : phase = .ended stream status) : Served stream phase [image] (updates.map .progress)
  | finished (image : Bytes) (updates : List FwProgress) (result : Except String FwUpgradeResult)
      (elsewhere : ¬ phase.Serves stream) :
      Served stream phase [image] (updates.map .progress ++ [.done result])

variable {stream replyTx : Nat} {phase phase' : ReportPhase} {images : List Bytes}
  {events : List FwEvent} {event : Event workerCalls}

/-- What the worker does for others does not matter. -/
theorem Served.elsewhere (served : Served stream phase images events)
    (before : ¬ phase.Serves stream) (after : ¬ phase'.Serves stream) :
    Served stream phase' images events := by
  cases served with
  | waiting => exact .waiting after
  | finished image updates result => exact .finished image updates result after
  | dequeued image inHand | running image updates inHand | ended image updates status inHand =>
      rw [inHand] at before
      exact absurd rfl before

theorem Served.begin (served : Served stream (.dequeued replyTx) images events) :
    Served stream (.running replyTx) images events := by
  by_cases same : replyTx = stream
  · subst same
    cases served with
    | dequeued image => exact .running image [] rfl
    | waiting elsewhere | finished image updates result elsewhere => exact absurd rfl elsewhere
    | running image updates inHand | ended image updates status inHand => cases inHand
  · exact served.elsewhere same same

theorem Served.finish (served : Served stream (.running replyTx) images events)
    (status : FwStatus) : Served stream (.ended replyTx status) images events := by
  by_cases same : replyTx = stream
  · subst same
    cases served with
    | running image updates => exact .ended image updates status rfl
    | waiting elsewhere | finished image updates result elsewhere => exact absurd rfl elsewhere
    | dequeued image inHand | ended image updates status inHand => cases inHand
  · exact served.elsewhere same same

theorem Served.progress (served : Served stream (.running replyTx) images events)
    (update : FwProgress) : Served stream (.running replyTx) images
      (events ++ if replyTx = stream then [.progress update] else []) := by
  by_cases same : replyTx = stream
  · subst same
    rw [if_pos rfl]
    cases served with
    | running image updates =>
        have extended : Served replyTx (.running replyTx) [image]
            ((updates ++ [update]).map .progress) := .running image _ rfl
        rw [List.map_append] at extended
        exact extended
    | waiting elsewhere | finished image updates result elsewhere => exact absurd rfl elsewhere
    | dequeued image inHand | ended image updates status inHand => cases inHand
  · rw [if_neg same, List.append_nil]
    exact served

theorem Served.done {status : FwStatus}
    (served : Served stream (.ended replyTx status) images events)
    (result : Except String FwUpgradeResult) : Served stream .free images
      (events ++ if replyTx = stream then [.done result] else []) := by
  by_cases same : replyTx = stream
  · subst same
    rw [if_pos rfl]
    cases served with
    | ended image updates => exact .finished image updates result id
    | waiting elsewhere | finished image updates result elsewhere => exact absurd rfl elsewhere
    | dequeued image inHand | running image updates inHand => cases inHand
  · rw [if_neg same, List.append_nil]
    exact served.elsewhere same id

theorem Served.take (served : Served stream .free images events) (image : Bytes)
    (once : (images ++ if replyTx = stream then [image] else []).length ≤ 1) :
    Served stream (.dequeued replyTx) (images ++ if replyTx = stream then [image] else [])
      events := by
  by_cases same : replyTx = stream
  · subst same
    rw [if_pos rfl] at once ⊢
    cases served with
    | waiting => exact .dequeued image rfl
    | finished first => exact absurd once (Nat.not_succ_le_self 1)
    | dequeued image inHand | running image updates inHand | ended image updates status inHand =>
        cases inHand
  · rw [if_neg same, List.append_nil]
    exact served.elsewhere id same

/-- A client is served once, so that what the protocol permits keeps the account. -/
theorem Served.step (served : Served stream phase images events)
    (permitted : phase.Permits event.op) (once : (images ++ imagesOf stream event).length ≤ 1) :
    Served stream (phase.after event) (images ++ imagesOf stream event)
      (events ++ reportsOn stream event) := by
  have same : Served stream phase (images ++ []) (events ++ []) := by
    rw [List.append_nil, List.append_nil]
    exact served
  obtain ⟨op, answer⟩ := event
  cases op with
  | recvTimeout millis =>
      obtain rfl : phase = .free := permitted
      match answer with
      | .timeout | .disconnected | .command .reload | .command .restartLine => exact same
      | .command (.firmwareUpgrade image replyTx) =>
          have taken := served.take image once
          rw [← List.append_nil events] at taken
          exact taken
  | sendFwEvent replyTx event =>
      rw [show imagesOf stream ⟨.sendFwEvent replyTx event, answer⟩ = [] from rfl,
        List.append_nil]
      cases event with
      | progress update =>
          obtain rfl : phase = .running replyTx := permitted
          exact served.progress update
      | done result =>
          obtain rfl : phase = .ended replyTx (.ofResult result) := permitted
          exact served.done result
  | setFwStatus status =>
      rw [← List.append_nil images, ← List.append_nil events] at served
      cases status with
      | idle => cases permitted
      | upgrading =>
          obtain ⟨replyTx, rfl⟩ := permitted
          exact served.begin
      | upgradingProgress stage pct =>
          obtain ⟨replyTx, rfl⟩ := permitted
          exact served
      | done =>
          obtain ⟨replyTx, rfl⟩ := permitted
          exact served.finish .done
      | failed message =>
          obtain ⟨replyTx, rfl⟩ := permitted
          exact served.finish (.failed message)
  | _ =>
      cases phase <;> exact same

theorem Served.shape (served : Served stream phase images events) :
    ∃ (updates : List FwProgress) (results : List (Except String FwUpgradeResult)),
      events = updates.map .progress ++ results.map .done ∧ results.length ≤ 1 := by
  cases served with
  | waiting | dequeued => exact ⟨[], [], rfl, by decide⟩
  | running image updates | ended image updates =>
      exact ⟨updates, [], (List.append_nil _).symm, Nat.zero_le 1⟩
  | finished image updates result => exact ⟨updates, [result], rfl, Nat.le_refl 1⟩

/-- Nothing is reported past the result. -/
theorem Served.silent {result : Except String FwUpgradeResult} {more : List FwEvent}
    (served : Served stream phase images (events ++ more)) (told : .done result ∈ events) :
    more = [] := by
  obtain ⟨updates, results, all, once⟩ := served.shape
  rcases List.eq_nil_or_concat more with none | ⟨front, last, rfl⟩
  · exact none
  · have noResult (progress : events ++ front = updates.map .progress) : False := by
      have member : FwEvent.done result ∈ updates.map .progress :=
        progress ▸ List.mem_append_left front told
      obtain ⟨_, _, equal⟩ := List.mem_map.mp member
      cases equal
    rw [List.concat_eq_append, ← List.append_assoc] at all
    match results with
    | [] =>
        have member : FwEvent.done result ∈ updates.map .progress := by
          rw [List.map_nil, List.append_nil] at all
          exact all ▸ List.mem_append_left _ (List.mem_append_left front told)
        obtain ⟨_, _, equal⟩ := List.mem_map.mp member
        cases equal
    | [_] => exact (noResult (List.append_inj' all rfl).1).elim
    | _ :: _ :: _ => exact absurd once (by simp)

theorem Served.taken (served : Served stream phase images events) (told : events ≠ []) :
    ∃ image, images = [image] := by
  cases served with
  | waiting | dequeued => exact absurd rfl told
  | running image | ended image | finished image => exact ⟨image, rfl⟩

theorem Served.last (served : Served stream .free images events) (taken : images ≠ []) :
    ∃ result, events.getLast? = some (.done result) := by
  cases served with
  | waiting => exact absurd rfl taken
  | finished image updates result => exact ⟨result, List.getLast?_concat⟩
  | dequeued image inHand | running image updates inHand | ended image updates status inHand =>
      cases inHand

end Service

end RbctlDsl.Dsl
