import RbctlDsl.Dsl.CommandDelivery
import RbctlDsl.Dsl.RelayPhases
import RbctlDsl.Dsl.ReportPhases
import RbctlDsl.Dsl.UpgradeWindow

/-!
# Upgrade delivery

What a client is told of its upgrade.  The worker reports on the reply channel of the client, the
client's thread writes what it receives to the client's connection, and every client has a thread
and a channel of its own.
-/

namespace RbctlDsl.Dsl

open RbctlDsl.Lib RbctlDsl.Proto

namespace Process

open Threads

/-- The reply channel of a client. -/
def replies (stream : Nat) : Channel callsOf ResultOf Shared FwEvent where
  contents shared := shared.replies stream
  puts
    | .worker, event => reportsOn stream event
    | _, _ => []
  takes
    | .client other, event => if other = stream then receivedEvents event else []
    | _, _ => []
  closed := (clientGone · stream)

section Channel

variable {process process' : Process} {shared : Shared} {stream fuel : Nat} {i : ThreadId}
  {event : Event (callsOf i)}

/-- A client's thread that is gone stays so. -/
theorem clientGone_step (step : Step (meaning fuel) process i event process')
    (gone : process.clientGone stream = true) : process'.clientGone stream = true := by
  have same := step.thread_of_ended Thread.returned (fun _ _ _ => rfl) gone
  rw [clientGone, same]
  exact gone

/-- A reply channel that the worker has let go of is not reported to again. -/
theorem replyTxDropped_step (step : Step (meaning fuel) process i event process')
    (dropped : process.replyTxDropped stream = true) : process'.replyTxDropped stream = true := by
  rw [replyTxDropped, Bool.or_eq_true] at dropped ⊢
  rcases dropped with stopped | told
  · exact .inl (workerStopped_step step stopped)
  · refine .inr ?_
    by_cases same : .worker = i
    · subst same
      rw [step.history_self, List.any_append, told, Bool.true_or]
    · rw [step.history_other same, told]

theorem replies_report (replyTx : Nat) (event : FwEvent) :
    (process.report replyTx event).replies stream = process.shared.replies stream ++
      if process.clientGone stream then [] else if replyTx = stream then [event] else [] := by
  unfold report
  by_cases same : replyTx = stream
  · subst same
    split <;> simp
  · rw [if_neg same, ite_self, List.append_nil]
    split
    · rfl
    · exact Function.update_of_ne (Ne.symm same) ..

theorem replies_mainEffect {event : Event daemonCalls}
    (effect : mainEffect process event = some shared) :
    shared.replies = process.shared.replies := by
  obtain ⟨op, answer⟩ := event
  cases op with
  | shouldExit => rw [seeExit_eq_some effect]
  | sendCmd cmd =>
      cases effect
      unfold send
      split <;> rfl
  | waitWorker millis =>
      simp only [mainEffect] at effect
      split at effect
      · cases effect
      · cases effect
        rfl
  | _ =>
      cases effect
      rfl

theorem replies_workerEffect {event : Event workerCalls}
    (effect : workerEffect process event = some shared) :
    shared.replies stream = process.shared.replies stream ++
      if process.clientGone stream then [] else reportsOn stream event := by
  have nothing (silent : reportsOn stream event = [])
      (same : shared.replies = process.shared.replies) :
      shared.replies stream = process.shared.replies stream ++
        if process.clientGone stream then [] else reportsOn stream event := by
    rw [silent, ite_self, same, List.append_nil]
  obtain ⟨op, answer⟩ := event
  cases op with
  | shouldExit => exact nothing rfl (by rw [seeExit_eq_some effect])
  | recvTimeout millis =>
      cases answer with
      | command cmd =>
          simp only [workerEffect] at effect
          split at effect
          · split at effect
            · cases effect
              exact nothing rfl rfl
            · cases effect
          · cases effect
      | timeout | disconnected =>
          simp only [workerEffect] at effect
          split at effect
          · cases effect
            exact nothing rfl rfl
          · cases effect
  | sendFwEvent replyTx event =>
      cases effect
      exact replies_report replyTx event
  | _ =>
      cases effect
      exact nothing rfl rfl

theorem replies_clientEffect {other : Nat} {event : Event ipcCalls}
    (effect : clientEffect other process event = some shared) :
    (if other = stream then receivedEvents event else []) ++ shared.replies stream =
      process.shared.replies stream := by
  have nothing (silent : receivedEvents event = [])
      (same : shared.replies = process.shared.replies) :
      (if other = stream then receivedEvents event else []) ++ shared.replies stream =
        process.shared.replies stream := by
    rw [silent, ite_self, same]
    rfl
  obtain ⟨op, answer⟩ := event
  cases op with
  | fwStatus =>
      simp only [clientEffect] at effect
      split at effect
      · cases effect
        exact nothing rfl rfl
      · cases effect
  | sendCmd cmd =>
      simp only [clientEffect] at effect
      split at effect
      · cases effect
      · cases effect
        refine nothing rfl ?_
        unfold send
        split <;> rfl
  | recv =>
      cases answer with
      | none =>
          simp only [clientEffect] at effect
          split at effect
          · cases effect
            exact nothing rfl rfl
          · cases effect
      | some event =>
          simp only [clientEffect] at effect
          split at effect
          · next first rest pending =>
              split at effect
              · next isFirst =>
                  subst isFirst
                  cases effect
                  by_cases same : other = stream
                  · subst same
                    simp [receivedEvents, pending]
                  · simp [same, Function.update_of_ne (Ne.symm same)]
              · cases effect
          · cases effect
  | _ =>
      cases effect
      exact nothing rfl rfl

theorem lawful_replies (fuel stream : Nat) :
    (replies stream).Lawful (meaning fuel) (.client stream) where
  fifo process process' i event step := by
    cases i with
    | main =>
        have same := replies_mainEffect step.effect
        change [] ++ process'.shared.replies stream = process.shared.replies stream ++ ite _ _ []
        rw [same, ite_self]
        exact (List.append_nil _).symm
    | worker => exact replies_workerEffect (effect_worker step).2
    | client other =>
        refine (replies_clientEffect (effect_client step).2).trans ?_
        change process.shared.replies stream = process.shared.replies stream ++ ite _ _ []
        rw [ite_self, List.append_nil]
  reads i event other := by
    cases i with
    | main | worker => rfl
    | client reader => exact if_neg fun same => other (congrArg ThreadId.client same)
  stays _ _ _ _ := clientGone_step

/-- Only the worker reports. -/
theorem owned_replies (i : ThreadId) (event : Event (callsOf i)) :
    Channel.Owned (replies stream) (fun _ => .worker) i event := by
  cases i with
  | worker => exact fun _ _ => rfl
  | main | client => exact fun _ member => by cases member

theorem of_worker (events : List FwEvent) :
    Channel.of (fun _ => ThreadId.worker) .worker events = events :=
  List.filter_eq_self.mpr fun _ _ => rfl

end Channel

abbrev ReportPhaseOf : ThreadId → Type
  | .main => List WorkerCmd
  | .worker => ReportPhase
  | .client _ => RelayPhase

def reportProtocolOf : (i : ThreadId) → Protocol (callsOf i) (ReportPhaseOf i)
  | .main => forwardProtocol
  | .worker => reportProtocol
  | .client _ => relayProtocol

/-- Where a client's thread is when it returns. -/
def reportEndsOf : (i : ThreadId) → ReportPhaseOf i → ResultOf i → Prop
  | .client _, phase, _ => phase.IsEnd
  | _, _, _ => True

/-- The worker reports, and the clients pass the reports on. -/
def reporting (fuel : Nat) : Discipline (meaning fuel) ReportPhaseOf where
  protocol := reportProtocolOf
  ends := reportEndsOf
  starts i _ event j program _ new := by
    cases i with
    | worker | client => cases new
    | main =>
        obtain ⟨op, answer⟩ := event
        cases op with
        | spawnWorker worker =>
            cases new
            exact (BoardWorker.reports_run fuel worker).mono fun _ _ _ => trivial
        | spawnFirmwareIpc path stream =>
            cases new
            exact relays_handleFirmwareIpc fuel path stream ()
        | _ => cases new

theorem reporting_launched (launch : Launch) :
    (reporting launch.fuel).Obeyed (launched launch) := by
  intro i thread there
  cases i with
  | worker | client => cases there
  | main =>
      cases there
      exact (leads_daemon launch.fuel launch.configIface _ [] rfl).mono fun _ _ _ => trivial

/-- What the worker has reported to a client. -/
def reports (process : Process) (stream : Nat) : List FwEvent :=
  (process.history .worker).flatMap (reportsOn stream)

/-- The images that the worker has taken from a client. -/
def images (process : Process) (stream : Nat) : List Bytes :=
  (process.history .worker).flatMap (imagesOf stream)

/-- The reports that have got into the reply channel. -/
def arrived (process : Process) (stream : Nat) : List FwEvent :=
  (replies stream).accepted (.client stream) process

/-- What every step keeps of one client's upgrade. -/
structure ReportInv (fuel stream : Nat) (process : Process) : Prop where
  channel : (replies stream).Delivers (fun _ => .worker) (.client stream) process .worker
  served : Served stream ((reporting fuel).phase process .worker) (images process stream)
    (reports process stream)
  account : RelayAccount (process.history (.client stream))
    ((reporting fuel).phase process (.client stream))
  cut : (reporting fuel).phase process (.client stream) = RelayPhase.cut →
    process.replyTxDropped stream = true ∧ arrived process stream = reports process stream

section Step

variable {fuel stream : Nat} {process process' : Process} {i : ThreadId} {event : Event (callsOf i)}

theorem of_taken (event : Event workerCalls) :
    Channel.of senderOf (.client stream) (taken .worker event) =
      (imagesOf stream event).map (.firmwareUpgrade · stream) := by
  obtain ⟨op, answer⟩ := event
  cases op with
  | recvTimeout millis =>
      match answer with
      | .timeout | .disconnected | .command .reload | .command .restartLine => rfl
      | .command (.firmwareUpgrade image replyTx) =>
          by_cases same : replyTx = stream
          · subst same
            simp [taken, Channel.of, senderOf, imagesOf]
          · simp [taken, Channel.of, senderOf, imagesOf, same]
  | _ => rfl

/-- The images are those of the client's upgrades that the worker has taken. -/
theorem of_received (process : Process) (stream : Nat) :
    Channel.of senderOf (.client stream) (commands.received .worker process) =
      (images process stream).map (.firmwareUpgrade · stream) := by
  rw [Channel.received, images, Channel.of]
  induction process.history .worker with
  | nil => rfl
  | cons event events ih =>
      rw [List.flatMap_cons, List.flatMap_cons, List.filter_append, List.map_append, ih]
      exact congrArg (· ++ _) (of_taken event)

/-- A client has one image taken at most, and it is one that the client has sent. -/
theorem images_of_reachable {launch : Launch} (reachable : Reachable launch process)
    (stream : Nat) :
    (images process stream).map (.firmwareUpgrade · stream) <+:
        commands.sent process (.client stream) ∧ (images process stream).length ≤ 1 := by
  have inv := deliveryInv_of_reachable reachable
  obtain ⟨all, once⟩ := inv.delivered.upgrade stream
  rw [Channel.accepted, Channel.of, List.filter_append] at all
  have isPrefix : (images process stream).map (.firmwareUpgrade · stream) <+:
      commands.sent process (.client stream) := by
    rw [← of_received, ← all]
    exact List.prefix_append _ _
  have fewer := isPrefix.length_le
  rw [List.length_map] at fewer
  exact ⟨isPrefix, fewer.trans once⟩

/-- A step of another thread leaves the worker's account as it is. -/
theorem worker_stays (stream : Nat) (other : .worker ≠ i)
    (step : Step (meaning fuel) process i event process') :
    reports process' stream = reports process stream ∧
      images process' stream = images process stream ∧
      (reporting fuel).phase process' .worker = (reporting fuel).phase process .worker := by
  have same := step.history_other other
  exact ⟨by rw [reports, same, reports], by rw [images, same, images],
    Discipline.phase_step_other step other⟩

theorem account_stays (other : .client stream ≠ i)
    (step : Step (meaning fuel) process i event process')
    (account : RelayAccount (process.history (.client stream))
      ((reporting fuel).phase process (.client stream))) :
    RelayAccount (process'.history (.client stream))
      ((reporting fuel).phase process' (.client stream)) := by
  rw [step.history_other other, Discipline.phase_step_other step other]
  exact account

/-- A worker that has let go of a reply channel does not report to it. -/
theorem reportsOn_of_dropped {event : Event (callsOf .worker)}
    (step : Step (meaning fuel) process .worker event process')
    (dropped : process.replyTxDropped stream = true)
    {phase : ReportPhase} {images : List Bytes}
    (served : Served stream phase images (reports process stream ++ reportsOn stream event)) :
    reportsOn stream event = [] := by
  rw [replyTxDropped, Bool.or_eq_true] at dropped
  rcases dropped with stopped | told
  · have running : process.workerStopped = false :=
      step.any_self Thread.stopped fun _ _ _ => rfl
    rw [running] at stopped
    cases stopped
  · obtain ⟨⟨op, answer⟩, member, isResult⟩ := List.any_eq_true.mp told
    cases op with
    | sendFwEvent replyTx reported =>
        cases reported with
        | progress update => cases isResult
        | done result =>
            obtain rfl : replyTx = stream := eq_of_beq isResult
            have here : FwEvent.done result ∈
                reportsOn replyTx ⟨.sendFwEvent replyTx (.done result), answer⟩ := by
              rw [reportsOn, if_pos rfl]
              exact List.mem_singleton_self _
            exact served.silent (List.mem_flatMap.mpr ⟨_, member, here⟩)
    | _ => cases isResult

theorem ReportInv.step_worker {event : Event (callsOf .worker)}
    (inv : ReportInv fuel stream process)
    (permitted : ((reporting fuel).phase process .worker : ReportPhase).Permits event.op)
    (once : (images process' stream).length ≤ 1)
    (step : Step (meaning fuel) process .worker event process') :
    ReportInv fuel stream process' := by
  have reported : reports process' stream = reports process stream ++ reportsOn stream event := by
    rw [reports, step.history_self, List.flatMap_append, List.flatMap_singleton, reports]
  have taken : images process' stream = images process stream ++ imagesOf stream event := by
    rw [images, step.history_self, List.flatMap_append, List.flatMap_singleton, images]
  have after : (reporting fuel).phase process' .worker =
      ReportPhase.after ((reporting fuel).phase process .worker) event :=
    Discipline.phase_step_self step
  have client : (reporting fuel).phase process' (.client stream) =
      (reporting fuel).phase process (.client stream) := Discipline.phase_step_other step nofun
  rw [taken] at once
  have served := inv.served.step permitted once
  refine ⟨inv.channel.step (lawful_replies fuel stream) (owned_replies _ _) step, ?_,
    account_stays (fun equal => by cases equal) step inv.account, fun isCut => ?_⟩
  · rw [taken, reported, after]
    exact served
  · obtain ⟨dropped, all⟩ := inv.cut (client.symm.trans isCut)
    have silent : (replies stream).puts .worker event = [] :=
      reportsOn_of_dropped step dropped served
    refine ⟨replyTxDropped_step step dropped, ?_⟩
    rw [arrived, Channel.accepted_step (lawful_replies fuel stream) step, silent, ite_self,
      List.append_nil, reported, ← all, show reportsOn stream event = [] from silent,
      List.append_nil, arrived]

/-- Another thread reports nothing. -/
theorem ReportInv.step_other {i : ThreadId} {event : Event (callsOf i)} (other : .worker ≠ i)
    (inv : ReportInv fuel stream process)
    (account : RelayAccount (process'.history (.client stream))
      ((reporting fuel).phase process' (.client stream)))
    (cut : (reporting fuel).phase process' (.client stream) = RelayPhase.cut →
      process.replyTxDropped stream = true ∧ arrived process stream = reports process stream)
    (step : Step (meaning fuel) process i event process') : ReportInv fuel stream process' := by
  obtain ⟨sameReports, sameImages, samePhase⟩ := worker_stays stream other step
  have nothing : (replies stream).puts i event = [] := by
    cases i with
    | worker => exact absurd rfl other
    | main | client => rfl
  refine ⟨inv.channel.step (lawful_replies fuel stream) (owned_replies _ _) step, ?_, account,
    fun isCut => ?_⟩
  · rw [sameReports, sameImages, samePhase]
    exact inv.served
  · obtain ⟨dropped, all⟩ := cut isCut
    refine ⟨replyTxDropped_step step dropped, ?_⟩
    rw [arrived, Channel.accepted_step (lawful_replies fuel stream) step, nothing, ite_self,
      List.append_nil, sameReports, ← all, arrived]

/-- A client that has not returned misses nothing. -/
theorem ReportInv.arrived_eq (inv : ReportInv fuel stream process)
    (there : process.clientGone stream = false) :
    arrived process stream = reports process stream := by
  have all := inv.channel.complete there
  rwa [of_worker] at all

/-- A client finds its channel cut when the worker has let go of it. -/
theorem ReportInv.cut_of_client {event : Event (callsOf (.client stream))}
    (inv : ReportInv fuel stream process)
    (step : Step (meaning fuel) process (.client stream) event process')
    (permitted : ((reporting fuel).phase process (.client stream) : RelayPhase).Permits event.op)
    (isCut : RelayPhase.after ((reporting fuel).phase process (.client stream)) event = .cut) :
    process.replyTxDropped stream = true ∧ arrived process stream = reports process stream := by
  have there : process.clientGone stream = false :=
    step.any_self Thread.returned fun _ _ _ => rfl
  refine ⟨?_, inv.arrived_eq there⟩
  have effect := (effect_client step).2
  obtain rfl : event = ⟨.recv, none⟩ := RelayPhase.recv_of_cut permitted isCut
  simp only [clientEffect] at effect
  split at effect
  · next dropped => exact dropped.2
  · cases effect

theorem ReportInv.step (inv : ReportInv fuel stream process)
    (permitted : ((reporting fuel).protocol i).permits ((reporting fuel).phase process i) event.op)
    (once : (images process' stream).length ≤ 1)
    (step : Step (meaning fuel) process i event process') : ReportInv fuel stream process' := by
  -- what another thread than the client's leaves of its account and of its end
  have kept (other : .client stream ≠ i) (silent : .worker ≠ i) :
      ReportInv fuel stream process' := by
    have same : (reporting fuel).phase process' (.client stream) =
        (reporting fuel).phase process (.client stream) := Discipline.phase_step_other step other
    exact inv.step_other silent (account_stays other step inv.account)
      (fun isCut => inv.cut (same.symm.trans isCut)) step
  cases i with
  | worker => exact inv.step_worker permitted once step
  | main => exact kept nofun nofun
  | client other =>
      by_cases same : other = stream
      · subst same
        have after : (reporting fuel).phase process' (.client other) =
            RelayPhase.after ((reporting fuel).phase process (.client other)) event :=
          Discipline.phase_step_self step
        refine inv.step_other (fun equal => by cases equal) ?_ (fun isCut => ?_) step
        · rw [step.history_self, after]
          exact inv.account.step permitted
        · exact inv.cut_of_client step permitted (after.symm.trans isCut)
      · exact kept (fun equal => same (ThreadId.client.inj equal).symm) nofun

theorem reportInv_of_reachable {launch : Launch} (reachable : Reachable launch process)
    (stream : Nat) :
    ReportInv launch.fuel stream process := by
  induction reachable with
  | first =>
      exact ⟨⟨List.prefix_refl _, fun _ => rfl⟩, .waiting id,
        .opening (fun _ member => by cases member) rfl, fun isCut => by cases isCut⟩
  | step before isAllowed step ih =>
      have obeyed := Discipline.obeyed_of_reaches (reporting_launched launch) before
      have once := (images_of_reachable (.step before isAllowed step) stream).2
      exact ih.step (obeyed.permits step) once step

end Step

/-- What becomes of the reports to one client. -/
structure ReportsDelivered (fuel stream : Nat) (process : Process) : Prop where
  /-- A report is written to the client, is in the hand of its thread, is in the channel, or it is
  lost: that is so after a write that failed, which is the last thing that the thread has done. -/
  written : ∃ held lost : List FwEvent, held.length ≤ 1 ∧
    (reports process stream).map (·.reply.text) =
      relayed (process.history (.client stream)) ++
        (held ++ process.shared.replies stream ++ lost).map (·.reply.text) ∧
    (lost ≠ [] → ∃ event, held = [event] ∧
      (process.history (.client stream)).getLast? = some ⟨.write event.reply.text, false⟩)
  /-- Progress, and then at most one result. -/
  shape : ∃ (updates : List FwProgress) (results : List (Except String FwUpgradeResult)),
    reports process stream = updates.map .progress ++ results.map .done ∧ results.length ≤ 1
  /-- No client is told of an upgrade that it has not sent. -/
  own : reports process stream ≠ [] → ∃ image,
    commands.sent process (.client stream) = [.firmwareUpgrade image stream]
  /-- A worker that has gone on to something else has told the result. -/
  told : (reporting fuel).phase process .worker = ReportPhase.free → images process stream ≠ [] →
    ∃ result, (reports process stream).getLast? = some (.done result)

section Delivered

variable {fuel stream : Nat} {process : Process}

/-- A client that has not sent an upgrade has sent nothing. -/
theorem sent_of_opening
    (none : ∀ event ∈ process.history (.client stream), isSubmission event = false) :
    commands.sent process (.client stream) = [] := by
  rw [Channel.sent, List.flatMap_eq_nil_iff]
  intro event member
  have unsent := none event member
  obtain ⟨op, answer⟩ := event
  cases op with
  | sendCmd cmd =>
      cases answer with
      | false => rfl
      | true => cases unsent
  | _ => rfl

/-- What has been received of the reports that have arrived. -/
theorem arrived_eq_received (process : Process) (stream : Nat) : arrived process stream =
    (process.history (.client stream)).flatMap receivedEvents ++ process.shared.replies stream := by
  refine congrArg (fun takes => List.flatMap takes (process.history (.client stream)) ++ _) ?_
  funext event
  exact if_pos rfl

/-- A report that has not arrived is lost with a client's connection. -/
theorem ReportInv.lost (inv : ReportInv fuel stream process)
    (obeyed : (reporting fuel).Obeyed process)
    (own : reports process stream ≠ [] → commands.sent process (.client stream) ≠ [])
    {lost : List FwEvent} (all : arrived process stream ++ lost = reports process stream)
    (some : lost ≠ []) :
    ∃ event, (reporting fuel).phase process (.client stream) = RelayPhase.broken event := by
  have missed : arrived process stream ≠ reports process stream := by
    intro same
    rw [← all] at same
    exact some (List.append_right_eq_self.mp same.symm)
  have gone : process.clientGone stream = true := by
    by_contra there
    exact missed (inv.arrived_eq (Bool.not_eq_true _ ▸ there))
  rw [clientGone, Option.any_eq_true] at gone
  obtain ⟨⟨history, rest⟩, there, returned⟩ := gone
  have account := inv.account
  cases rest with
  | pure value =>
      have isEnd : ((reporting fuel).phase process (.client stream) : RelayPhase).IsEnd :=
        obeyed.ends there
      cases phase : (reporting fuel).phase process (.client stream) with
      | opening =>
          rw [phase] at account
          cases account with
          | opening none silent =>
              refine absurd (sent_of_opening none) (own ?_)
              rw [← all]
              exact List.append_ne_nil_of_right_ne_nil _ some
      | relaying held =>
          rw [phase] at isEnd
          cases isEnd
      | cut => exact absurd (inv.cut phase).2 missed
      | told =>
          rw [phase] at account
          cases account with
          | told result last passed =>
              have served := inv.served
              rw [← all, arrived_eq_received] at served
              exact absurd (served.silent (List.mem_append_left _ last)) some
      | broken event => exact ⟨event, rfl⟩
  | perform op next => cases returned
  | panic message => cases returned
  | spin => cases returned

end Delivered

/-- In every order of steps, what a client is told of its upgrade is what the worker reports of
it: everything once, in its order, the result at the end, and nothing of another upgrade, up to a
write to the client that fails. -/
theorem reports_delivered {launch : Launch} {process : Process}
    (reachable : Reachable launch process) (stream : Nat) :
    ReportsDelivered launch.fuel stream process := by
  have inv := reportInv_of_reachable reachable stream
  have obeyed := Discipline.obeyed_of_reaches (reporting_launched launch) reachable
  obtain ⟨isPrefix, once⟩ := images_of_reachable reachable stream
  obtain ⟨_, sentOnce⟩ := (deliveryInv_of_reachable reachable).delivered.upgrade stream
  have own (told : reports process stream ≠ []) : ∃ image,
      commands.sent process (.client stream) = [.firmwareUpgrade image stream] := by
    obtain ⟨image, isTaken⟩ := inv.served.taken told
    rw [isTaken, List.map_singleton] at isPrefix
    exact ⟨image, (isPrefix.eq_of_length_le sentOnce).symm⟩
  refine ⟨?_, inv.served.shape, own, fun free taken => ?_⟩
  · have hasSent (told : reports process stream ≠ []) :
        commands.sent process (.client stream) ≠ [] := by
      obtain ⟨image, isSent⟩ := own told
      rw [isSent]
      exact List.cons_ne_nil _ _
    have arrives := inv.channel.isPrefix
    rw [of_worker] at arrives
    obtain ⟨lost, all⟩ := arrives
    change arrived process stream ++ lost = reports process stream at all
    refine ⟨RelayPhase.held ((reporting launch.fuel).phase process (.client stream)), lost,
      RelayPhase.length_held _, ?_, ?_⟩
    · have received := inv.account.received_eq
      rw [← all, arrived_eq_received, List.append_assoc, List.map_append, received]
      simp only [List.map_append, List.append_assoc]
    · intro some
      obtain ⟨event, broken⟩ := inv.lost obeyed hasSent all some
      have account := inv.account
      rw [broken] at account ⊢
      cases account with
      | broken last passed => exact ⟨event, rfl, last⟩
  · have served := inv.served
    rw [free] at served
    exact served.last taken

/-- The worker has reported the first progress of an upgrade. -/
theorem exists_reported : ∃ (process : Process) (stream : Nat),
    Reachable upgradeLaunch process ∧ reports process stream ≠ [] := by
  obtain ⟨process, _, _, _, _, _, _, _, reachable, shared, client, fresh, main, _⟩ :=
    exists_oneClient
  obtain ⟨hdr, valid⟩ := validateImage_smallest
  have running : process.exited = false := by
    rw [exited, main]
    rfl
  have there : process.workerStopped = false := by
    rw [workerStopped, fresh]
    rfl
  obtain ⟨sent, toSent, sameSent, restSent⟩ :=
    exists_sent reachable client running there (by rw [shared]) valid
  have runsSent := (exited_congr (restSent .main (by decide))).trans running
  obtain ⟨announced, toAnnounced, _, midUpload, _, restAnnounced⟩ :=
    exists_announced toSent runsSent ((restSent .worker (by decide)).trans fresh)
      (by rw [sameSent, shared]) (by rw [sameSent, shared, List.nil_append])
  have runsAnnounced := (exited_congr (restAnnounced .main (by decide))).trans runsSent
  obtain ⟨history, retries, payload, answer, replyTx, update, next, atReport⟩ := midUpload
  obtain ⟨reported, toReported, _, performed, _⟩ :=
    exists_perform toAnnounced .worker (.sendFwEvent replyTx (.progress update)) () _ atReport
      (effect_worker_eq runsAnnounced) rfl
  refine ⟨reported, replyTx, toReported, ?_⟩
  rw [reports, history_of_thread performed, List.flatMap_append]
  simp [reportsOn]

theorem reports_delivered_progress : ∃ (process : Process) (stream : Nat),
    reports process stream ≠ [] ∧ ReportsDelivered upgradeLaunch.fuel stream process := by
  obtain ⟨process, stream, reachable, told⟩ := exists_reported
  exact ⟨process, stream, told, reports_delivered reachable stream⟩

end Process

end RbctlDsl.Dsl
