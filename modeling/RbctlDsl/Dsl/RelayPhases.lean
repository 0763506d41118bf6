import Mathlib.Data.List.TakeWhile
import RbctlDsl.Dsl.FirmwareIpc

/-!
# Relaying to a client

What a client's thread makes of the events that the worker has for it.  It writes one after the
other to the client's connection, up to the result, up to the end of the channel, or up to a write
that fails.
-/

namespace RbctlDsl.Dsl

open RbctlDsl.Lib RbctlDsl.Proto

/-- The reply that an event is passed on with. -/
def FwEvent.reply : FwEvent → IpcReply
  | .progress update => .progress update
  | .done (.ok result) => .done result
  | .done (.error message) => .err message

/-- Before the upgrade is sent to the worker; past it, with what has been received and has not been
written; and the ends: the worker is gone, the result has been passed on, a write has failed. -/
inductive RelayPhase where
  | opening
  | relaying (held : Option FwEvent)
  | cut
  | told
  | broken (held : FwEvent)
  deriving DecidableEq

namespace RelayPhase

/-- Past a result nothing more is received. -/
def passedOn : FwEvent → RelayPhase
  | .progress _ => .relaying none
  | .done _ => .told

/-- The phase after a write, which may have failed. -/
def afterWrite : RelayPhase → Bool → RelayPhase
  | .relaying (some event), true => passedOn event
  | .relaying (some event), false => .broken event
  | phase, _ => phase

def after (phase : RelayPhase) : Event ipcCalls → RelayPhase
  | ⟨.sendCmd _, true⟩ => .relaying none
  | ⟨.recv, some event⟩ => .relaying (some event)
  | ⟨.recv, none⟩ => .cut
  | ⟨.write _, written⟩ => phase.afterWrite written
  | _ => phase

/-- One event is received at a time, nothing else is written once the upgrade is sent, and nothing
at all is done past an end. -/
def Permits (phase : RelayPhase) : IpcOp → Prop
  | .sendCmd _ => phase = .opening
  | .recv => phase = .relaying none
  | .write text =>
    phase = .opening ∨ ∃ event, phase = .relaying (some event) ∧ text = event.reply.text
  | _ => phase = .opening ∨ phase = .relaying none

/-- What has been received and has not been written. -/
def held : RelayPhase → List FwEvent
  | .relaying held => held.toList
  | .broken event => [event]
  | _ => []

/-- The phases in which the thread may return. -/
def IsEnd : RelayPhase → Prop
  | .relaying _ => False
  | _ => True

theorem length_held (phase : RelayPhase) : phase.held.length ≤ 1 := by
  cases phase with
  | relaying held => exact Option.length_toList_le
  | opening | cut | told => exact Nat.zero_le 1
  | broken event => exact Nat.le_refl 1

/-- The worker is found gone when nothing is received any more. -/
theorem recv_of_cut {phase : RelayPhase} {event : Event ipcCalls}
    (permitted : phase.Permits event.op) (isCut : phase.after event = .cut) :
    event = ⟨.recv, none⟩ := by
  obtain ⟨op, answer⟩ := event
  cases op with
  | fwStatus | readFile | flush | setWriteTimeout => rcases permitted with rfl | rfl <;> cases isCut
  | sendCmd cmd =>
      obtain rfl : phase = .opening := permitted
      cases answer <;> cases isCut
  | recv =>
      cases answer with
      | none => rfl
      | some event => cases isCut
  | write text =>
      rcases permitted with rfl | ⟨event, rfl, -⟩
      · cases isCut
      · cases answer with
        | true => cases event <;> cases isCut
        | false => cases isCut

end RelayPhase

def relayProtocol : Protocol ipcCalls RelayPhase where
  initial := .opening
  after := RelayPhase.after
  permits := RelayPhase.Permits

section Relay

open Protocol IpcHandler

/-- What is done before the upgrade is sent. -/
def OpeningOp : IpcOp → Prop
  | .fwStatus | .readFile _ | .write _ | .flush => True
  | _ => False

theorem stays_opening {op : IpcOp} (opens : OpeningOp op) : relayProtocol.Stays .opening op := by
  cases op with
  | fwStatus | readFile | flush | write => exact ⟨.inl rfl, fun _ => rfl⟩
  | sendCmd | setWriteTimeout | recv => cases opens

abbrev KeepsOpening {α : Type} (method : IpcHandler α) : Prop :=
  Keeps OpeningOp (fun _ => ()) method

theorem keepsOpening_refuse {α : Type} (message : String) :
    KeepsOpening (refuse message : IpcHandler α) :=
  keeps_bind (keeps_perform trivial) fun _ => keeps_fail ()

theorem keepsOpening_checkStatus : KeepsOpening checkStatus :=
  keeps_bind (keeps_perform trivial) fun _ => keeps_ite (keeps_pure ()) (keepsOpening_refuse _)

theorem keepsOpening_readImage (path : String) : KeepsOpening (readImage path) := by
  refine keeps_bind (keeps_perform trivial) fun contents => ?_
  cases contents with
  | error error => exact keepsOpening_refuse _
  | ok image =>
      dsimp only
      cases validateImage image with
      | error message => exact keepsOpening_refuse _
      | ok hdr => exact keeps_pure image

theorem keepsOpening_acknowledge (image : Bytes) : KeepsOpening (acknowledge image) := by
  refine keeps_bind (keeps_perform trivial) fun _ => ?_
  cases (parseHeader image).toOption with
  | none => exact keeps_perform trivial
  | some hdr => exact keeps_bind (keeps_perform trivial) fun _ => keeps_perform trivial

/-- One pass takes an event and writes it, or it comes to an end. -/
theorem relays_relayPass (locals state : Unit) :
    relayProtocol.Follows (passTo (.relaying none) fun reached _ => reached.IsEnd)
      (relayPass locals state) (.relaying none) := by
  refine follows_perform rfl fun event => ?_
  cases event with
  | none => exact follows_pure trivial
  | some event =>
      cases event with
      | progress update =>
          refine follows_perform (.inr ⟨_, rfl, rfl⟩) fun written => ?_
          cases written with
          | true => exact follows_perform (.inr rfl) fun _ => follows_pure rfl
          | false => exact follows_pure trivial
      | done result =>
          cases result with
          | ok result =>
              refine follows_perform (.inr ⟨_, rfl, rfl⟩) fun written => ?_
              cases written <;> exact follows_pure trivial
          | error message =>
              refine follows_perform (.inr ⟨_, rfl, rfl⟩) fun written => ?_
              cases written <;> exact follows_pure trivial

/-- What follows the opening: the upgrade is sent, and the events are passed on. -/
theorem relays_submit (fuel : Nat) (image : Bytes) (stream : Nat) (state : Unit) :
    relayProtocol.Follows (fun reached _ => reached.IsEnd)
      ((submit image stream >>= fun _ => Method.iterate relayPass fuel ()) state) .opening := by
  refine follows_perform rfl fun taken => ?_
  cases taken with
  | true =>
      refine follows_perform (.inr rfl) fun _ => ?_
      exact follows_iterate relays_relayPass fuel () state
  | false => exact follows_perform (.inl rfl) fun _ => follows_pure trivial

/-- The client's thread passes on what it receives, one event after the other. -/
theorem relays_handleFirmwareIpc (fuel : Nat) (path : String) (stream : Nat) (state : Unit) :
    relayProtocol.Follows (fun reached _ => reached.IsEnd)
      (handleFirmwareIpc fuel path stream state) .opening := by
  have begins {α : Type} {method : IpcHandler α} (keeps : KeepsOpening method) :
      Keeps (relayProtocol.Stays .opening) (fun _ => ()) method :=
    keeps.mono fun _ => stays_opening
  refine follows_bind_of_keeps (begins keepsOpening_checkStatus) (fun _ state => ?_)
    (fun _ _ => trivial) state
  refine follows_bind_of_keeps (begins (keepsOpening_readImage path)) (fun image state => ?_)
    (fun _ _ => trivial) state
  refine follows_bind_of_keeps (begins (keepsOpening_acknowledge image)) (fun _ state => ?_)
    (fun _ _ => trivial) state
  exact relays_submit fuel image stream state

end Relay

/-! ## What has been written -/

section Account

/-- The upgrade gets into the command channel. -/
def isSubmission : Event ipcCalls → Bool
  | ⟨.sendCmd _, taken⟩ => taken
  | _ => false

def writtenTexts : Event ipcCalls → List String
  | ⟨.write text, true⟩ => [text]
  | _ => []

def receivedEvents : Event ipcCalls → List FwEvent
  | ⟨.recv, some event⟩ => [event]
  | _ => []

/-- What is written to the client from the submission of its upgrade on. -/
def relayed (history : History ipcCalls) : List String :=
  (history.dropWhile fun event => !isSubmission event).flatMap writtenTexts

variable {history : History ipcCalls} {event : Event ipcCalls}

theorem relayed_of_unsent (none : ∀ event ∈ history, isSubmission event = false)
    (later : History ipcCalls) : relayed (history ++ later) = relayed later := by
  rw [relayed, List.dropWhile_append_of_pos, relayed]
  intro event member
  rw [none event member]
  rfl

theorem relayed_snoc (submitted : ∃ event ∈ history, isSubmission event = true)
    (event : Event ipcCalls) :
    relayed (history ++ [event]) = relayed history ++ writtenTexts event := by
  have some : (history.dropWhile fun event => !isSubmission event).isEmpty = false := by
    rw [← Bool.not_eq_true, List.isEmpty_iff, List.dropWhile_eq_nil_iff]
    obtain ⟨first, member, isFirst⟩ := submitted
    intro all
    have unsent := all first member
    rw [isFirst] at unsent
    cases unsent
  rw [relayed, List.dropWhile_append, some, if_neg Bool.false_ne_true, List.flatMap_append,
    List.flatMap_singleton, relayed]

/-- What the phase says about the history: what has been received is what has been written, and what
the phase holds. -/
inductive RelayAccount (history : History ipcCalls) : RelayPhase → Prop
  | opening (none : ∀ event ∈ history, isSubmission event = false)
      (silent : history.flatMap receivedEvents = []) : RelayAccount history .opening
  | relaying {held : Option FwEvent} (submitted : ∃ event ∈ history, isSubmission event = true)
      (inHand : ∀ event ∈ held, event ∈ history.flatMap receivedEvents)
      (passed : (history.flatMap receivedEvents).map (·.reply.text) =
        relayed history ++ held.toList.map (·.reply.text)) : RelayAccount history (.relaying held)
  | cut (passed : (history.flatMap receivedEvents).map (·.reply.text) = relayed history) :
      RelayAccount history .cut
  | told (result : Except String FwUpgradeResult)
      (last : .done result ∈ history.flatMap receivedEvents)
      (passed : (history.flatMap receivedEvents).map (·.reply.text) = relayed history) :
      RelayAccount history .told
  | broken {held : FwEvent} (last : history.getLast? = some ⟨.write held.reply.text, false⟩)
      (passed : (history.flatMap receivedEvents).map (·.reply.text) =
        relayed history ++ [held.reply.text]) : RelayAccount history (.broken held)

theorem received_snoc (nothing : receivedEvents event = []) :
    (history ++ [event]).flatMap receivedEvents = history.flatMap receivedEvents := by
  rw [List.flatMap_append, List.flatMap_singleton, nothing, List.append_nil]

/-- Before the upgrade is sent nothing is received, whatever is done. -/
theorem RelayAccount.open (account : RelayAccount history .opening)
    (unsent : isSubmission event = false) (nothing : receivedEvents event = []) :
    RelayAccount (history ++ [event]) .opening := by
  cases account with
  | opening none unheard =>
      refine .opening (fun other member => ?_) ((received_snoc nothing).trans unheard)
      rcases List.mem_append.mp member with before | last
      · exact none other before
      · rw [List.mem_singleton.mp last]
        exact unsent

/-- Nothing is written and nothing received. -/
theorem RelayAccount.idle {held : Option FwEvent} (account : RelayAccount history (.relaying held))
    (nothing : receivedEvents event = []) (silent : writtenTexts event = []) :
    RelayAccount (history ++ [event]) (.relaying held) := by
  cases account with
  | relaying submitted inHand passed =>
      have written := relayed_snoc submitted event
      rw [silent, List.append_nil] at written
      obtain ⟨first, member, isFirst⟩ := submitted
      rw [← received_snoc nothing] at inHand passed
      rw [← written] at passed
      exact .relaying ⟨first, List.mem_append_left _ member, isFirst⟩ inHand passed

/-- The upgrade gets into the command channel. -/
theorem RelayAccount.submit {cmd : WorkerCmd} (account : RelayAccount history .opening) :
    RelayAccount (history ++ [⟨.sendCmd cmd, true⟩]) (.relaying none) := by
  cases account with
  | opening none silent =>
      refine .relaying ⟨_, List.mem_append_right _ (List.mem_singleton_self _), rfl⟩
        (fun _ inHand => by cases inHand) ?_
      rw [relayed_of_unsent none, received_snoc rfl, silent]
      rfl

theorem RelayAccount.recv (account : RelayAccount history (.relaying none))
    (received : Option FwEvent) :
    RelayAccount (history ++ [⟨.recv, received⟩]) (RelayPhase.after (.relaying none)
      ⟨.recv, received⟩) := by
  cases account with
  | relaying submitted _ passed =>
      have written := relayed_snoc submitted ⟨.recv, received⟩
      rw [show writtenTexts ⟨.recv, received⟩ = [] from rfl, List.append_nil] at written
      rw [Option.toList_none, List.map_nil, List.append_nil] at passed
      cases received with
      | none =>
          refine .cut ?_
          rw [received_snoc rfl, written, passed]
      | some event =>
          obtain ⟨first, member, isFirst⟩ := submitted
          refine .relaying ⟨first, List.mem_append_left _ member, isFirst⟩ ?_ ?_
          · rintro _ ⟨⟩
            rw [List.flatMap_append]
            exact List.mem_append_right _ (List.mem_singleton_self _)
          · rw [written, ← passed, List.flatMap_append, List.map_append]
            rfl

/-- The event in hand is written, or it stays in hand for good. -/
theorem RelayAccount.write {event : FwEvent}
    (account : RelayAccount history (.relaying (some event))) (written : Bool) :
    RelayAccount (history ++ [⟨.write event.reply.text, written⟩])
      (RelayPhase.afterWrite (.relaying (some event)) written) := by
  cases account with
  | relaying submitted inHand passed =>
      cases written with
      | false =>
          have nothing := relayed_snoc submitted ⟨.write event.reply.text, false⟩
          refine .broken List.getLast?_concat ?_
          rw [received_snoc rfl, nothing, passed]
          exact congrArg (· ++ [event.reply.text]) (List.append_nil _).symm
      | true =>
          have told := relayed_snoc submitted ⟨.write event.reply.text, true⟩
          have passedOn : (history.flatMap receivedEvents).map (·.reply.text) =
              relayed (history ++ [⟨.write event.reply.text, true⟩]) := passed.trans told.symm
          cases event with
          | progress update =>
              obtain ⟨first, member, isFirst⟩ := submitted
              refine .relaying ⟨first, List.mem_append_left _ member, isFirst⟩
                (fun _ inHand => by cases inHand) ?_
              rw [received_snoc rfl, passedOn]
              exact (List.append_nil _).symm
          | done result =>
              refine .told result ?_ ?_
              · rw [received_snoc rfl]
                exact inHand _ rfl
              · rw [received_snoc rfl, passedOn]

/-- What the protocol permits keeps the account. -/
theorem RelayAccount.step {phase : RelayPhase} (account : RelayAccount history phase)
    (permitted : phase.Permits event.op) :
    RelayAccount (history ++ [event]) (phase.after event) := by
  obtain ⟨op, answer⟩ := event
  cases op with
  | fwStatus | readFile | flush | setWriteTimeout =>
      rcases permitted with rfl | rfl
      · exact account.open rfl rfl
      · exact account.idle rfl rfl
  | sendCmd cmd =>
      obtain rfl : phase = .opening := permitted
      cases answer with
      | false => exact account.open rfl rfl
      | true => exact account.submit
  | recv =>
      obtain rfl : phase = .relaying none := permitted
      exact account.recv answer
  | write text =>
      rcases permitted with rfl | ⟨event, rfl, rfl⟩
      · exact account.open rfl rfl
      · exact account.write answer

/-- What has been received has been written, but for what is held. -/
theorem RelayAccount.received_eq {phase : RelayPhase} (account : RelayAccount history phase) :
    (history.flatMap receivedEvents).map (·.reply.text) =
      relayed history ++ phase.held.map (·.reply.text) := by
  cases account with
  | opening none silent =>
      have unwritten := relayed_of_unsent none []
      rw [List.append_nil] at unwritten
      rw [silent, unwritten]
      rfl
  | relaying submitted inHand passed => exact passed
  | cut passed => exact passed.trans (List.append_nil _).symm
  | told result last passed => exact passed.trans (List.append_nil _).symm
  | broken last passed => exact passed

end Account

end RbctlDsl.Dsl
