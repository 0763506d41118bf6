import RbctlDsl.Dsl.BoardAccess
import RbctlDsl.Dsl.LineCommands
import RbctlDsl.Dsl.RequestTrace

/-!
# The effective timeout

The timeout of `Board` is also one of its socket.  `set_timeout` changes both, and an upgrade
assigns the field alone, so that it waits with a timeout of its own only where the socket has it
already.
-/

namespace RbctlDsl.Dsl

open RbctlDsl.Lib RbctlDsl.Proto Protocol BoardWorker

namespace Board

/-- The timeout that the transport has accepted last. -/
def timeouts : Protocol timedTransport (Option Nat) where
  initial := none
  after
    | _, ⟨(_, .setTimeout millis), .ok ()⟩ => some millis
    | installed, _ => installed
  permits installed op := ∀ capacity, op.2 = .recvInto capacity → installed = some op.1

abbrev installed (history : History timedTransport) : Option Nat := timeouts.phase history

/-- Whenever the board receives, the timeout that was installed last is its own. -/
def EffectiveTimeout (events : History timedTransport) : Prop :=
  ∀ earlier event later, events = earlier ++ event :: later →
    ∀ capacity, event.op.2 = .recvInto capacity → installed earlier = some event.op.1

/-- A receive waits with the installed timeout. -/
def Timely (earlier : History timedTransport) (event : Event timedTransport) : Prop :=
  timeouts.permits (installed earlier) event.op

theorem effectiveTimeout_iff {events : History timedTransport} :
    EffectiveTimeout events ↔ Along Timely [] events := by
  rw [along_iff_forall_split]
  rfl

/-- A transmission installs nothing. -/
theorem installed_send {history : History timedTransport} {timeout : Nat} {data : Bytes}
    (answer : Except IoError Unit) :
    installed (history ++ [⟨(timeout, .send data), answer⟩]) = installed history :=
  phase_snoc timeouts history _

/-! ## A request -/

/-- A call of the transport that is not for its timeout. -/
def SparesTimeout : TransportOp → Prop
  | .setTimeout _ => False
  | _ => True

section Request

variable {subtype : UInt8} {seq : UInt32}

theorem keeps_examine (data : Bytes) :
    Keeps SparesTimeout timeout (examine subtype seq data) := by
  unfold examine
  cases Frame.parse data with
  | none => exact keeps_pure _
  | some f =>
      apply keeps_ite
      · exact keeps_pure _
      · apply keeps_bind (keeps_orPanic _ _)
        intro valid
        exact keeps_ite (keeps_fail _) (keeps_pure _)

theorem keeps_receive (locals : Unit) :
    Keeps SparesTimeout timeout (receive subtype seq locals) := by
  apply keeps_bind (keeps_perform trivial)
  intro received
  match received with
  | .ok packet => exact keeps_examine packet.data
  | .error .wouldBlock => exact keeps_pure _
  | .error (.other text) => exact keeps_fail _

theorem keeps_attempts (fuel : Nat) (tx : Bytes) (left : Nat) :
    Keeps SparesTimeout timeout (attempts fuel subtype seq tx left) := by
  induction left with
  | zero => exact keeps_fail _
  | succ left ih =>
      apply keeps_bind (keeps_perform trivial)
      intro sent
      cases sent with
      | error error => exact keeps_fail _
      | ok sending =>
          apply keeps_bind (keeps_iterate keeps_receive fuel ())
          intro answer
          cases answer with
          | none => exact ih
          | some payload => exact keeps_pure payload

/-- A request leaves both timeouts alone. -/
theorem keeps_request (fuel : Nat) (payload : Bytes) :
    Keeps SparesTimeout timeout (request fuel subtype payload) := by
  refine keeps_bind (keeps_update fun _ => rfl) fun _ => ?_
  refine keeps_bind keeps_read fun board => ?_
  refine keeps_bind (keeps_orPanic _ _) fun built => ?_
  exact keeps_attempts fuel _ _

/-- Where the board's timeout is installed, a call that is not for the timeout keeps it so. -/
theorem stays_installed (millis : Nat) (op : TransportOp) (spares : SparesTimeout op) :
    timeouts.Stays (some millis) (millis, op) := by
  cases op with
  | send data => exact ⟨nofun, fun _ => rfl⟩
  | recvInto capacity => exact ⟨fun _ _ => rfl, fun _ => rfl⟩
  | setTimeout other => exact absurd spares id

theorem follows_timed {ε α : Type} {method : Method transport Board ε α}
    (keeps : Keeps SparesTimeout timeout method) (board : Board) :
    timeouts.Follows
      (fun reached result => reached = some board.timeout ∧ result.2.timeout = board.timeout)
      (timed method board) (some board.timeout) :=
  follows_observed keeps (stays_installed board.timeout)

end Request

/-! ## An upgrade -/

/-- The board accepts the ANNOUNCE of an upgrade. -/
def AnnounceAccepted (fuel : Nat) (oracle : Oracle timedTransport)
    (history : History timedTransport) (board : Board) (image : Bytes) : Prop :=
  ∃ reply after,
    ((timedRequest fuel 8 (announcePayload image.length.toUInt32)
      (board.withSettings ⟨timeoutAnnounceMs, retriesAnnounce⟩)).exec oracle history).outcome =
        .returned (.ok reply, after) ∧ StatusZero reply

/-- The first STREAM of an image overruns the transmit buffer. -/
def FirstChunkOverruns (image : Bytes) : Prop :=
  0 < totalChunks image ∧
    ∃ chunk, chunkAt? image 0 = some chunk ∧ ¬ fitsTxBuf (streamPayload 0 chunk)

/-- An operation leaves the board's timeout installed: the socket takes a new timeout or has it,
and an upgrade finds the timeout of its ANNOUNCE in place and goes no further. -/
def Installs (fuel : Nat) (oracle : Oracle timedTransport) (history : History timedTransport)
    (board : Board) : BoardCall → Prop
  | .setTimeout millis =>
    oracle history (board.timeout, .setTimeout millis) = .ok () ∨ installed history = some millis
  | .typed (.firmwareUpgrade image) =>
    board.timeout = timeoutAnnounceMs ∧
      (AnnounceAccepted fuel oracle history board image → FirstChunkOverruns image)
  | .setRetries _ | .typed _ => True

/-- Receives wait with the timeout that is installed, on the answers of an oracle. -/
def waitContract (oracle : Oracle timedTransport) : Contract timedTransport where
  may := timeouts.contract.may
  answers earlier event := event.answer = oracle earlier event.op

section Upgrade

variable {fuel : Nat} {oracle : Oracle timedTransport} {history : History timedTransport}
  {board : Board} {image : Bytes}

/-- A call that is not for the timeout, made while the board's timeout is installed. -/
theorem safe_timed {ε α : Type} {method : Method transport Board ε α}
    (keeps : Keeps SparesTimeout timeout method) (board : Board)
    (agrees : installed history = some board.timeout) :
    Safe (waitContract oracle)
      (fun later result => (installed later = some board.timeout ∧
          result.2.timeout = board.timeout) ∧
        ((timed method board).exec oracle history).outcome = .returned result)
      (timed method board) history := by
  have safe := follows_timed keeps board history agrees
  refine Safe.and_returned (safe.weaken (fun _ _ => id) (fun _ _ _ => trivial) fun _ => id) ?_
  exact fun _ _ promised => promised

theorem safe_timedRequest (subtype : UInt8) (payload : Bytes) (board : Board)
    (agrees : installed history = some board.timeout) :
    Safe (waitContract oracle)
      (fun later result => (installed later = some board.timeout ∧
          result.2.timeout = board.timeout) ∧
        ((timedRequest fuel subtype payload board).exec oracle history).outcome =
          .returned result)
      (timedRequest fuel subtype payload board) history := by
  unfold timedRequest
  exact safe_timed (keeps_request fuel payload) board agrees

/-- The announce stage, begun with its own timeout in place. -/
theorem safe_announceStage (board : Board) (agrees : installed history = some board.timeout)
    (inPlace : board.timeout = timeoutAnnounceMs) :
    Safe (waitContract oracle)
      (fun later result => installed later = some timeoutAnnounceMs ∧
        result.2.timeout = timeoutAnnounceMs ∧
          (result.1 = .ok () → AnnounceAccepted fuel oracle history board image))
      ((access fuel).announceStage board.settings image board) history := by
  have begun : installed history =
      some (board.withSettings ⟨timeoutAnnounceMs, retriesAnnounce⟩).timeout := by
    rw [agrees, inPlace]
    rfl
  rw [BoardAccess.announceStage, BoardAccess.statusStage, access_assign_bind, access_request]
  refine Method.safe_bind (safe_timedRequest 8 _ _ begun) ?_ ?_
  · rintro later reply after ⟨⟨here, same⟩, returned⟩
    by_cases zero : StatusZero reply
    · rw [BoardAccess.rejectStatus_of_zero zero]
      exact ⟨here, same, fun _ => ⟨reply, after, returned, zero⟩⟩
    · rw [BoardAccess.rejectStatus_of_nonzero zero]
      exact ⟨here, inPlace, fun ok => by cases ok⟩
  · rintro later error after ⟨⟨here, same⟩, returned⟩
    exact ⟨here, same, fun ok => by cases ok⟩

/-- A stream stage whose first chunk overruns the transmit buffer makes no request. -/
theorem streamStage_overruns (overruns : FirstChunkOverruns image) (turns : Nat) :
    (access fuel).streamStage turns image board = .spin ∨
      ∃ message, (access fuel).streamStage turns image board = .panic message := by
  obtain ⟨inside, chunk, found, large⟩ := overruns
  cases turns with
  | zero => exact .inl rfl
  | succ turns =>
      right
      refine ⟨tooSmall (streamPayload 0 chunk), ?_⟩
      rw [BoardAccess.streamStage, access_assign_bind, Method.iterate, Method.bind_apply,
        BoardAccess.streamPass, if_pos inside, found, Method.bind_apply, Method.orPanic_some,
        Program.pure_bind, Method.resume_ok, Method.bind_apply, access_request,
        timedRequest, timed, Method.observed, request_panics _ _ _ _ large]
      rfl

theorem safe_firmwareUpgrade (agrees : installed history = some board.timeout)
    (installs : Installs fuel oracle history board (.typed (.firmwareUpgrade image))) :
    Safe (waitContract oracle) (fun later result => installed later = some result.2.timeout)
      ((access fuel).firmwareUpgrade fuel image board) history := by
  obtain ⟨inPlace, goesNoFurther⟩ := installs
  rw [BoardAccess.firmwareUpgrade, access_settings_bind]
  refine Method.safe_bind (safe_announceStage board agrees inPlace) ?_ ?_
  · rintro later _ after ⟨here, same, accepted⟩
    have overruns := goesNoFurther (accepted rfl)
    rw [Method.bind_apply]
    rcases streamStage_overruns overruns fuel with spins | ⟨message, panics⟩
    · rw [spins]
      trivial
    · rw [panics]
      trivial
  · rintro later error after ⟨here, same, accepted⟩
    exact here.trans (congrArg some same.symm)

end Upgrade

/-! ## The other operations -/

section Calls

variable {fuel : Nat} {oracle : Oracle timedTransport} {history : History timedTransport}
  {board : Board}

theorem safe_setTimeout {millis : Nat}
    (installs : Installs fuel oracle history board (.setTimeout millis)) :
    Safe (waitContract oracle) (fun later result => installed later = some result.2.timeout)
      (BoardCall.run fuel (.setTimeout millis) board) history := by
  refine ⟨nofun, fun answer answered => ?_⟩
  change installed (history ++ [⟨(board.timeout, .setTimeout millis), answer⟩]) = some millis
  rw [installed, phase_snoc]
  cases answer with
  | ok done => rfl
  | error error =>
      cases installs with
      | inl accepted => cases answered.trans accepted
      | inr already => exact already

/-- No typed method but an upgrade changes the settings. -/
theorem keeps_typed {call : TypedCall} (other : ∀ image, call ≠ .firmwareUpgrade image) :
    Keeps (fun _ => True) Settings.timeout (call.run fuel) := by
  have exchanged {α : Type} (opcode : UInt8) (payload : Bytes)
      (decode : Bytes → Except BoardError α) :
      Keeps (fun _ => True) Settings.timeout (exchange opcode payload decode) :=
    (keeps_exchange opcode payload decode).mono fun _ _ => trivial
  cases call with
  | lineConfigUp | lineConfigDown => exact exchanged _ _ _
  | atmLinkDel | ptmLinkDel =>
      rw [TypedCall.run]
      exact exchanged _ _ _
  | getLineObj | getChannelStats | atmLinkAdd | ptmLinkAdd =>
      exact keeps_bind (exchanged _ _ _) fun _ => keeps_pure ()
  | lineStatus =>
      have polled : Keeps (fun _ => True) Settings.timeout getLineObj := exchanged _ _ _
      exact keeps_bind (keeps_bind polled fun _ => keeps_pure _) fun _ => keeps_pure ()
  | firmwareUpgrade image => exact absurd rfl (other image)

theorem keeps_onTransport (fuel : Nat) (op : BoardOp) :
    Keeps SparesTimeout timeout (onTransport fuel op) := by
  cases op with
  | request retries subtype payload =>
      exact keeps_bind (keeps_update fun _ => rfl) fun _ => keeps_attempt (keeps_request fuel _)
  | progress update => exact keeps_pure ()

/-- The requests of a typed method wait with the installed timeout. -/
theorem safe_interp_timed {α : Type} {ends : α → Prop} {program : Program boardCalls α}
    {asked : History boardCalls}
    (safe : Safe (onlyOps fun _ => True) (fun _ => ends) program asked)
    (agrees : installed history = some board.timeout) :
    Safe (waitContract oracle)
      (fun later result => installed later = some board.timeout ∧
        result.2.timeout = board.timeout ∧ ∀ value, result.1 = .ok value → ends value)
      (program.interp (fun op => timed (onTransport fuel op)) board) history := by
  induction program generalizing asked history board with
  | pure value =>
      refine ⟨agrees, rfl, fun returned equal => ?_⟩
      cases equal
      exact safe
  | perform op next ih =>
      rw [Program.interp_perform]
      refine (safe_timed (keeps_onTransport fuel op) board agrees).bind ?_
      rintro later ⟨answer, after⟩ ⟨⟨here, same⟩, returned⟩
      cases answer with
      | error error => exact nomatch error
      | ok answer =>
          rw [← same] at here ⊢
          exact ih answer (safe.2 answer trivial) here
  | panic message => trivial
  | spin => trivial

theorem safe_typed {call : TypedCall} (other : ∀ image, call ≠ .firmwareUpgrade image)
    (agrees : installed history = some board.timeout) :
    Safe (waitContract oracle) (fun later result => installed later = some result.2.timeout)
      (BoardCall.run fuel (.typed call) board) history := by
  have unfolded : BoardCall.run fuel (.typed call) = (callTyped settings withSettings
      (fun op => timed (onTransport fuel op)) (call.run fuel) >>= fun _ => pure ()) := by
    cases call with
    | firmwareUpgrade image => exact absurd rfl (other image)
    | _ => rfl
  rw [unfolded]
  have called : Safe (waitContract oracle)
      (fun later result => installed later = some result.2.timeout)
      (callTyped settings withSettings (fun op => timed (onTransport fuel op)) (call.run fuel)
        board : Program timedTransport (Except Empty (Except BoardError Unit) × Board))
      history := by
    rw [callTyped, Method.bind_apply, Method.read_apply, Program.pure_bind, Method.resume_ok]
    refine Method.safe_bind (safe_interp_timed (keeps_typed other board.settings []) agrees) ?_
      fun _ error => error.elim
    rintro later ⟨result, settings⟩ after ⟨here, same, keeps⟩
    exact here.trans (congrArg some (keeps _ rfl).symm)
  exact Method.safe_bind called (fun _ _ _ here => here) fun _ error => error.elim

/-- An operation that leaves the board's timeout installed waits with it. -/
theorem safe_call {call : BoardCall} (agrees : installed history = some board.timeout)
    (installs : Installs fuel oracle history board call) :
    Safe (waitContract oracle) (fun later result => installed later = some result.2.timeout)
      (call.run fuel board) history := by
  cases call with
  | setTimeout millis => exact safe_setTimeout installs
  | setRetries retries => exact agrees
  | typed call =>
      by_cases upgrade : ∃ image, call = .firmwareUpgrade image
      · obtain ⟨image, rfl⟩ := upgrade
        have attempted := (safe_firmwareUpgrade agrees installs).bind fun later result here =>
          (show Safe (waitContract oracle)
            (fun later result => installed later = some result.2.timeout)
            (.pure (.ok result.1, result.2) : Program timedTransport
              (Except Empty (Except BoardError FwUpgradeResult) × Board)) later from here)
        exact Method.safe_bind attempted (fun _ _ _ here => here) fun _ error => nomatch error
      · exact safe_typed (fun image equal => upgrade ⟨image, equal⟩) agrees

end Calls

/-! ## Runs -/

/-- Every operation of a run leaves the board's timeout installed. -/
def AllInstall (fuel : Nat) (oracle : Oracle timedTransport) :
    List BoardCall → History timedTransport → Board → Prop
  | [], _, _ => True
  | call :: calls, history, board =>
    Installs fuel oracle history board call ∧
      ∀ events after,
        (call.run fuel board).exec oracle history = ⟨events, .returned (.ok (), after)⟩ →
          AllInstall fuel oracle calls (history ++ events) after

section Runs

variable {fuel : Nat} {oracle : Oracle timedTransport} {history : History timedTransport}
  {board : Board} {call : BoardCall} {calls : List BoardCall}

/-- A run waits with the installed timeout if its first operation does, and the rest does. -/
theorem along_runCalls_cons
    (first : Safe (waitContract oracle)
      (fun later result => installed later = some result.2.timeout) (call.run fuel board) history)
    (rest : ∀ events after, (call.run fuel board).exec oracle history =
        ⟨events, .returned (.ok (), after)⟩ →
      installed (history ++ events) = some after.timeout →
      Along Timely
        (history ++ events) ((runCalls fuel calls after).exec oracle (history ++ events)).events) :
    Along Timely history
      ((runCalls fuel (call :: calls) board).exec oracle history).events := by
  have waited := first.exec (Program.exec_along oracle _ history)
  rw [runCalls, Method.bind_apply, Program.exec_bind]
  cases run : (call.run fuel board).exec oracle history with
  | mk events outcome =>
      rw [run] at waited
      cases outcome with
      | returned result =>
          obtain ⟨result, after⟩ := result
          cases result with
          | error error => exact nomatch error
          | ok done => exact along_append.mpr ⟨waited.1, rest events after run waited.2⟩
      | panicked message => exact waited.1
      | spinning => exact waited.1

theorem along_runCalls (agrees : installed history = some board.timeout)
    (install : AllInstall fuel oracle calls history board) :
    Along Timely history
      ((runCalls fuel calls board).exec oracle history).events := by
  induction calls generalizing history board with
  | nil => trivial
  | cons call calls ih =>
      apply along_runCalls_cons (safe_call agrees install.1)
      intro events after run here
      exact ih here (install.2 events after run)

end Runs

/-- In a run that begins with `set_timeout`, and whose operations all leave the board's timeout
installed, the board waits with its own timeout whenever it receives. -/
theorem effectiveTimeout_runCalls (fuel : Nat) (oracle : Oracle timedTransport) (board : Board)
    (millis : Nat) (calls : List BoardCall)
    (install : AllInstall fuel oracle (.setTimeout millis :: calls) [] board) :
    EffectiveTimeout
      ((runCalls fuel (.setTimeout millis :: calls) board).exec oracle []).events := by
  apply effectiveTimeout_iff.mpr
  apply along_runCalls_cons (safe_setTimeout install.1)
  intro events after run here
  exact along_runCalls here (install.2 events after run)

/-! ## Where an operation does not keep the timeout installed -/

/-- A program receives with another timeout than the installed one, or fails and leaves the board
with another. -/
def Stalls {ε α : Type} (oracle : Oracle timedTransport) (history : History timedTransport)
    (program : Program timedTransport (Except ε α × Board)) : Prop :=
  ¬ Along Timely history (program.exec oracle history).events ∨
    ∃ events error after, program.exec oracle history = ⟨events, .returned (.error error, after)⟩ ∧
      installed (history ++ events) ≠ some after.timeout

section Stalls

variable {ε α β : Type} {fuel : Nat} {oracle : Oracle timedTransport}
  {history : History timedTransport} {board : Board}

/-- What begins with an untimely receive has one. -/
theorem untimely_bind {method : Method timedTransport Board ε α}
    (untimely : ¬ Along Timely history ((method board).exec oracle history).events)
    (next : α → Method timedTransport Board ε β) :
    ¬ Along Timely history (((method >>= next) board).exec oracle history).events := by
  intro along
  obtain ⟨later, split⟩ := Program.exec_bind_prefix oracle history (method board)
    (Method.resume next)
  rw [Method.bind_apply, ← split] at along
  exact untimely (along_append.mp along).1

theorem Stalls.bind {method : Method timedTransport Board ε α}
    (stalls : Stalls oracle history (method board))
    (next : α → Method timedTransport Board ε β) :
    Stalls oracle history ((method >>= next) board) := by
  rcases stalls with untimely | ⟨events, error, after, run, differs⟩
  · exact .inl (untimely_bind untimely next)
  · right
    refine ⟨events, error, after, ?_, differs⟩
    rw [Method.bind_apply, Program.exec_bind, run]
    exact congrArg (fun whole => Run.mk whole _) (List.append_nil events)

theorem Stalls.after {method : Method timedTransport Board ε α} {value : α} {after : Board}
    {events : History timedTransport} {next : α → Method timedTransport Board ε β}
    (first : (method board).exec oracle history = ⟨events, .returned (.ok value, after)⟩)
    (stalls : Stalls oracle (history ++ events) (next value after)) :
    Stalls oracle history ((method >>= next) board) := by
  rw [Stalls, Method.exec_bind_ok next first]
  rcases stalls with untimely | ⟨later, error, last, run, differs⟩
  · left
    exact fun along => untimely (along_append.mp along).2
  · right
    refine ⟨events ++ later, error, last, ?_, ?_⟩
    · rw [run]
    · rw [← List.append_assoc]
      exact differs

theorem timedRequest_apply (subtype : UInt8) {payload : Bytes} (fits : fitsTxBuf payload) :
    timedRequest fuel subtype payload board =
      .perform (board.timeout, .send (transmitted subtype board.seq.next.last board.mac payload
        fits).bytes) fun answer =>
          (afterSend fuel subtype board.seq.next.last
            (transmitted subtype board.seq.next.last board.mac payload fits).bytes
            board.retries.toNat { board with seq := board.seq.next } answer).stamp
              board.timeout := by
  rw [timedRequest, timed, Method.observed, request_apply _ _ _ _ fits, attempts_succ]
  rfl

/-- A request that is sent waits with the board's timeout, whatever is installed. -/
theorem untimely_timedRequest (subtype : UInt8) {payload : Bytes} (fits : fitsTxBuf payload)
    (differs : installed history ≠ some board.timeout)
    (sent : oracle history (board.timeout, .send (transmitted subtype board.seq.next.last board.mac
      payload fits).bytes) = .ok ()) :
    ¬ Along Timely history
      ((timedRequest (fuel + 1) subtype payload board).exec oracle history).events := by
  rw [timedRequest_apply subtype fits, Program.exec_perform, sent]
  rintro ⟨_, timely, _⟩
  apply differs
  exact (installed_send (.ok ())).symm.trans (timely rxBufSize rfl)

theorem stalls_timedRequest (subtype : UInt8) {payload : Bytes} (fits : fitsTxBuf payload)
    (differs : installed history ≠ some board.timeout) :
    Stalls oracle history (timedRequest (fuel + 1) subtype payload board) := by
  cases sent : oracle history (board.timeout, .send (transmitted subtype board.seq.next.last
      board.mac payload fits).bytes) with
  | ok sending => exact .inl (untimely_timedRequest subtype fits differs sent)
  | error error =>
      have run : (timedRequest (fuel + 1) subtype payload board).exec oracle history =
          ⟨[⟨(board.timeout, .send (transmitted subtype board.seq.next.last board.mac payload
            fits).bytes), .error error⟩],
            .returned (.error (.io error), { board with seq := board.seq.next })⟩ := by
        rw [timedRequest_apply subtype fits, Program.exec_perform, sent]
        rfl
      refine .inr ⟨_, _, _, run, ?_⟩
      rw [installed_send]
      exact differs

theorem stalls_statusStage {saved : Settings} {timeout : Nat} {retries stage : UInt8}
    {payload : Bytes} {reason : String} (fits : fitsTxBuf payload)
    (differs : installed history ≠ some timeout) :
    Stalls oracle history
      ((access (fuel + 1)).statusStage saved timeout retries payload reason stage board) := by
  have begun : installed history ≠ some (board.withSettings ⟨timeout, retries⟩).timeout := differs
  rw [BoardAccess.statusStage, access_assign_bind, access_request]
  exact (stalls_timedRequest 8 fits begun).bind _

variable {image : Bytes}

theorem stalls_streamStage (inside : 0 < totalChunks image) (short : ¬ FirstChunkOverruns image)
    (turns : Nat) (differs : installed history ≠ some timeoutStreamMs) :
    Stalls oracle history ((access (fuel + 1)).streamStage (turns + 1) image board) := by
  obtain ⟨chunk, found⟩ := chunkAt?_isSome inside
  have fits : fitsTxBuf (streamPayload 0 chunk) := by
    by_contra large
    exact short ⟨inside, chunk, found, large⟩
  have begun : installed history ≠
      some (board.withSettings ⟨timeoutStreamMs, retriesStream⟩).timeout := differs
  rw [BoardAccess.streamStage, access_assign_bind, Method.iterate]
  apply Stalls.bind
  rw [BoardAccess.streamPass, if_pos inside, found, Method.bind_apply, Method.orPanic_some,
    Program.pure_bind, Method.resume_ok, access_request]
  exact (stalls_timedRequest 8 fits begun).bind _

/-- A stream stage without a chunk returns at once. -/
theorem exec_streamStage_empty (none : ¬ 0 < totalChunks image) (turns : Nat) :
    ((access fuel).streamStage (turns + 1) image board).exec oracle history =
      ⟨[], .returned (.ok (), board.withSettings ⟨timeoutStreamMs, retriesStream⟩)⟩ := by
  rw [BoardAccess.streamStage, access_assign_bind, Method.iterate, Method.bind_apply,
    BoardAccess.streamPass, if_neg none]
  rfl

/-- An accepted ANNOUNCE ends with its own timeout in place. -/
theorem exec_announceStage_accepted (agrees : installed history = some board.timeout)
    (inPlace : board.timeout = timeoutAnnounceMs)
    (accepted : AnnounceAccepted fuel oracle history board image) :
    ∃ events after,
      ((access fuel).announceStage board.settings image board).exec oracle history =
          ⟨events, .returned (.ok (), after)⟩ ∧
        installed (history ++ events) = some timeoutAnnounceMs := by
  obtain ⟨reply, after, returned, zero⟩ := accepted
  have first : (timedRequest fuel 8 (announcePayload image.length.toUInt32)
      (board.withSettings ⟨timeoutAnnounceMs, retriesAnnounce⟩)).exec oracle history =
        ⟨_, .returned (.ok reply, after)⟩ := congrArg (Run.mk _) returned
  obtain ⟨events, run⟩ : ∃ events,
      ((access fuel).announceStage board.settings image board).exec oracle history =
        ⟨events, .returned (.ok (), after)⟩ := by
    rw [BoardAccess.announceStage, BoardAccess.statusStage, access_assign_bind, access_request,
      Method.exec_bind_ok _ first, BoardAccess.rejectStatus_of_zero zero]
    exact ⟨_, rfl⟩
  have kept := ((@safe_announceStage fuel oracle history image board agrees inPlace).exec
    (Program.exec_along oracle _ history)).2
  rw [run] at kept
  exact ⟨events, after, run, kept.1⟩

/-- An upgrade that does not leave the board's timeout installed waits with another one, or
leaves it to what comes after. -/
theorem stalls_firmwareUpgrade (agrees : installed history = some board.timeout)
    (leaves : ¬ Installs (fuel + 1) oracle history board (.typed (.firmwareUpgrade image))) :
    Stalls oracle history ((access (fuel + 1)).firmwareUpgrade (fuel + 1) image board) := by
  rw [BoardAccess.firmwareUpgrade, access_settings_bind]
  have shortPayload : fitsTxBuf (announcePayload image.length.toUInt32) :=
    fitsTxBuf_of_length_le (by decide : 5 ≤ 128)
  by_cases inPlace : board.timeout = timeoutAnnounceMs
  · have further : ¬ (AnnounceAccepted (fuel + 1) oracle history board image →
        FirstChunkOverruns image) := fun stops => leaves ⟨inPlace, stops⟩
    obtain ⟨accepted, short⟩ := Classical.not_imp.mp further
    obtain ⟨events, after, run, announced⟩ := exec_announceStage_accepted agrees inPlace accepted
    apply Stalls.after run
    by_cases inside : 0 < totalChunks image
    · apply Stalls.bind
      apply stalls_streamStage inside short
      rw [announced]
      decide
    · apply Stalls.after (exec_streamStage_empty inside fuel)
      apply Stalls.bind
      apply stalls_statusStage (fitsTxBuf_of_length_le (by decide))
      rw [List.append_nil, announced]
      decide
  · apply Stalls.bind
    apply stalls_statusStage shortPayload
    rw [agrees]
    exact fun same => inPlace (Option.some.inj same)

/-- From a state in which the board's timeout is installed, a program waits with it and comes
back to such a state. -/
def KeepsTimely {ε α : Type} (oracle : Oracle timedTransport) (history : History timedTransport)
    (program : Program timedTransport (Except ε α × Board)) : Prop :=
  Along Timely history (program.exec oracle history).events ∧
    ∀ result after, (program.exec oracle history).outcome = .returned (result, after) →
      installed (history ++ (program.exec oracle history).events) = some after.timeout

theorem exec_forEffect_events (method : Method timedTransport Board BoardError α) :
    ((forEffect method board).exec oracle history).events =
      ((method board).exec oracle history).events := by
  rw [forEffect, Method.bind_apply, Program.exec_bind_events, Method.attempt_apply,
    Program.exec_bind_events]
  · exact fun value => ⟨_, rfl⟩
  · rintro ⟨result, after⟩
    cases result with
    | ok value => exact ⟨_, rfl⟩
    | error error => exact nomatch error

theorem Stalls.not_keepsTimely {method : Method timedTransport Board BoardError α}
    (stalls : Stalls oracle history (method board)) :
    ¬ KeepsTimely oracle history (forEffect method board) := by
  rintro ⟨timely, comesBack⟩
  rcases stalls with untimely | ⟨events, error, after, run, differs⟩
  · rw [exec_forEffect_events] at timely
    exact untimely timely
  · have whole : (forEffect method board).exec oracle history =
        ⟨events, .returned (.ok (), after)⟩ := by
      rw [forEffect, Method.bind_apply, Program.exec_bind, Method.attempt_apply,
        Program.exec_bind, run]
      simp
    have here := comesBack (.ok ()) after (congrArg Run.outcome whole)
    rw [whole] at here
    exact differs here

end Stalls

/-- The operations that keep the timeout installed are these and no others. -/
theorem keepsTimely_iff_installs (fuel : Nat) (oracle : Oracle timedTransport)
    (history : History timedTransport) (board : Board) (call : BoardCall)
    (agrees : installed history = some board.timeout) :
    KeepsTimely oracle history (call.run (fuel + 1) board) ↔
      Installs (fuel + 1) oracle history board call := by
  constructor
  · intro keeps
    cases call with
    | setRetries retries => trivial
    | setTimeout millis =>
        have here := keeps.2 (.ok ()) { board with timeout := millis } rfl
        change installed (history ++ [⟨(board.timeout, .setTimeout millis),
          oracle history (board.timeout, .setTimeout millis)⟩]) = some millis at here
        cases answer : oracle history (board.timeout, .setTimeout millis) with
        | ok done => exact .inl answer
        | error error =>
            rw [answer, installed, phase_snoc] at here
            exact .inr here
    | typed call =>
        cases call with
        | firmwareUpgrade image =>
            by_contra leaves
            exact (stalls_firmwareUpgrade agrees leaves).not_keepsTimely keeps
        | lineConfigUp | lineConfigDown | getLineObj | getChannelStats | lineStatus | atmLinkAdd
        | atmLinkDel | ptmLinkAdd | ptmLinkDel => trivial
  · intro installs
    obtain ⟨timely, ended⟩ := (safe_call agrees installs).exec (Program.exec_along oracle _ history)
    refine ⟨timely, fun result after returned => ?_⟩
    rw [returned] at ended
    exact ended

/-! ## A silent transport -/

/-- On a silent transport a poll waits with the timeout that was set. -/
theorem effectiveTimeout_runCalls_poll :
    EffectiveTimeout ((runCalls 1 [.setTimeout 2000, .typed .getLineObj] (.new broadcastMac)).exec
      (unseen quietChannel) []).events := by
  apply effectiveTimeout_runCalls
  constructor
  · exact .inl rfl
  · intro events after run
    constructor
    · trivial
    · intros
      trivial

/-- An upgrade that is announced on a silent transport waits with the timeout set before. -/
theorem untimely_firmwareUpgrade {fuel : Nat} {history : History timedTransport} (turns : Nat)
    (image : Bytes) (board : Board) (differs : installed history ≠ some timeoutAnnounceMs) :
    ¬ Along Timely history (((access (fuel + 1)).firmwareUpgrade turns image board).exec
      (unseen quietChannel) history).events := by
  have shortPayload : fitsTxBuf (announcePayload image.length.toUInt32) :=
    fitsTxBuf_of_length_le (by decide : 5 ≤ 128)
  rw [BoardAccess.firmwareUpgrade, access_settings_bind]
  apply untimely_bind
  rw [BoardAccess.announceStage, BoardAccess.statusStage, access_assign_bind, access_request]
  apply untimely_bind
  exact untimely_timedRequest 8 shortPayload differs rfl

/-- An upgrade after a timeout of 2 seconds waits for its ANNOUNCE as long. -/
theorem not_effectiveTimeout_upgrade :
    ¬ ∀ (fuel : Nat) (oracle : Oracle timedTransport) (board : Board) (millis : Nat)
      (calls : List BoardCall),
      EffectiveTimeout
        ((runCalls fuel (.setTimeout millis :: calls) board).exec oracle []).events := by
  intro claim
  have timely := effectiveTimeout_iff.mp (claim 1 (unseen quietChannel) (.new broadcastMac) 2000
    [.typed (.firmwareUpgrade (blankImage 0x200000))])
  have begun : (BoardCall.run 1 (.setTimeout 2000) (.new broadcastMac)).exec
      (unseen quietChannel) [] =
        ⟨[⟨(2000, .setTimeout 2000), .ok ()⟩], .returned (.ok (), .new broadcastMac)⟩ := rfl
  rw [runCalls, Method.exec_bind_ok _ begun, along_append] at timely
  refine untimely_bind ?_ (fun _ => runCalls 1 []) timely.2
  rw [BoardCall.run, exec_forEffect_events]
  apply untimely_firmwareUpgrade
  decide

end Board

end RbctlDsl.Dsl
