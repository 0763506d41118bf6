import RbctlDsl.Dsl.StreamCoverage

/-!
# Frame capacity

Which payloads the typed methods hand to `Board::request`, against the transmit buffer that
`request` builds its frame in.
-/

namespace RbctlDsl.Dsl

open RbctlDsl.Lib RbctlDsl.Proto Board

/-- A call of one typed method with its arguments. -/
inductive TypedCall where
  | lineConfigUp (modulation : Modulation) (annex : Annex) (profiles : Vdsl2Profiles)
      (bitswap sra : Bool)
  | lineConfigDown
  | getLineObj
  | getChannelStats
  | lineStatus
  | atmLinkAdd (params : AtmLinkParams)
  | atmLinkDel (vlanId : UInt16)
  | ptmLinkAdd (tagEnable : UInt8) (tagVid tagPri vlanId : UInt16)
  | ptmLinkDel (vlanId : UInt16)
  | firmwareUpgrade (image : Bytes)

/-- Run a method for its requests. -/
def discardResult {α : Type} (method : Typed α) : Typed Unit := do
  let _ ← method

def TypedCall.run (fuel : Nat) : TypedCall → Typed Unit
  | .lineConfigUp modulation annex profiles bitswap sra =>
      Dsl.lineConfigUp modulation annex profiles bitswap sra
  | .lineConfigDown => Dsl.lineConfigDown
  | .getLineObj => discardResult Dsl.getLineObj
  | .getChannelStats => discardResult Dsl.getChannelStats
  | .lineStatus => discardResult Dsl.lineStatus
  | .atmLinkAdd params => discardResult (Dsl.atmLinkAdd params)
  | .atmLinkDel vlanId => Dsl.atmLinkDel vlanId
  | .ptmLinkAdd tagEnable tagVid tagPri vlanId =>
      discardResult (Dsl.ptmLinkAdd tagEnable tagVid tagPri vlanId)
  | .ptmLinkDel vlanId => Dsl.ptmLinkDel vlanId
  | .firmwareUpgrade image => discardResult (Dsl.firmwareUpgrade fuel image)

/-- The image of an upgrade has passed `validate_image`. -/
def TypedCall.Validated : TypedCall → Prop
  | .firmwareUpgrade image => ∃ hdr, validateImage image = .ok hdr
  | _ => True

/-- The call is an upgrade whose ANNOUNCE the board answers without rejecting it. -/
def TypedCall.Announced (oracle : Oracle boardCalls) : TypedCall → Prop
  | .firmwareUpgrade image => ∃ reply,
      oracle [] (.request retriesAnnounce 8 (announcePayload image.length.toUInt32)) =
        .ok reply ∧ StatusZero reply
  | _ => False

/-- The payload of a request fits the transmit buffer. -/
def OpFits : BoardOp → Prop
  | .request _ _ payload => fitsTxBuf payload
  | .progress _ => True

/-- Every payload handed to `request` fits the transmit buffer. -/
def PayloadsFit (events : History boardCalls) : Prop :=
  ∀ event ∈ events, OpFits event.op

/-- Every request fits and nothing panics, if the first answer is one that `promised` allows. -/
def capacityContract (promised : Event boardCalls → Prop) : Contract boardCalls where
  may _ op := OpFits op
  answers history event := history = [] → promised event
  mayPanic _ := False

section Capacity

variable {promised : Event boardCalls → Prop} {settings : Settings}

theorem safe_discardResult {α : Type} {contract : Contract boardCalls}
    {history : History boardCalls} {method : Typed α}
    (safe : Safe contract (fun _ _ => True) (method settings) history) :
    Safe contract (fun _ _ => True) (discardResult method settings) history :=
  Method.safe_bind safe (fun _ _ _ _ => trivial) fun _ _ _ _ => trivial

/-- An exchange makes one request. -/
theorem safe_exchange {α : Type} {contract : Contract boardCalls}
    {history : History boardCalls} {opcode : UInt8} {payload : Bytes}
    {decode : Bytes → Except BoardError α}
    (allowed : contract.may history (.request settings.retries opcode payload)) :
    Safe contract (fun _ _ => True) (exchange opcode payload decode settings) history := by
  rw [exchange_apply]
  exact ⟨allowed, fun _ _ => trivial⟩

/-- Outside of the stream stage every payload is a short one. -/
theorem fitsTxBuf_of_length_le {payload : Bytes} (short : payload.length ≤ 128) :
    fitsTxBuf payload := by
  simp only [fitsTxBuf, headerLen, txBufSize, maxPayload, minFrame]
  omega

/-- An upgrade whose ANNOUNCE fails or is rejected sends nothing else. -/
theorem safe_rejectedUpgrade {image : Bytes} (fuel : Nat) :
    Safe
      (capacityContract fun event => ∀ reply,
        event = ⟨.request retriesAnnounce 8 (announcePayload image.length.toUInt32),
          .ok reply⟩ → ¬ StatusZero reply)
      (fun _ _ => True) (firmwareUpgrade fuel image settings) [] := by
  have stops : Safe
      (capacityContract fun event => ∀ reply,
        event = ⟨.request retriesAnnounce 8 (announcePayload image.length.toUInt32),
          .ok reply⟩ → ¬ StatusZero reply)
      (fun _ result => ∀ value, result.1 ≠ .ok value)
      (announceStage settings image settings) [] := by
    apply safe_statusStage
    · exact fitsTxBuf_of_length_le (by decide : 5 ≤ 128)
    · exact fun _ => trivial
    · exact fun reply promised zero => absurd zero (promised rfl reply rfl)
    · exact fun reply _ _ value equal => by cases equal
    · exact fun error _ value equal => by cases equal
  rw [firmwareUpgrade, Method.bind_apply, Method.read_apply, Program.pure_bind,
    Method.resume_ok]
  refine Method.safe_bind stops ?_ fun _ _ _ _ => trivial
  intro later value after never
  exact absurd rfl (never value)

/-- Every other typed method sends one short payload. -/
theorem safe_shortCall {call : TypedCall} (fuel : Nat)
    (other : ∀ image, call ≠ .firmwareUpgrade image) :
    Safe (capacityContract promised) (fun _ _ => True) (call.run fuel settings) [] := by
  have short (retries subtype : UInt8) (payload : Bytes) (bound : payload.length ≤ 128) :
      (capacityContract promised).may [] (.request retries subtype payload) :=
    fitsTxBuf_of_length_le bound
  cases call with
  | lineConfigUp | lineConfigDown => exact safe_exchange (short _ _ _ (by simp))
  | atmLinkDel | ptmLinkDel =>
      rw [TypedCall.run]
      exact safe_exchange (short _ _ _ (by simp))
  | getLineObj | getChannelStats | atmLinkAdd | ptmLinkAdd =>
      exact safe_discardResult (safe_exchange (short _ _ _ (by simp)))
  | lineStatus =>
      have polled : Safe (capacityContract promised) (fun _ _ => True)
          (getLineObj settings) [] := safe_exchange (short _ _ _ (by simp))
      exact safe_discardResult
        (Method.safe_bind polled (fun _ _ _ _ => trivial) fun _ _ _ _ => trivial)
  | firmwareUpgrade image => exact absurd rfl (other image)

/-- What a capacity contract says about a run. -/
theorem payloadsFit_of_safe {program : Program boardCalls (Except BoardError Unit × Settings)}
    {oracle : Oracle boardCalls}
    (safe : Safe (capacityContract promised) (fun _ _ => True) program [])
    (first : ∀ op, promised ⟨op, oracle [] op⟩) :
    PayloadsFit (program.exec oracle []).events := by
  have answered : Along (capacityContract promised).answers [] (program.exec oracle []).events := by
    refine (Program.exec_along oracle program []).mono fun earlier event equal begins => ?_
    subst begins
    have same : event = ⟨event.op, oracle [] event.op⟩ := by rw [← equal]
    rw [same]
    exact first _
  exact along_iff_forall_mem.mp (safe.exec answered).1

/-! ## The first STREAM request -/

/-- A stream stage with a chunk to send begins by sending it. -/
theorem streamStage_sends {oracle : Oracle boardCalls} {history : History boardCalls}
    {image chunk : Bytes} (fuel : Nat) (some : 0 < totalChunks image)
    (found : chunkAt? image 0 = .some chunk) :
    ∃ event ∈ ((streamStage (fuel + 1) image settings).exec oracle history).events,
      event.op = .request retriesStream 8 (streamPayload 0 chunk) := by
  rw [streamStage, enterStage_bind, Method.iterate, Method.bind_apply]
  have first : ∃ event ∈ ((streamPass image (totalChunks image) ⟨0, 0⟩
      ⟨timeoutStreamMs, retriesStream⟩).exec oracle history).events,
      event.op = .request retriesStream 8 (streamPayload 0 chunk) := by
    rw [streamPass, if_pos some, found]
    exact ⟨_, .head _, rfl⟩
  obtain ⟨event, member, isStream⟩ := first
  exact ⟨event, (Program.exec_bind_prefix oracle history _ _).subset member, isStream⟩

/-- The first chunk of an accepted image is a full one. -/
theorem firstChunk {image : Bytes} {hdr : FwHeader} (valid : validateImage image = .ok hdr) :
    0 < totalChunks image ∧ ∃ chunk, chunkAt? image 0 = some chunk ∧
      chunk.length = chunkSize := by
  obtain ⟨lower, upper⟩ := size_of_validateImage valid
  have counted := toNat_totalChunks upper
  simp only [minImageSize] at lower
  constructor
  · rw [UInt32.lt_iff_toNat_lt, counted]
    simp only [contentStart, chunkSize, UInt32.toNat_zero]
    omega
  · refine ⟨_, chunkAt?_eq_some ?_, ?_⟩
    · simp only [contentStart, chunkSize, UInt32.toNat_zero]
      omega
    · simp only [contentStart, chunkSize, UInt32.toNat_zero, List.length_take,
        List.length_drop]
      omega

theorem not_fitsTxBuf_streamPayload {chunkIdx : UInt32} {chunk : Bytes}
    (full : chunk.length = chunkSize) : ¬ fitsTxBuf (streamPayload chunkIdx chunk) := by
  simp only [fitsTxBuf, streamPayload, List.length_cons, List.length_append,
    length_beBytes16, full, headerLen, txBufSize, maxPayload, minFrame, chunkSize]
  omega

/-- An upgrade whose ANNOUNCE is accepted hands a payload to `request` that does not fit. -/
theorem not_payloadsFit_announced {image reply : Bytes} {hdr : FwHeader}
    {oracle : Oracle boardCalls} (fuel : Nat) (valid : validateImage image = .ok hdr)
    (answered : oracle [] (.request retriesAnnounce 8
      (announcePayload image.length.toUInt32)) = .ok reply) (zero : StatusZero reply) :
    ¬ PayloadsFit
      ((discardResult (firmwareUpgrade (fuel + 1) image) settings).exec oracle []).events := by
  obtain ⟨positive, chunk, found, full⟩ := firstChunk valid
  intro fit
  have announced : ((announceStage settings image settings).exec oracle []).outcome =
      .returned (.ok (), ⟨timeoutAnnounceMs, retriesAnnounce⟩) := by
    rw [announceStage, exec_statusStage answered zero]
  have sent : ∃ event ∈ ((firmwareUpgrade (fuel + 1) image settings).exec oracle []).events,
      event.op = .request retriesStream 8 (streamPayload 0 chunk) := by
    rw [firmwareUpgrade, Method.bind_apply, Method.read_apply, Program.pure_bind,
      Method.resume_ok, Method.bind_apply, Program.exec_bind, announced]
    obtain ⟨event, member, isStream⟩ := streamStage_sends fuel positive found
    exact ⟨event, List.mem_append_right _
      ((Program.exec_bind_prefix oracle _ _ _).subset member), isStream⟩
  obtain ⟨event, member, isStream⟩ := sent
  have fits := fit event ((Program.exec_bind_prefix oracle [] _ _).subset member)
  rw [isStream] at fits
  exact not_fitsTxBuf_streamPayload full fits

/-- Every typed method stays within the transmit buffer, except an upgrade that the board
lets past its ANNOUNCE. -/
theorem payloadsFit_iff_not_announced (call : TypedCall) (validated : call.Validated)
    (fuel : Nat) (settings : Settings) (oracle : Oracle boardCalls) :
    PayloadsFit ((call.run (fuel + 1) settings).exec oracle []).events ↔
      ¬ call.Announced oracle := by
  by_cases upgrade : ∃ image, call = .firmwareUpgrade image
  · obtain ⟨image, rfl⟩ := upgrade
    obtain ⟨hdr, valid⟩ := validated
    constructor
    · rintro fit ⟨reply, answered, zero⟩
      exact not_payloadsFit_announced fuel valid answered zero fit
    · intro refused
      refine payloadsFit_of_safe (safe_discardResult (safe_rejectedUpgrade (fuel + 1))) ?_
      intro op reply equal zero
      have same : op = .request retriesAnnounce 8 (announcePayload image.length.toUInt32) :=
        congrArg Event.op equal
      subst same
      exact refused ⟨reply, by simpa using equal, zero⟩
  · have other (image : Bytes) : call ≠ .firmwareUpgrade image :=
      fun equal => upgrade ⟨image, equal⟩
    have never : ¬ call.Announced oracle := by
      cases call with
      | firmwareUpgrade image => exact absurd rfl (other image)
      | _ => exact id
    have short : Safe (capacityContract fun _ => True) (fun _ _ => True)
        (call.run (fuel + 1) settings) [] := safe_shortCall (fuel + 1) other
    exact iff_of_true (payloadsFit_of_safe short fun _ => trivial) never

theorem payloadsFit_iff_not_announced_upgrade : ∃ image,
    (PayloadsFit (((TypedCall.firmwareUpgrade image).run 1
      ⟨defaultTimeout, defaultRetries⟩).exec aheadBoard []).events ↔
        ¬ (TypedCall.firmwareUpgrade image).Announced aheadBoard) := by
  obtain ⟨image, hdr, chunk, valid, total, found⟩ := exists_image_of_2048_chunks
  exact ⟨image, payloadsFit_iff_not_announced (.firmwareUpgrade image) ⟨hdr, valid⟩ 0 _ _⟩

/-- A board that accepts the ANNOUNCE of an accepted image makes the upgrade overrun the
transmit buffer. -/
theorem not_payloadsFit_upgrade :
    ¬ ∀ (call : TypedCall) (fuel : Nat) (settings : Settings) (oracle : Oracle boardCalls),
      call.Validated → PayloadsFit ((call.run (fuel + 1) settings).exec oracle []).events := by
  intro claim
  obtain ⟨image, hdr, chunk, valid, total, found⟩ := exists_image_of_2048_chunks
  have answered : aheadBoard [] (.request retriesAnnounce 8
      (announcePayload image.length.toUInt32)) = .ok (stageAnnounce :: beBytes32 0) := rfl
  refine not_payloadsFit_announced 0 valid answered ?_
    (claim (.firmwareUpgrade image) 0 ⟨defaultTimeout, defaultRetries⟩ aheadBoard ⟨hdr, valid⟩)
  intro status word
  exact Option.some.inj (word.symm.trans (by decide))

/-! ## The real request loop -/

/-- A program on the transport that never panics. -/
def noPanic : Contract transport where
  may _ _ := True
  mayPanic _ := False

/-- A request whose payload fits runs without a panic. -/
theorem onTransport_keeps (fuel : Nat) :
    HandlerKeeps (capacityContract fun _ => True) noPanic (fun _ _ _ => True)
      (onTransport fuel) := by
  intro asked done board op _ fits
  cases op with
  | progress update => exact ⟨fun _ => trivial, trivial⟩
  | request retries subtype payload =>
      have called := safe_request fuel subtype payload { board with retries := retries } done fits
      have quiet : Safe noPanic _ _ done :=
        called.weaken (fun _ _ _ => trivial) (fun _ _ _ => trivial) fun _ never => never
      exact quiet.bind fun _ _ _ => ⟨fun _ => trivial, trivial⟩

/-- No typed method other than an upgrade can panic, on any transport. -/
theorem shortCall_never_panics {call : TypedCall}
    (other : ∀ image, call ≠ .firmwareUpgrade image) (fuel : Nat) (board : Board)
    (oracle : Oracle transport) (message : String) :
    (((call.run fuel settings).interp (onTransport fuel) board).exec oracle []).outcome ≠
      .panicked message := by
  have safe : Safe noPanic (EndsRelated (fun _ _ _ => True) fun _ _ => True)
      ((call.run fuel settings).interp (onTransport fuel) board) [] :=
    safe_interp (onTransport_keeps fuel) (fun _ _ _ _ never => never) trivial
      (safe_shortCall fuel other)
  have answered : Along noPanic.answers [] (((call.run fuel settings).interp
      (onTransport fuel) board).exec oracle []).events := along_true _ _
  intro panicked
  have ended := (safe.exec answered).2
  rw [panicked] at ended
  exact ended

/-- What is received is the beginning of a frame of 0xFF. -/
def shortFrames : Oracle transport
  | _, .send _ | _, .setTimeout _ => .ok ()
  | _, .recvInto capacity => .ok ⟨(List.replicate 30 0xFF).take capacity, List.length_take_le ..⟩

theorem shortCall_never_panics_shortFrames :
    (((TypedCall.getLineObj.run 4 ⟨defaultTimeout, defaultRetries⟩).interp (onTransport 4)
      (Board.new ⟨[2, 0, 0, 0x10, 0x20, 0x30], rfl⟩)).exec shortFrames []).outcome ≠
        .panicked "range end index out of range" :=
  shortCall_never_panics (fun _ equal => by cases equal) 4 _ _ _

end Capacity

end RbctlDsl.Dsl
