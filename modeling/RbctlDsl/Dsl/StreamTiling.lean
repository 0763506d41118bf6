import Mathlib.Algebra.GroupWithZero.Nat
import RbctlDsl.Dsl.UpgradeTrace
import RbctlDsl.Dsl.StreamCoverage
import RbctlDsl.Lib.Slices

/-!
# What the stream carries

When every STREAM reply acknowledges the chunk that it answers, the STREAM requests of an upgrade
carry the content of the image, slice by slice.  The content is what follows the header, and
the size that was announced includes the header.
-/

namespace RbctlDsl.Dsl

open RbctlDsl.Lib RbctlDsl.Proto

/-- The payloads of all requests, in order. -/
def requested (events : History boardCalls) : List Bytes :=
  events.filterMap fun event =>
    match event.op with
    | .request _ _ payload => some payload
    | .progress _ => none

def isStream (payload : Bytes) : Bool := payload.head? == some stageStream

/-- The payloads of the STREAM requests, in order. -/
def streamPayloads (events : History boardCalls) : List Bytes :=
  (requested events).filter isStream

/-- A STREAM reply acknowledges no other chunk than the one it answers. -/
def AcksOwn : Event boardCalls → Prop
  | ⟨.request _ _ payload, .ok reply⟩ => isStream payload →
      ∀ good index, lastGood reply = some good → be16At? payload 1 = some index →
        good.toNat = index.toNat
  | _ => True

/-- The announcement is accepted, and every STREAM request gets a reply. -/
def Accepts (image : Bytes) : Event boardCalls → Prop
  | ⟨.request _ _ payload, answer⟩ =>
      (payload = announcePayload image.length.toUInt32 →
        ∃ reply, answer = .ok reply ∧ StatusZero reply) ∧
      (isStream payload → ∃ reply, answer = .ok reply)
  | _ => True

/-- The bytes after the header. -/
def content (image : Bytes) : Bytes := image.drop contentStart

/-- The payload of the STREAM request at an index. -/
def payloadAt (image : Bytes) (index : Nat) : Bytes :=
  stageStream :: (beBytes16 (UInt16.ofNat index) ++ sliceAt chunkSize (content image) index)

theorem requested_append (earlier later : History boardCalls) :
    requested (earlier ++ later) = requested earlier ++ requested later :=
  List.filterMap_append

theorem isStream_payloadAt (image : Bytes) (index : Nat) : isStream (payloadAt image index) := rfl

theorem be16At?_payloadAt (image : Bytes) (index : Nat) :
    be16At? (payloadAt image index) 1 = some (UInt16.ofNat index) :=
  be16At?_append [stageStream] _ _ 1 rfl

theorem requested_turn {retries subtype : UInt8} {payload : Bytes}
    {answer : Except BoardError Bytes} (total : UInt32) (turn : Turn)
    (events : History boardCalls) :
    requested (⟨.request retries subtype payload, answer⟩ :: (turn.report total ++ events)) =
      payload :: requested events := by
  show payload :: requested (turn.report total ++ events) = payload :: requested events
  rw [requested_append, Turn.report]
  split
  · rfl
  · rfl

section Chunks

variable {image : Bytes} {chunkIdx : UInt32} {chunk : Bytes}

/-- A chunk of the code is a slice of the content. -/
theorem sliceAt_of_chunkAt? (inside : chunkIdx < totalChunks image)
    (found : chunkAt? image chunkIdx = some chunk) :
    chunk = sliceAt chunkSize (content image) chunkIdx.toNat := by
  have start := start_lt_length inside
  rw [chunkAt?_eq_some (Nat.le_of_lt start), Option.some.injEq] at found
  rw [← found, sliceAt, content, List.drop_drop]
  -- what the clamp cuts off is not there to be taken
  have clamp : min (contentStart + chunkIdx.toNat * chunkSize + chunkSize) image.length -
      (contentStart + chunkIdx.toNat * chunkSize) =
        min chunkSize (image.drop (contentStart + chunkIdx.toNat * chunkSize)).length := by
    rw [List.length_drop]
    omega
  rw [clamp, ← List.take_eq_take_min]

theorem streamPayload_eq (inside : chunkIdx < totalChunks image)
    (found : chunkAt? image chunkIdx = some chunk) :
    streamPayload chunkIdx chunk = payloadAt image chunkIdx.toNat := by
  have index : chunkIdx.toUInt16 = UInt16.ofNat chunkIdx.toNat := by
    apply UInt16.toNat_inj.mp
    rw [UInt32.toNat_toUInt16, UInt16.toNat_ofNat']
  rw [streamPayload, payloadAt, ← sliceAt_of_chunkAt? inside found, index]

/-- A reply that acknowledges no other chunk leaves the cursor right behind the chunk. -/
theorem chunkIdx_advance_of_acksOwn {cursor : Cursor} {reply : Bytes} {retries subtype : UInt8}
    (bounded : image.length ≤ maxImageSize) (inside : cursor.chunkIdx < totalChunks image)
    (acks : AcksOwn ⟨.request retries subtype (payloadAt image cursor.chunkIdx.toNat),
      .ok reply⟩) :
    (Turn.advance (totalChunks image) ⟨cursor, reply⟩).chunkIdx.toNat =
      cursor.chunkIdx.toNat + 1 := by
  have below := UInt32.lt_iff_toNat_lt.mp inside
  have small := lt_of_lt_totalChunks bounded inside
  have own : ∀ good, acknowledged reply = some good → good = cursor.chunkIdx.toNat := by
    intro good acked
    obtain ⟨word, read, rfl⟩ := Option.map_eq_some_iff.mp acked
    have same := acks rfl word _ read (be16At?_payloadAt image cursor.chunkIdx.toNat)
    rw [same, UInt16.toNat_ofNat', Nat.mod_eq_of_lt small]
  have next := nextPosition_of_acknowledged cursor.chunkIdx.toNat reply below own
  rw [nextPosition, UInt32.ofNat_toNat] at next
  rw [Turn.chunkIdx_advance]
  exact next

end Chunks

section Traces

variable {image : Bytes} {fuel : Nat} {events : History boardCalls}

/-- The stream loop requests the slices from its cursor on, and all of them if it succeeds. -/
theorem Streams.tiles {settings : Settings} {cursor : Cursor}
    {outcome : Outcome (Except BoardError Unit × Settings)}
    (bounded : image.length ≤ maxImageSize)
    (streams : Streams image settings fuel cursor events outcome)
    (acks : ∀ event ∈ events, AcksOwn event)
    (upTo : cursor.chunkIdx.toNat ≤ (totalChunks image).toNat) :
    ∃ count, requested events =
        (List.range' cursor.chunkIdx.toNat count).map (payloadAt image) ∧
      cursor.chunkIdx.toNat + count ≤ (totalChunks image).toNat ∧
      ∀ after, outcome = .returned (.ok (), after) →
        cursor.chunkIdx.toNat + count = (totalChunks image).toNat := by
  induction streams with
  | cut => exact ⟨0, rfl, upTo, fun after h => by cases h⟩
  | done past =>
      have ended := mt UInt32.lt_iff_toNat_lt.mpr past
      exact ⟨0, rfl, upTo, fun _ _ => by omega⟩
  | failed inside found error =>
      have below := UInt32.lt_iff_toNat_lt.mp inside
      refine ⟨1, ?_, below, fun after h => by cases h⟩
      rw [streamPayload_eq inside found]
      rfl
  | @turn fuel cursor chunk reply events outcome inside found rest ih =>
      have below := UInt32.lt_iff_toNat_lt.mp inside
      rw [List.forall_mem_cons, List.forall_mem_append] at acks
      obtain ⟨own, _, acks⟩ := acks
      rw [streamPayload_eq inside found] at own
      have moved := chunkIdx_advance_of_acksOwn bounded inside own
      obtain ⟨count, same, few, all⟩ := ih acks (by rw [moved]; exact below)
      rw [moved] at same few all
      refine ⟨count + 1, ?_, by omega, fun after returned => ?_⟩
      · rw [requested_turn, same, streamPayload_eq inside found, List.range'_succ, List.map_cons]
      · have ended := all after returned
        omega

/-- A stream that is answered at every turn comes to its end, for each turn takes one chunk. -/
theorem Streams.finishes {settings : Settings} {cursor : Cursor}
    {outcome : Outcome (Except BoardError Unit × Settings)}
    (bounded : image.length ≤ maxImageSize)
    (streams : Streams image settings fuel cursor events outcome)
    (acks : ∀ event ∈ events, AcksOwn event) (accepts : ∀ event ∈ events, Accepts image event)
    (upTo : cursor.chunkIdx.toNat ≤ (totalChunks image).toNat)
    (enough : (totalChunks image).toNat < cursor.chunkIdx.toNat + fuel) :
    outcome = .returned (.ok (), settings) := by
  induction streams with
  | cut => exact absurd enough (Nat.not_lt.mpr upTo)
  | done past => rfl
  | failed inside found error =>
      obtain ⟨reply, answered⟩ := (accepts _ (List.mem_singleton_self _)).2 rfl
      cases answered
  | turn inside found rest ih =>
      rw [List.forall_mem_cons, List.forall_mem_append] at acks accepts
      obtain ⟨own, _, acks⟩ := acks
      rw [streamPayload_eq inside found] at own
      have moved := chunkIdx_advance_of_acksOwn bounded inside own
      have below := UInt32.lt_iff_toNat_lt.mp inside
      exact ih acks accepts.2.2 (by rw [moved]; exact below) (by rw [moved]; omega)

/-- An announcement that the board accepts is over without an error. -/
theorem StatusTrace.ok_of_accepts {saved after : Settings} {result : Except BoardError Unit}
    (announce : AnnounceTrace saved image events result after)
    (accepts : ∀ event ∈ events, Accepts image event) : result = .ok () := by
  cases announce with
  | accepted reply zero => rfl
  | rejected reply nonzero =>
      obtain ⟨_, answered, zero⟩ := (accepts _ (List.mem_singleton_self _)).1 rfl
      cases answered
      exact absurd zero nonzero
  | failed error =>
      obtain ⟨_, answered, _⟩ := (accepts _ (List.mem_singleton_self _)).1 rfl
      cases answered

/-- A verification begins with its request. -/
theorem StatusTrace.asks {saved stageSettings after : Settings} {payload : Bytes}
    {reason : String} {stage : UInt8} {result : Except BoardError Unit}
    (trace : StatusTrace saved stageSettings payload reason stage events result after) :
    ∃ answer later, events = ⟨.request stageSettings.retries 8 payload, answer⟩ :: later := by
  cases trace with
  | accepted reply zero => exact ⟨_, _, rfl⟩
  | rejected reply nonzero => exact ⟨_, _, rfl⟩
  | failed error => exact ⟨_, _, rfl⟩

/-- An upgrade that the board accepts comes to ask for the verification. -/
theorem Upgrades.verifies {saved : Settings}
    {outcome : Outcome (Except BoardError FwUpgradeResult × Settings)}
    (bounded : image.length ≤ maxImageSize) (trace : Upgrades fuel image saved events outcome)
    (acks : ∀ event ∈ events, AcksOwn event) (accepts : ∀ event ∈ events, Accepts image event)
    (enough : (totalChunks image).toNat < fuel) :
    ∃ before answer after,
      events = before ++ ⟨.request retriesVerify 8 verifyPayload, answer⟩ :: after := by
  have finishes {second : History boardCalls}
      {outcome : Outcome (Except BoardError Unit × Settings)}
      (stream : Streams image streamSettings fuel ⟨0, 0⟩ second outcome)
      (acks : ∀ event ∈ second, AcksOwn event)
      (accepts : ∀ event ∈ second, Accepts image event) :
      outcome = .returned (.ok (), streamSettings) :=
    stream.finishes bounded acks accepts (Nat.zero_le _) ((Nat.zero_add fuel).symm ▸ enough)
  cases trace with
  | unannounced announce => cases announce.ok_of_accepts accepts
  | unstreamed announce stream | cut announce stream =>
      rw [List.forall_mem_append] at acks accepts
      cases finishes stream acks.2 accepts.2
  | unverified announce stream verify =>
      obtain ⟨answer, later, rfl⟩ := verify.asks
      exact ⟨_, answer, later, (List.append_assoc ..).symm⟩
  | @verified first second _ events _ _ announce stream verify complete =>
      obtain ⟨answer, later, rfl⟩ := verify.asks
      exact ⟨first ++ second, answer, later ++ events, (List.append_assoc ..).symm⟩

theorem StatusTrace.requested {saved stageSettings after : Settings} {payload : Bytes}
    {reason : String} {stage : UInt8} {result : Except BoardError Unit}
    (trace : StatusTrace saved stageSettings payload reason stage events result after) :
    requested events = [payload] := by
  cases trace with
  | accepted reply zero => rfl
  | rejected reply nonzero => rfl
  | failed error => rfl

theorem CompleteTrace.requested {saved after : Settings}
    {result : Except BoardError FwUpgradeResult} (trace : CompleteTrace saved events result after) :
    requested events = [completePayload] := by
  cases trace with
  | done reply value => rfl
  | failed error => rfl

/-- The requests of an upgrade: the announcement, a number of slices, and what comes after them if
these were all. -/
def SendsSlices (image : Bytes) (payloads : List Bytes) (count : Nat) : Prop :=
  count ≤ (totalChunks image).toNat ∧ ∃ tail,
    (tail = [] ∨ (tail = [verifyPayload] ∨ tail = [verifyPayload, completePayload]) ∧
      count = (totalChunks image).toNat) ∧
    payloads = announcePayload image.length.toUInt32 ::
      ((List.range count).map (payloadAt image) ++ tail)

/-- An announcement and the stream loop from the first chunk on. -/
theorem Streams.announced_tiles {saved settings after' : Settings} {first : History boardCalls}
    {result : Except BoardError Unit} {outcome : Outcome (Except BoardError Unit × Settings)}
    (bounded : image.length ≤ maxImageSize)
    (announce : AnnounceTrace saved image first result after')
    (stream : Streams image settings fuel ⟨0, 0⟩ events outcome)
    (acks : ∀ event ∈ events, AcksOwn event) :
    ∃ count, count ≤ (totalChunks image).toNat ∧
      requested (first ++ events) = announcePayload image.length.toUInt32 ::
        (List.range count).map (payloadAt image) ∧
      ∀ after, outcome = .returned (.ok (), after) → count = (totalChunks image).toNat := by
  have start : (⟨0, 0⟩ : Cursor).chunkIdx.toNat = 0 := rfl
  obtain ⟨count, same, few, all⟩ := stream.tiles bounded acks (Nat.zero_le _)
  rw [start, Nat.zero_add] at few all
  refine ⟨count, few, ?_, all⟩
  rw [requested_append, announce.requested, same, start, List.range_eq_range']
  rfl

theorem Upgrades.sendsSlices {saved : Settings}
    {outcome : Outcome (Except BoardError FwUpgradeResult × Settings)}
    (bounded : image.length ≤ maxImageSize) (trace : Upgrades fuel image saved events outcome)
    (acks : ∀ event ∈ events, AcksOwn event) :
    ∃ count, SendsSlices image (requested events) count := by
  cases trace with
  | unannounced announce =>
      refine ⟨0, Nat.zero_le _, [], .inl rfl, ?_⟩
      rw [announce.requested]
      rfl
  | unstreamed announce stream | cut announce stream =>
      rw [List.forall_mem_append] at acks
      obtain ⟨count, few, same, _⟩ := stream.announced_tiles bounded announce acks.2
      exact ⟨count, few, [], .inl rfl, by rw [same, List.append_nil]⟩
  | unverified announce stream verify =>
      rw [List.forall_mem_append, List.forall_mem_append] at acks
      obtain ⟨count, few, same, all⟩ := stream.announced_tiles bounded announce acks.2.1
      refine ⟨count, few, _, .inr ⟨.inl rfl, all _ rfl⟩, ?_⟩
      rw [← List.append_assoc, requested_append, same, verify.requested]
      rfl
  | verified announce stream verify complete =>
      rw [List.forall_mem_append, List.forall_mem_append] at acks
      obtain ⟨count, few, same, all⟩ := stream.announced_tiles bounded announce acks.2.1
      refine ⟨count, few, _, .inr ⟨.inr rfl, all _ rfl⟩, ?_⟩
      rw [← List.append_assoc, requested_append, same, requested_append, verify.requested,
        complete.requested]
      rfl

variable {payloads : List Bytes} {count : Nat}

/-- The STREAM payloads are the slices. -/
theorem SendsSlices.stream (sends : SendsSlices image payloads count) :
    payloads.filter isStream = (List.range count).map (payloadAt image) := by
  obtain ⟨_, tail, shape, rfl⟩ := sends
  have noTail : tail.filter isStream = [] := by
    rcases shape with rfl | ⟨rfl | rfl, _⟩
    · rfl
    · rfl
    · rfl
  have announced : isStream (announcePayload image.length.toUInt32) = false := rfl
  have all : ((List.range count).map (payloadAt image)).filter isStream =
      (List.range count).map (payloadAt image) := by
    rw [List.filter_eq_self]
    intro payload member
    obtain ⟨index, _, rfl⟩ := List.mem_map.mp member
    exact isStream_payloadAt image index
  rw [List.filter_cons, announced, if_neg (by decide), List.filter_append, all, noTail,
    List.append_nil]

/-- VERIFY is requested after all slices only. -/
theorem SendsSlices.all (sends : SendsSlices image payloads count)
    (asked : verifyPayload ∈ payloads) : count = (totalChunks image).toNat := by
  obtain ⟨_, tail, rfl | ⟨_, ended⟩, rfl⟩ := sends
  · rw [List.append_nil, List.mem_cons] at asked
    rcases asked with announced | streamed
    · exact absurd (List.cons.inj announced).1 (by decide)
    · obtain ⟨index, _, same⟩ := List.mem_map.mp streamed
      exact absurd (List.cons.inj same).1 (by decide)
  · exact ended

end Traces

/-! ## Tiling -/

/-- Where a slice starts in the image, and where it ends. -/
def sliceStart (index : Nat) : Nat := contentStart + index * chunkSize

def sliceEnd (image : Bytes) (index : Nat) : Nat := min (sliceStart index + chunkSize) image.length

/-- STREAM payloads that carry the first slices of the content of an image: each with its index,
not empty and inside of the image, one behind the other from the header on. -/
structure Tiling (image : Bytes) (payloads : List Bytes) : Prop where
  index : ∀ i < payloads.length, i < 65536
  payload : ∀ i < payloads.length, payloads[i]? =
    some (stageStream :: (beBytes16 (UInt16.ofNat i) ++
      (image.take (sliceEnd image i)).drop (sliceStart i)))
  nonempty : ∀ i < payloads.length, sliceStart i < sliceEnd image i
  inside : ∀ i < payloads.length, sliceEnd image i ≤ image.length
  first : sliceStart 0 = 0x100
  next : ∀ i, i + 1 < payloads.length → sliceEnd image i = sliceStart (i + 1)

/-- The payloads carry all of the content: the last slice ends where the image does, and the
slices put together are what follows the header. -/
structure Complete (image : Bytes) (payloads : List Bytes) : Prop where
  last : sliceEnd image (payloads.length - 1) = image.length
  whole : (payloads.map (List.drop 3)).flatten = image.drop 0x100

section Tiling

variable {image : Bytes} {count : Nat}

/-- Every chunk below the total starts inside of the image. -/
theorem sliceStart_lt (bounded : image.length ≤ maxImageSize) {index : Nat}
    (below : index < (totalChunks image).toNat) : sliceStart index < image.length := by
  rw [toNat_totalChunks bounded] at below
  simp only [sliceStart, contentStart, chunkSize] at below ⊢
  omega

theorem sliceAt_eq {index : Nat} (inside : sliceStart index < image.length) :
    sliceAt chunkSize (content image) index =
      (image.take (sliceEnd image index)).drop (sliceStart index) := by
  have clamp : sliceEnd image index - sliceStart index =
      min chunkSize (image.drop (sliceStart index)).length := by
    rw [List.length_drop, sliceEnd]
    omega
  rw [List.drop_take, clamp, ← List.take_eq_take_min, sliceAt, content, List.drop_drop]
  rfl

theorem tiling_of_slices (bounded : image.length ≤ maxImageSize)
    (few : count ≤ (totalChunks image).toNat) :
    Tiling image ((List.range count).map (payloadAt image)) := by
  have length : ((List.range count).map (payloadAt image)).length = count := by
    rw [List.length_map, List.length_range]
  have starts (i : Nat) (below : i < count) : sliceStart i < image.length :=
    sliceStart_lt bounded (Nat.lt_of_lt_of_le below few)
  constructor
  · intro i below
    rw [length] at below
    have inside := starts i below
    simp only [sliceStart, contentStart, chunkSize, maxImageSize] at inside bounded
    omega
  · intro i below
    rw [length] at below
    rw [List.getElem?_map, List.getElem?_range below, Option.map_some, payloadAt,
      sliceAt_eq (starts i below)]
  · intro i below
    rw [length] at below
    have inside := starts i below
    simp only [sliceEnd, chunkSize]
    omega
  · exact fun i _ => Nat.min_le_right _ _
  · rfl
  · intro i below
    rw [length] at below
    have inside := starts (i + 1) below
    simp only [sliceEnd, sliceStart, contentStart, chunkSize] at inside ⊢
    omega

/-- The data bytes of the first slices. -/
theorem flatten_payloads (image : Bytes) (count : Nat) :
    (((List.range count).map (payloadAt image)).map (List.drop 3)).flatten =
      (content image).take (count * chunkSize) := by
  rw [List.map_map]
  exact flatten_slices chunkSize (content image) count

theorem length_content_le (bounded : image.length ≤ maxImageSize) :
    (content image).length ≤ (totalChunks image).toNat * chunkSize := by
  rw [content, List.length_drop, toNat_totalChunks bounded]
  simp only [contentStart, chunkSize]
  omega

theorem complete_of_slices (large : minImageSize ≤ image.length)
    (bounded : image.length ≤ maxImageSize) :
    Complete image ((List.range (totalChunks image).toNat).map (payloadAt image)) := by
  constructor
  · rw [List.length_map, List.length_range, toNat_totalChunks bounded]
    simp only [sliceEnd, sliceStart, contentStart, chunkSize, minImageSize] at large ⊢
    omega
  · rw [flatten_payloads, List.take_of_length_le (length_content_le bounded)]
    rfl

end Tiling

section Runs

variable {image : Bytes} {hdr : FwHeader}

/-- The requests of a complete run. -/
theorem sendsSlices_of_exec (bounded : image.length ≤ maxImageSize) {fuel : Nat}
    {settings : Settings} {oracle : Oracle boardCalls} {history : History boardCalls}
    (acks : ∀ event ∈ ((firmwareUpgrade fuel image settings).exec oracle history).events,
      AcksOwn event) :
    ∃ count, SendsSlices image
      (requested ((firmwareUpgrade fuel image settings).exec oracle history).events) count :=
  (upgrades_of_performs (Performs.of_exec oracle _ history)).sendsSlices bounded acks

/-- A run that the board accepts asks for the verification. -/
theorem verifies_of_exec (bounded : image.length ≤ maxImageSize) {fuel : Nat}
    {settings : Settings} {oracle : Oracle boardCalls} {history : History boardCalls}
    (acks : ∀ event ∈ ((firmwareUpgrade fuel image settings).exec oracle history).events,
      AcksOwn event)
    (accepts : ∀ event ∈ ((firmwareUpgrade fuel image settings).exec oracle history).events,
      Accepts image event)
    (enough : (totalChunks image).toNat < fuel) :
    ∃ before answer after,
      ((firmwareUpgrade fuel image settings).exec oracle history).events =
        before ++ ⟨.request retriesVerify 8 verifyPayload, answer⟩ :: after :=
  (upgrades_of_performs (Performs.of_exec oracle _ history)).verifies bounded acks accepts enough

theorem mem_requested {before after : History boardCalls} {retries subtype : UInt8}
    {payload : Bytes} {answer : Except BoardError Bytes} :
    payload ∈ requested (before ++ ⟨.request retries subtype payload, answer⟩ :: after) := by
  rw [requested_append]
  exact List.mem_append_right _ (List.mem_cons_self ..)

/-- When every STREAM reply acknowledges the chunk that it answers, the STREAM payloads tile the
content of the image, and by the time of VERIFY they are all of it.  They come to be all of it
wherever the announcement is accepted and every STREAM request is answered. -/
theorem stream_tiles (valid : validateImage image = .ok hdr) (fuel : Nat) (settings : Settings)
    (oracle : Oracle boardCalls) (history : History boardCalls)
    (acks : ∀ event ∈ ((firmwareUpgrade fuel image settings).exec oracle history).events,
      AcksOwn event) :
    Tiling image
        (streamPayloads ((firmwareUpgrade fuel image settings).exec oracle history).events) ∧
      (verifyPayload ∈
          requested ((firmwareUpgrade fuel image settings).exec oracle history).events →
        Complete image
          (streamPayloads ((firmwareUpgrade fuel image settings).exec oracle history).events)) ∧
      ((totalChunks image).toNat < fuel →
        (∀ event ∈ ((firmwareUpgrade fuel image settings).exec oracle history).events,
          Accepts image event) →
        Complete image
          (streamPayloads ((firmwareUpgrade fuel image settings).exec oracle history).events)) := by
  obtain ⟨large, bounded⟩ := size_of_validateImage valid
  have complete (asked : verifyPayload ∈
      requested ((firmwareUpgrade fuel image settings).exec oracle history).events) :
      Complete image
        (streamPayloads ((firmwareUpgrade fuel image settings).exec oracle history).events) := by
    obtain ⟨count, sends⟩ := sendsSlices_of_exec bounded acks
    rw [streamPayloads, sends.stream, sends.all asked]
    exact complete_of_slices large bounded
  refine ⟨?_, complete, fun enough accepts => complete ?_⟩
  · obtain ⟨count, sends⟩ := sendsSlices_of_exec bounded acks
    rw [streamPayloads, sends.stream]
    exact tiling_of_slices bounded sends.1
  · obtain ⟨before, answer, after, split⟩ := verifies_of_exec bounded acks accepts enough
    rw [split]
    exact mem_requested

/-- The answers of a board that accepts everything, and acknowledges each chunk by its index. -/
def exactAnswer : (op : BoardOp) → boardCalls.Answer op
  | .request _ _ (stage :: high :: low :: _) =>
      if stage = stageStream then .ok [stage, 0, 0, high, low] else .ok []
  | .request .. => .ok []
  | .progress _ => ()

def exactBoard : Oracle boardCalls := fun _ op => exactAnswer op

/-- What has happened on a board that answers by the operation alone. -/
theorem answer_exactBoard {α : Type} {program : Program boardCalls α}
    {history : History boardCalls} {event : Event boardCalls}
    (member : event ∈ (program.exec exactBoard history).events) :
    event.answer = exactAnswer event.op := by
  have along : Along (fun _ event => event.answer = exactAnswer event.op) history
      (program.exec exactBoard history).events := Program.exec_along exactBoard program history
  exact along_iff_forall_mem.mp along event member

theorem acksOwn_exactBoard {α : Type} (program : Program boardCalls α)
    (history : History boardCalls) :
    ∀ event ∈ (program.exec exactBoard history).events, AcksOwn event := by
  intro event member
  have answered := answer_exactBoard member
  match event, answered with
  | ⟨.progress update, answer⟩, _ => trivial
  | ⟨.request _ _ payload, .error error⟩, _ => trivial
  | ⟨.request _ _ [], .ok reply⟩, _ => exact fun isStream => by cases isStream
  | ⟨.request _ _ [stage], .ok reply⟩, _ => exact fun _ _ _ _ read => by cases read
  | ⟨.request _ _ [stage, high], .ok reply⟩, _ => exact fun _ _ _ _ read => by cases read
  | ⟨.request _ _ (stage :: high :: low :: rest), .ok reply⟩, answered =>
      intro isStream good index acked read
      have stream : stage = stageStream := by simpa [RbctlDsl.Dsl.isStream] using isStream
      subst stream
      have same : reply = [stageStream, 0, 0, high, low] := Except.ok.inj answered
      subst same
      -- the word that is acknowledged is the index with two zero bytes in front of it
      cases acked
      cases read
      have highBound := high.toNat_lt
      have lowBound := low.toNat_lt
      simp only [be32, be16, UInt32.toNat_ofNat', UInt16.toNat_ofNat', UInt8.toNat_zero]
      omega

theorem accepts_exactBoard {α : Type} (image : Bytes) (program : Program boardCalls α)
    (history : History boardCalls) :
    ∀ event ∈ (program.exec exactBoard history).events, Accepts image event := by
  intro event member
  have answered := answer_exactBoard member
  obtain ⟨op, answer⟩ := event
  cases op with
  | progress update => trivial
  | request retries subtype payload =>
      obtain rfl : answer = exactAnswer (.request retries subtype payload) := answered
      constructor
      · rintro rfl
        exact ⟨[], rfl, fun status found => by cases found⟩
      · intro _
        rcases payload with _ | ⟨stage, _ | ⟨high, _ | ⟨low, rest⟩⟩⟩
        · exact ⟨_, rfl⟩
        · exact ⟨_, rfl⟩
        · exact ⟨_, rfl⟩
        · simp only [exactAnswer]
          split
          · exact ⟨_, rfl⟩
          · exact ⟨_, rfl⟩

theorem totalChunks_blankImage : totalChunks (blankImage 0x200000) = 2048 := by
  rw [totalChunks, length_blankImage (by decide)]
  rfl

theorem stream_tiles_exactBoard :
    Tiling (blankImage 0x200000) (streamPayloads
        ((firmwareUpgrade 3000 (blankImage 0x200000) ⟨defaultTimeout, defaultRetries⟩).exec
          exactBoard []).events) ∧
      Complete (blankImage 0x200000) (streamPayloads
        ((firmwareUpgrade 3000 (blankImage 0x200000) ⟨defaultTimeout, defaultRetries⟩).exec
          exactBoard []).events) := by
  obtain ⟨hdr, valid⟩ := validateImage_smallest
  obtain ⟨tiling, _, complete⟩ := stream_tiles valid 3000 ⟨defaultTimeout, defaultRetries⟩
    exactBoard [] (acksOwn_exactBoard _ _)
  refine ⟨tiling, complete ?_ (accepts_exactBoard _ _ _)⟩
  rw [totalChunks_blankImage]
  decide

/-- Replies that acknowledge the chunk they answer are in step. -/
theorem repliesInStep_of_acksOwn {image : Bytes} {events : History boardCalls}
    (acks : ∀ event ∈ events, AcksOwn event) : RepliesInStep image events := by
  intro entry member good acked
  obtain ⟨event, isEvent, found⟩ := List.mem_filterMap.mp member
  have own := acks event isEvent
  unfold streamed at found
  split at found
  · next stage high low chunk reply =>
      dsimp only at found
      split at found
      · next isChunk =>
          cases found
          obtain ⟨word, read, rfl⟩ := Option.map_eq_some_iff.mp acked
          have stream : isStream (stage :: high :: low :: chunk) := by
            rw [isChunk.2.1]
            rfl
          exact .inl (own stream word (be16 high low) read rfl)
      · cases found
  · cases found

/-- With such a board all of the image has been sent by the time of VERIFY. -/
theorem covered_iff_repliesInStep_exactBoard : ∃ before answer after,
    ((firmwareUpgrade 3000 (blankImage 0x200000) ⟨defaultTimeout, defaultRetries⟩).exec
        exactBoard []).events =
      before ++ ⟨.request retriesVerify 8 verifyPayload, answer⟩ :: after ∧
    Covered (blankImage 0x200000) before ∧ Resent (blankImage 0x200000) before := by
  obtain ⟨hdr, valid⟩ := validateImage_smallest
  have acks := acksOwn_exactBoard
    (firmwareUpgrade 3000 (blankImage 0x200000) ⟨defaultTimeout, defaultRetries⟩) []
  have enough : (totalChunks (blankImage 0x200000)).toNat < 3000 := by
    rw [totalChunks_blankImage]
    decide
  obtain ⟨before, answer, after, split⟩ := verifies_of_exec (size_of_validateImage valid).2 acks
    (accepts_exactBoard _ _ _) enough
  refine ⟨before, answer, after, split, ?_⟩
  refine (covered_iff_repliesInStep valid 3000 ⟨defaultTimeout, defaultRetries⟩ exactBoard before
    after retriesVerify answer split).1 (repliesInStep_of_acksOwn fun event member => ?_)
  exact acks event (split ▸ List.mem_append_left _ member)

/-! ## Sizes -/

/-- The size that the ANNOUNCE payload carries. -/
def announcedSize (events : History boardCalls) : Option Nat :=
  ((requested events).find? fun payload => payload.head? == some stageAnnounce).bind
    fun payload => (be32At? payload 1).map UInt32.toNat

/-- The number of data bytes that the STREAM payloads carry. -/
def streamedSize (events : History boardCalls) : Nat :=
  ((streamPayloads events).map fun payload => (payload.drop 3).length).sum

theorem SendsSlices.announcedSize {events : History boardCalls} {count : Nat}
    (sends : SendsSlices image (requested events) count) (bounded : image.length ≤ maxImageSize) :
    announcedSize events = some image.length := by
  obtain ⟨_, tail, _, same⟩ := sends
  have word : image.length.toUInt32.toNat = image.length := by
    rw [UInt32.toNat_ofNat', Nat.mod_eq_of_lt]
    simp only [maxImageSize] at bounded
    omega
  have read : be32At? (announcePayload image.length.toUInt32) 1 = some image.length.toUInt32 :=
    be32At?_append [stageAnnounce] [] _ 1 rfl
  rw [RbctlDsl.Dsl.announcedSize, same, List.find?_cons_of_pos rfl, Option.bind_some, read,
    Option.map_some, word]

theorem SendsSlices.streamedSize {events : History boardCalls} {count : Nat}
    (sends : SendsSlices image (requested events) count) :
    streamedSize events = min (count * chunkSize) (image.length - 0x100) := by
  have whole := congrArg List.length (flatten_payloads image count)
  rw [List.length_flatten, List.map_map, List.length_take, content, List.length_drop] at whole
  rw [RbctlDsl.Dsl.streamedSize, streamPayloads, sends.stream]
  exact whole

/-- An upgrade announces the header and streams none of it: the sizes differ in every run whose
replies acknowledge the chunk that they answer, and by the header when everything has been
streamed. -/
theorem announced_ne_streamed (valid : validateImage image = .ok hdr) (fuel : Nat)
    (settings : Settings) (oracle : Oracle boardCalls) (history : History boardCalls)
    (acks : ∀ event ∈ ((firmwareUpgrade fuel image settings).exec oracle history).events,
      AcksOwn event) :
    announcedSize ((firmwareUpgrade fuel image settings).exec oracle history).events ≠
        some (streamedSize ((firmwareUpgrade fuel image settings).exec oracle history).events) ∧
      (verifyPayload ∈
          requested ((firmwareUpgrade fuel image settings).exec oracle history).events →
        announcedSize ((firmwareUpgrade fuel image settings).exec oracle history).events =
          some (streamedSize
            ((firmwareUpgrade fuel image settings).exec oracle history).events + 0x100)) := by
  obtain ⟨large, bounded⟩ := size_of_validateImage valid
  obtain ⟨count, sends⟩ := sendsSlices_of_exec bounded acks
  rw [sends.announcedSize bounded, sends.streamedSize]
  simp only [minImageSize] at large
  constructor
  · intro same
    have equal := Option.some.inj same
    omega
  · intro asked
    have long := length_content_le bounded
    rw [content, List.length_drop, contentStart] at long
    rw [sends.all asked, Nat.min_eq_right long]
    congr 1
    omega

theorem announced_ne_streamed_exactBoard :
    announcedSize ((firmwareUpgrade 3000 (blankImage 0x200000)
          ⟨defaultTimeout, defaultRetries⟩).exec exactBoard []).events ≠
        some (streamedSize ((firmwareUpgrade 3000 (blankImage 0x200000)
          ⟨defaultTimeout, defaultRetries⟩).exec exactBoard []).events) ∧
      (verifyPayload ∈ requested ((firmwareUpgrade 3000 (blankImage 0x200000)
          ⟨defaultTimeout, defaultRetries⟩).exec exactBoard []).events →
        announcedSize ((firmwareUpgrade 3000 (blankImage 0x200000)
            ⟨defaultTimeout, defaultRetries⟩).exec exactBoard []).events =
          some (streamedSize ((firmwareUpgrade 3000 (blankImage 0x200000)
            ⟨defaultTimeout, defaultRetries⟩).exec exactBoard []).events + 0x100)) := by
  obtain ⟨hdr, valid⟩ := validateImage_smallest
  exact announced_ne_streamed valid 3000 ⟨defaultTimeout, defaultRetries⟩ exactBoard []
    (acksOwn_exactBoard _ _)

/-- A 2 MB image whose chunks are all acknowledged: 256 bytes fewer are streamed than announced. -/
theorem not_announced_eq_streamed :
    ¬ ∀ (image : Bytes) (hdr : FwHeader) (fuel : Nat) (settings : Settings)
      (oracle : Oracle boardCalls) (history : History boardCalls),
      validateImage image = .ok hdr →
      (∀ event ∈ ((firmwareUpgrade fuel image settings).exec oracle history).events,
        AcksOwn event) →
      announcedSize ((firmwareUpgrade fuel image settings).exec oracle history).events =
        some (streamedSize
          ((firmwareUpgrade fuel image settings).exec oracle history).events) := by
  intro claim
  obtain ⟨hdr, valid⟩ := validateImage_smallest
  obtain ⟨large, bounded⟩ := size_of_validateImage valid
  have acks := acksOwn_exactBoard
    (firmwareUpgrade 3000 (blankImage 0x200000) ⟨defaultTimeout, defaultRetries⟩) []
  obtain ⟨count, sends⟩ := sendsSlices_of_exec bounded acks
  have same := claim _ hdr 3000 _ exactBoard [] valid acks
  rw [sends.announcedSize bounded, sends.streamedSize, Option.some.injEq] at same
  simp only [minImageSize] at large
  omega

end Runs

end RbctlDsl.Dsl
