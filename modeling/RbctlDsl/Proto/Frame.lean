import RbctlDsl.Proto.Checksum

/-!
# Building and parsing frames

`frame.rs`: the command builder, the view of a received frame, and the sequence counter.
A `Frame` carries the two bounds that `Frame::parse` establishes, so every accessor reads
inside the buffer.
-/

namespace RbctlDsl.Proto

open RbctlDsl.Lib

/-! ## Command frames -/

/-- Fill `buf` with a command frame and compute its checksum.  The result is the frame and
the whole buffer it is the front of; `none` is the panic on a buffer that is too small. -/
def buildCommandFrame (buf : Bytes) (subtype : UInt8) (seq : UInt32) (srcMac : Mac)
    (payload : Bytes) : Option (Bytes × Bytes) := do
  let total := headerLen + payload.length
  guard (buf.length ≥ total)
  let f := buf.take total
  -- Ethernet header
  let f ← splice? f 0x00 broadcastMac.octets
  let f ← splice? f 0x06 srcMac.octets
  let f ← splice? f 0x0c (beBytes16 ethtypeBoard)
  -- protocol header; the length is `payload.len() as u16`
  let f ← splice? f offMagic [magicCommand]
  let f ← splice? f offSubtype [subtype]
  let f ← splice? f offSeq (beBytes32 seq)
  let f ← splice? f offPayloadLen (beBytes16 payload.length.toUInt16)
  let f ← splice? f offChecksum (beBytes16 0)
  let f ← splice? f offPayload payload
  let f ← setChecksum f
  return (f, f ++ buf.drop total)

/-- The fields that `buildCommandFrame` writes, before the checksum is computed. -/
def blankCommand (subtype : UInt8) (seq : UInt32) (srcMac : Mac) (payload : Bytes)
    (payload_bound : payload.length < 65536) : WireFrame where
  dst := broadcastMac
  src := srcMac
  ethertype := ethtypeBoard
  magic := magicCommand
  subtype := subtype
  seq := seq
  stored := 0
  payload := payload
  padding := []
  payload_bound := payload_bound

/-- The abstract frame that `buildCommandFrame` builds. -/
def commandFrame (subtype : UInt8) (seq : UInt32) (srcMac : Mac) (payload : Bytes)
    (payload_bound : payload.length < 65536) : WireFrame :=
  (blankCommand subtype seq srcMac payload payload_bound).sealed

/-- Writing right after what has been written so far. -/
private theorem splice?_next (written rest source : Bytes) (start : Nat)
    (startEq : written.length = start) (room : source.length ≤ rest.length) :
    splice? (written ++ rest) start source =
      some ((written ++ source) ++ rest.drop source.length) := by
  have split : rest = rest.take source.length ++ rest.drop source.length :=
    (List.take_append_drop _ _).symm
  have sameLength : (rest.take source.length).length = source.length := by
    simp [room]
  calc
    splice? (written ++ rest) start source =
        splice? (written ++ (rest.take source.length ++ rest.drop source.length))
          start source := by rw [← split]
    _ = some (written ++ (source ++ rest.drop source.length)) :=
      splice?_middle _ _ _ _ _ startEq sameLength
    _ = _ := by rw [List.append_assoc]

/-- The builder writes the abstract command frame, and leaves the rest of the buffer. -/
theorem buildCommandFrame_eq (buf : Bytes) (subtype : UInt8) (seq : UInt32) (srcMac : Mac)
    (payload : Bytes) (bound : payload.length < 65536)
    (room : headerLen + payload.length ≤ buf.length) :
    buildCommandFrame buf subtype seq srcMac payload =
      some ((commandFrame subtype seq srcMac payload bound).bytes,
        (commandFrame subtype seq srcMac payload bound).bytes ++
          buf.drop (headerLen + payload.length)) := by
  have mac := srcMac.size
  have broadcast := broadcastMac.size
  have length : (buf.take (headerLen + payload.length)).length = 24 + payload.length := by
    rw [List.length_take, Nat.min_eq_left room, headerLen]
  -- every `splice?` extends what is written and consumes as much of the old contents
  have first := splice?_next [] (buf.take (headerLen + payload.length)) broadcastMac.octets 0
    rfl (by omega)
  simp only [List.nil_append] at first
  simp only [buildCommandFrame, ↓guard_eq, ge_iff_le, room, if_true, first, Option.pure_def,
    Option.bind_eq_bind, Option.bind_some]
  repeat
    rw [splice?_next _ _ _ _ (by simp [mac, broadcast, offMagic, offSubtype, offSeq,
        offPayloadLen, offChecksum, offPayload])
      (by simp [mac, broadcast, length] <;> omega), Option.bind_some]
  have written : broadcastMac.octets ++ srcMac.octets ++ beBytes16 ethtypeBoard ++
      [magicCommand] ++ [subtype] ++ beBytes32 seq ++ beBytes16 payload.length.toUInt16 ++
      beBytes16 0 ++ payload = (blankCommand subtype seq srcMac payload bound).bytes := by
    simp [blankCommand, WireFrame.bytes, WireFrame.ethernet, WireFrame.lead]
  rw [written, List.drop_eq_nil_of_le (by simp [mac, broadcast, length]),
    List.append_nil, WireFrame.setChecksum_bytes, Option.bind_some]
  rfl

/-- A buffer that is too small makes the builder panic. -/
theorem buildCommandFrame_eq_none (buf : Bytes) (subtype : UInt8) (seq : UInt32)
    (srcMac : Mac) (payload : Bytes) (small : buf.length < headerLen + payload.length) :
    buildCommandFrame buf subtype seq srcMac payload = none := by
  have short : ¬ headerLen + payload.length ≤ buf.length := Nat.not_le.mpr small
  simp [buildCommandFrame, ↓guard_eq, short]

/-! ## Received frames -/

/-- A view of a received frame: a buffer that holds the header and the declared payload. -/
structure Frame where
  buf : Bytes
  header_fits : headerLen ≤ buf.length
  payload_fits : ∀ plen, readPayloadLen buf = some plen → offPayload + plen ≤ buf.length

namespace Frame

theorem readPayloadLen_isSome {buf : Bytes} (header : headerLen ≤ buf.length) :
    (readPayloadLen buf).isSome := by
  simp only [readPayloadLen, Option.isSome_map, be16At?_isSome_iff, offPayloadLen]
  exact Nat.le_trans (by decide) header

/-- `None` if the buffer is shorter than the header or the payload extends past its end. -/
def parse (buf : Bytes) : Option Frame :=
  if header : headerLen ≤ buf.length then
    let plen := (readPayloadLen buf).get (readPayloadLen_isSome header)
    if fits : offPayload + plen ≤ buf.length then
      some ⟨buf, header, fun declared found => by simpa [plen, found] using fits⟩
    else
      none
  else
    none

variable (frame : Frame)

theorem in_header {index : Nat} (inHeader : index < headerLen) :
    index < frame.buf.length :=
  Nat.lt_of_lt_of_le inHeader frame.header_fits

def magic : UInt8 := frame.buf.get ⟨offMagic, frame.in_header (by decide)⟩

def subtype : UInt8 := frame.buf.get ⟨offSubtype, frame.in_header (by decide)⟩

def seq : UInt32 :=
  (be32At? frame.buf offSeq).get
    ((be32At?_isSome_iff _ _).mpr (Nat.le_trans (by decide) frame.header_fits))

def payloadLen : UInt16 :=
  (be16At? frame.buf offPayloadLen).get
    ((be16At?_isSome_iff _ _).mpr (Nat.le_trans (by decide) frame.header_fits))

def isCommand : Bool := frame.magic == magicCommand

def isResponse : Bool := frame.magic == magicResponse

def dstMac : Bytes := frame.buf.take 0x06

def srcMac : Bytes := (frame.buf.drop 0x06).take (0x0c - 0x06)

/-- The payload slice: offset `0x18`, length `payload_len`. -/
def payload : Bytes := (frame.buf.drop offPayload).take frame.payloadLen.toNat

theorem parse_eq_some {buf : Bytes} {frame : Frame} (parsed : parse buf = some frame) :
    frame.buf = buf := by
  unfold parse at parsed
  split at parsed
  · dsimp only at parsed
    split at parsed
    · cases parsed
      rfl
    · cases parsed
  · cases parsed

end Frame

/-! ## Parsing an abstract frame -/

namespace WireFrame

variable (wire : WireFrame)

theorem header_fits_bytes : headerLen ≤ wire.bytes.length := by
  rw [length_bytes]
  omega

theorem payload_fits_bytes (plen : Nat) (found : readPayloadLen wire.bytes = some plen) :
    offPayload + plen ≤ wire.bytes.length := by
  rw [readPayloadLen_bytes, Option.some.injEq] at found
  rw [length_bytes, ← found, offPayload, headerLen]
  omega

/-- The parser's view of an abstract frame. -/
def view : Frame where
  buf := wire.bytes
  header_fits := wire.header_fits_bytes
  payload_fits := wire.payload_fits_bytes

@[simp] theorem buf_view : wire.view.buf = wire.bytes := rfl

theorem parse_bytes : Frame.parse wire.bytes = some wire.view := by
  have header : headerLen ≤ wire.bytes.length := wire.view.header_fits
  have fits : offPayload + wire.payload.length ≤ wire.bytes.length :=
    wire.view.payload_fits _ wire.readPayloadLen_bytes
  simp [Frame.parse, header, readPayloadLen_bytes, fits, view]

@[simp] theorem magic_view : wire.view.magic = wire.magic :=
  (List.getElem_eq_iff _).mpr wire.getElem?_magic

@[simp] theorem subtype_view : wire.view.subtype = wire.subtype :=
  (List.getElem_eq_iff _).mpr wire.getElem?_subtype

@[simp] theorem seq_view : wire.view.seq = wire.seq := by
  simp [Frame.seq, be32At?_seq]

@[simp] theorem payloadLen_view : wire.view.payloadLen = wire.payload.length.toUInt16 := by
  simp [Frame.payloadLen, be16At?_payloadLen]

@[simp] theorem dstMac_view : wire.view.dstMac = wire.dst.octets := by
  rw [Frame.dstMac, buf_view, bytes, ethernet, List.append_assoc]
  exact List.take_left' wire.dst.size

@[simp] theorem srcMac_view : wire.view.srcMac = wire.src.octets := by
  rw [Frame.srcMac, buf_view, bytes, ethernet, List.append_assoc, List.append_assoc,
    List.drop_left' wire.dst.size]
  exact List.take_left' wire.src.size

@[simp] theorem payload_view : wire.view.payload = wire.payload := by
  have fits : offPayload + wire.payload.length ≤ wire.bytes.length :=
    wire.view.payload_fits _ wire.readPayloadLen_bytes
  have sliced := wire.slice?_payload
  rw [slice?_eq_some (Nat.le_add_right ..) fits] at sliced
  have taken := Option.some.inj sliced
  rw [Nat.add_sub_cancel_left] at taken
  rw [Frame.payload, payloadLen_view, toNat_payload_length, buf_view, taken]

/-- Cutting a frame behind its payload cuts its padding. -/
theorem take_bytes {length : Nat} (enough : headerLen + wire.payload.length ≤ length) :
    wire.bytes.take length =
      { wire with
        padding := wire.padding.take (length - (headerLen + wire.payload.length)) }.bytes := by
  have front : (wire.ethernet ++ wire.lead ++ beBytes16 wire.stored ++ wire.payload).length =
      headerLen + wire.payload.length := by
    simp only [List.length_append, length_ethernet, length_lead, length_beBytes16, headerLen]
  have regroup (padding : Bytes) : { wire with padding := padding }.bytes =
      (wire.ethernet ++ wire.lead ++ beBytes16 wire.stored ++ wire.payload) ++ padding := by
    simp [bytes, ethernet, lead]
  rw [regroup (wire.padding.take _)]
  calc
    wire.bytes.take length =
        ((wire.ethernet ++ wire.lead ++ beBytes16 wire.stored ++ wire.payload) ++
          wire.padding).take length := by rw [← regroup]
    _ = _ := by
      rw [List.take_append, front, List.take_of_length_le (front.symm ▸ enough)]

/-- A frame that parses after a cut was cut behind its payload. -/
theorem parse_take {length : Nat} {frame : Frame}
    (parsed : Frame.parse (wire.bytes.take length) = some frame) :
    ∃ padding, frame = { wire with padding := padding }.view := by
  have buffer := Frame.parse_eq_some parsed
  have inside : frame.buf.length ≤ length := by
    rw [buffer]
    exact List.length_take_le _ _
  have header : headerLen ≤ length := Nat.le_trans frame.header_fits inside
  have declared : readPayloadLen frame.buf = some wire.payload.length := by
    rw [buffer, readPayloadLen, be16At?_take _ (Nat.le_trans (by decide) header)]
    exact wire.readPayloadLen_bytes
  have enough : headerLen + wire.payload.length ≤ length :=
    Nat.le_trans (frame.payload_fits _ declared) inside
  rw [wire.take_bytes enough, parse_bytes] at parsed
  exact ⟨_, (Option.some.inj parsed).symm⟩

end WireFrame

/-! ## Sequence counter -/

/-- Monotonic sequence counter for transmitted frames; it wraps on overflow. -/
structure SeqCounter where
  last : UInt32
  deriving DecidableEq

namespace SeqCounter

def new : SeqCounter := ⟨0⟩

/-- The new counter; its `last` is also the number handed out. -/
def next (counter : SeqCounter) : SeqCounter := ⟨counter.last + 1⟩

end SeqCounter

end RbctlDsl.Proto
