import RbctlDsl.Lib.Bytes

/-!
# The `0x88B5` frame

The constants of `rbctl_proto`'s `lib.rs` and `frame.rs`, and the abstract frame they
describe.  A `WireFrame` is a frame by its fields; `WireFrame.bytes` is its only wire form.
The parser, the builder and the checksum work on bytes and are related to this type in
the modules that define them.
-/

namespace RbctlDsl.Proto

open RbctlDsl.Lib

/-- Board management EtherType. -/
def ethtypeBoard : UInt16 := 0x88B5
/-- Total header size; the payload starts right after it. -/
def headerLen : Nat := 0x18
/-- Minimum Ethernet frame length. -/
def minFrame : Nat := 60

def offMagic : Nat := 0x0E
def offSubtype : Nat := 0x0F
def offSeq : Nat := 0x10
def offPayloadLen : Nat := 0x14
def offChecksum : Nat := 0x16
def offPayload : Nat := 0x18

/-- Magic byte of a command frame, host to board. -/
def magicCommand : UInt8 := 0x11
/-- Magic byte of a response frame, board to host. -/
def magicResponse : UInt8 := 0x10

/-- A six-octet hardware address. -/
structure Mac where
  octets : Bytes
  size : octets.length = 6
  deriving DecidableEq

def broadcastMac : Mac := ⟨List.replicate 6 0xff, rfl⟩

/-- A frame by its fields.  `stored` is the checksum field, right or wrong, and `padding`
is what the sender appended after the payload. -/
structure WireFrame where
  dst : Mac
  src : Mac
  ethertype : UInt16
  magic : UInt8
  subtype : UInt8
  seq : UInt32
  stored : UInt16
  payload : Bytes
  padding : Bytes
  payload_bound : payload.length < 65536

namespace WireFrame

/-- The Ethernet header, which the checksum does not cover. -/
def ethernet (frame : WireFrame) : Bytes :=
  frame.dst.octets ++ (frame.src.octets ++ beBytes16 frame.ethertype)

/-- `magic`, `subtype`, `seq` and `payload_len`: the covered bytes before the checksum. -/
def lead (frame : WireFrame) : Bytes :=
  frame.magic :: frame.subtype ::
    (beBytes32 frame.seq ++ beBytes16 frame.payload.length.toUInt16)

def bytes (frame : WireFrame) : Bytes :=
  frame.ethernet ++ (frame.lead ++ (beBytes16 frame.stored ++ (frame.payload ++ frame.padding)))

@[simp] theorem length_ethernet (frame : WireFrame) : frame.ethernet.length = 14 := by
  simp [ethernet, frame.dst.size, frame.src.size]

@[simp] theorem length_lead (frame : WireFrame) : frame.lead.length = 8 := by
  simp [lead]

theorem length_bytes (frame : WireFrame) :
    frame.bytes.length = headerLen + frame.payload.length + frame.padding.length := by
  simp only [bytes, List.length_append, length_ethernet, length_lead, length_beBytes16,
    headerLen]
  omega

theorem toNat_payload_length (frame : WireFrame) :
    frame.payload.length.toUInt16.toNat = frame.payload.length := by
  simp [Nat.mod_eq_of_lt frame.payload_bound]

/-- The header fields of the wire form, read at their documented offsets. -/
theorem getElem?_magic (frame : WireFrame) :
    frame.bytes[offMagic]? = some frame.magic := by
  simp [bytes, offMagic, lead]

theorem getElem?_subtype (frame : WireFrame) :
    frame.bytes[offSubtype]? = some frame.subtype := by
  simp [bytes, offSubtype, lead, List.getElem?_append]

theorem be32At?_seq (frame : WireFrame) :
    be32At? frame.bytes offSeq = some frame.seq := by
  have regroup : frame.bytes = (frame.ethernet ++ [frame.magic, frame.subtype]) ++
      (beBytes32 frame.seq ++ (beBytes16 frame.payload.length.toUInt16 ++
        (beBytes16 frame.stored ++ (frame.payload ++ frame.padding)))) := by
    simp [bytes, lead]
  rw [regroup]
  exact be32At?_append _ _ _ _ (by simp [offSeq])

theorem be16At?_payloadLen (frame : WireFrame) :
    be16At? frame.bytes offPayloadLen = some frame.payload.length.toUInt16 := by
  have regroup : frame.bytes =
      (frame.ethernet ++ (frame.magic :: frame.subtype :: beBytes32 frame.seq)) ++
        (beBytes16 frame.payload.length.toUInt16 ++
          (beBytes16 frame.stored ++ (frame.payload ++ frame.padding))) := by
    simp [bytes, lead]
  rw [regroup]
  exact be16At?_append _ _ _ _ (by simp [offPayloadLen])

theorem be16At?_checksum (frame : WireFrame) :
    be16At? frame.bytes offChecksum = some frame.stored := by
  have regroup : frame.bytes = (frame.ethernet ++ frame.lead) ++
      (beBytes16 frame.stored ++ (frame.payload ++ frame.padding)) := by
    simp [bytes]
  rw [regroup]
  exact be16At?_append _ _ _ _ (by simp [offChecksum])

/-- The covered bytes before and after the checksum field. -/
theorem slice?_lead (frame : WireFrame) :
    slice? frame.bytes offMagic offChecksum = some frame.lead :=
  slice?_middle _ _ _ _ _ (by simp [offMagic]) (by simp [offChecksum])

theorem slice?_payload (frame : WireFrame) :
    slice? frame.bytes offPayload (offPayload + frame.payload.length) =
      some frame.payload := by
  have regroup : frame.bytes =
      (frame.ethernet ++ (frame.lead ++ beBytes16 frame.stored)) ++
        (frame.payload ++ frame.padding) := by
    simp [bytes]
  rw [regroup]
  exact slice?_middle _ _ _ _ _ (by simp [offPayload]) (by simp [offPayload])

end WireFrame

end RbctlDsl.Proto
