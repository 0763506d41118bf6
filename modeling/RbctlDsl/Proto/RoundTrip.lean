import RbctlDsl.Proto.Frame

/-!
# Frame round trip

A command frame that has been built is accepted by the verifier and read back by the parser,
with whatever padding the socket layer appends.
-/

namespace RbctlDsl.Proto

open RbctlDsl.Lib

/-- A received frame shows what a command has been built from. -/
structure Frame.Shows (frame : Frame) (subtype : UInt8) (seq : UInt32) (srcMac : Mac)
    (payload : Bytes) : Prop where
  isCommand : frame.isCommand = true
  subtype : frame.subtype = subtype
  seq : frame.seq = seq
  srcMac : frame.srcMac = srcMac.octets
  dstMac : frame.dstMac = List.replicate 6 0xff
  payloadLen : frame.payloadLen.toNat = payload.length
  payload : frame.payload = payload

/-- A built frame, as the receiver of it and of some padding sees it. -/
structure Delivered (built padding : Bytes) (subtype : UInt8) (seq : UInt32) (srcMac : Mac)
    (payload : Bytes) : Prop where
  verified : verifyChecksum (built ++ padding) = some true
  parsed : ∃ frame, Frame.parse (built ++ padding) = some frame ∧
    frame.Shows subtype seq srcMac payload

namespace WireFrame

/-- Padding of the bytes is padding of the frame. -/
theorem bytes_append (wire : WireFrame) (padding : Bytes) :
    wire.bytes ++ padding = { wire with padding := wire.padding ++ padding }.bytes := by
  simp [bytes, ethernet, lead]

/-- The checksum of a frame does not depend on its padding. -/
theorem verifyChecksum_sealed (wire : WireFrame) (padding : Bytes) :
    verifyChecksum (wire.sealed.bytes ++ padding) = some true := by
  rw [bytes_append, verifyChecksum_bytes]
  exact congrArg some (beq_self_eq_true wire.checksum)

theorem view_shows (wire : WireFrame) (command : wire.magic = magicCommand)
    (broadcast : wire.dst = broadcastMac) :
    wire.view.Shows wire.subtype wire.seq wire.src wire.payload where
  isCommand := by rw [Frame.isCommand, magic_view, command, beq_self_eq_true]
  subtype := wire.subtype_view
  seq := wire.seq_view
  srcMac := wire.srcMac_view
  dstMac := by
    rw [dstMac_view, broadcast]
    rfl
  payloadLen := by rw [payloadLen_view, toNat_payload_length]
  payload := wire.payload_view

end WireFrame

/-- What is built is delivered, and the rest of the buffer stays as it was. -/
theorem buildCommandFrame_delivered (buf : Bytes) (subtype : UInt8) (seq : UInt32)
    (srcMac : Mac) (payload padding : Bytes) (bound : payload.length ≤ 65535)
    (room : headerLen + payload.length ≤ buf.length) :
    ∃ built whole, buildCommandFrame buf subtype seq srcMac payload = some (built, whole) ∧
      Delivered built padding subtype seq srcMac payload ∧
      whole.length = buf.length ∧ whole.take (headerLen + payload.length) = built ∧
      whole.drop (headerLen + payload.length) = buf.drop (headerLen + payload.length) := by
  have bounded : payload.length < 65536 := Nat.lt_succ_of_le bound
  let command := commandFrame subtype seq srcMac payload bounded
  have length : command.bytes.length = headerLen + payload.length := by
    rw [WireFrame.length_bytes]
    rfl
  refine ⟨_, _, buildCommandFrame_eq buf subtype seq srcMac payload bounded room, ⟨?_, ?_⟩,
    ?_, ?_, ?_⟩
  · exact WireFrame.verifyChecksum_sealed _ padding
  · let padded : WireFrame := { command with padding := command.padding ++ padding }
    refine ⟨padded.view, ?_, padded.view_shows rfl rfl⟩
    rw [WireFrame.bytes_append]
    exact padded.parse_bytes
  · rw [List.length_append, length, List.length_drop]
    exact Nat.add_sub_cancel' room
  · exact List.take_left' length
  · exact List.drop_left' length

/-- The address of a host's own interface. -/
def hostMac : Mac := ⟨[0x02, 0x00, 0x5e, 0x10, 0x20, 0x30], rfl⟩

/-- A payload in a buffer that has been used before, with padding. -/
theorem buildCommandFrame_delivered_padded :
    ∃ built whole, buildCommandFrame (List.replicate 64 0xaa) 3 7 hostMac [0x01, 0x00, 0xff] =
        some (built, whole) ∧
      Delivered built (List.replicate 33 0) 3 7 hostMac [0x01, 0x00, 0xff] ∧
      whole.length = 64 ∧ whole.take 27 = built ∧
      whole.drop 27 = (List.replicate 64 (0xaa : UInt8)).drop 27 :=
  buildCommandFrame_delivered (List.replicate 64 0xaa) 3 7 hostMac [0x01, 0x00, 0xff]
    (List.replicate 33 0) (by decide) (by decide)

end RbctlDsl.Proto
