import RbctlDsl.Proto.Checksum

/-!
# The board's checksum

`proto_compute_checksum` of the board's daemon, which walks the covered region with a table of
sixteen words, two nibbles for every byte, and what `checksum.py` makes of a frame with it.  A
nibble is a `BitVec 4`, so every lookup is inside the table.
-/

namespace RbctlDsl.Proto

open RbctlDsl.Lib

/-- `g_awCrcTable`. -/
def gAwCrcTable (nibble : BitVec 4) : BitVec 16 :=
  (#v[0x0000, 0xCC01, 0xD801, 0x1400, 0xF001, 0x3C00, 0x2800, 0xE401,
    0xA001, 0x6C00, 0x7800, 0xB401, 0x5000, 0x9C01, 0x8801, 0x4400] : Vector (BitVec 16) 16).get
    nibble.toFin

/-- One byte: the low nibble, then the high one. -/
def protoStep (acc : BitVec 16) (byte : UInt8) : BitVec 16 :=
  let lo := byte.toBitVec.extractLsb' 0 4
  let hi := byte.toBitVec.extractLsb' 4 4
  let t := (acc >>> 4) ^^^ gAwCrcTable (acc.setWidth 4) ^^^ gAwCrcTable lo
  (t >>> 4) ^^^ gAwCrcTable (t.setWidth 4) ^^^ gAwCrcTable hi

def protoComputeChecksum (acc : UInt16) (buf : Bytes) : UInt16 :=
  UInt16.ofBitVec (buf.foldl protoStep acc.toBitVec)

/-- The checksum of a frame: its field is zeroed, and the covered region is walked. -/
def boardChecksum (frame : Bytes) : Option UInt16 := do
  let length := (← readPayloadLen frame) + coverHeaderBytes
  let zeroed ← splice? frame offChecksum (beBytes16 0)
  let region ← slice? zeroed offMagic (offMagic + length)
  return protoComputeChecksum 0 region

/-- The table is the one of the reflected polynomial. -/
theorem isTable_gAwCrcTable : Crc.IsTable crc16Arc gAwCrcTable := by
  unfold Crc.IsTable
  decide

theorem foldl_protoStep (acc : BitVec 16) (buf : Bytes) :
    buf.foldl protoStep acc = Crc.update crc16Arc acc buf := by
  induction buf generalizing acc with
  | nil => rfl
  | cons byte buf ih =>
      have step : protoStep acc byte = Crc.absorb crc16Arc acc byte :=
        (Crc.absorb_eq_nibbleSteps isTable_gAwCrcTable (by decide) acc byte).symm
      rw [List.foldl_cons, ih, step]
      rfl

/-- Walking nibbles through the table is dividing bit by bit. -/
theorem protoComputeChecksum_eq (buf : Bytes) :
    protoComputeChecksum 0 buf = computeChecksum buf :=
  congrArg UInt16.ofBitVec (foldl_protoStep 0 buf)

/-- The region of the frame whose checksum field is zeroed is what is fed in three pieces. -/
theorem boardChecksum_eq {frame : Bytes} {payloadLen : Nat}
    (read : readPayloadLen frame = some payloadLen)
    (long : offMagic + payloadLen + coverHeaderBytes ≤ frame.length) :
    boardChecksum frame = some (protoComputeChecksum 0 (coveredBytes frame payloadLen)) := by
  have header : 24 ≤ frame.length := by
    simp only [offMagic, coverHeaderBytes] at long
    omega
  have zeroed : splice? frame offChecksum (beBytes16 0) =
      some (frame.take offChecksum ++ ([0, 0] ++ frame.drop offPayload)) := by
    rw [splice?, if_pos (by simp only [offChecksum, length_beBytes16]; omega)]
    rfl
  have region : slice? (frame.take offChecksum ++ ([0, 0] ++ frame.drop offPayload)) offMagic
      (offMagic + (payloadLen + coverHeaderBytes)) = some (coveredBytes frame payloadLen) := by
    have lead : (frame.take offChecksum).drop offMagic =
        (frame.drop offMagic).take (offChecksum - offMagic) := List.drop_take ..
    have length : ((frame.drop offMagic).take (offChecksum - offMagic)).length = 8 := by
      simp only [List.length_take, List.length_drop, offMagic, offChecksum]
      omega
    have rest : offMagic + (payloadLen + coverHeaderBytes) - offMagic = 8 + (payloadLen + 2) := by
      simp only [offMagic, coverHeaderBytes]
      omega
    rw [slice?_eq_some (Nat.le_add_right ..), rest, List.drop_append_of_le_length, lead,
      List.take_append, length, List.take_of_length_le (by omega), Nat.add_sub_cancel_left,
      coveredBytes]
    · rfl
    · simp only [List.length_take, offMagic, offChecksum]
      omega
    · simp only [List.length_append, List.length_take, List.length_drop, List.length_cons,
        List.length_nil, offMagic, offChecksum, offPayload, coverHeaderBytes] at *
      omega
  simp only [boardChecksum, read, zeroed, region, Option.bind_eq_bind, Option.bind_some,
    Option.pure_def]

/-- On every frame that is long enough for its payload, the daemon computes the checksum that
the board computes. -/
theorem crcCoveredRegion_eq_boardChecksum (frame : Bytes) (payloadLen : Nat)
    (read : readPayloadLen frame = some payloadLen)
    (long : offMagic + payloadLen + coverHeaderBytes ≤ frame.length) :
    ∃ crc, crcCoveredRegion frame = some crc ∧ boardChecksum frame = some crc := by
  refine ⟨_, crcCoveredRegion_eq read long, ?_⟩
  rw [boardChecksum_eq read long, protoComputeChecksum_eq]

/-- Both compute the checksum of the reference vector. -/
theorem crcCoveredRegion_eq_boardChecksum_sampleFrame :
    ∃ crc, crcCoveredRegion (sampleFrame 0) = some crc ∧
      boardChecksum (sampleFrame 0) = some crc :=
  crcCoveredRegion_eq_boardChecksum (sampleFrame 0) 1 rfl (by decide +kernel)

example : crcCoveredRegion (sampleFrame 0) = some 0x1ea0 := by decide +kernel

end RbctlDsl.Proto
