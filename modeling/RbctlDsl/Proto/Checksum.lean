import RbctlDsl.Lib.Crc
import RbctlDsl.Proto.Wire

/-!
# Frame checksum

`checksum.rs`: CRC-16/ARC over the covered region, with the checksum field taken as zero.
The `crc` crate's `CRC_16_ARC` is the bitwise reflected CRC with polynomial `0xA001`,
initial register 0 and no final xor.

`none` is a panic: an index out of bounds or the length assertion of
`crc_covered_region`.
-/

namespace RbctlDsl.Proto

open RbctlDsl.Lib

/-- The reflected polynomial of `CRC_16_ARC`. -/
def crc16Arc : BitVec 16 := 0xA001#16

/-- magic(1) + subtype(1) + seq(4) + payload_len(2) + checksum(2). -/
def coverHeaderBytes : Nat := 10

def computeChecksum (data : Bytes) : UInt16 :=
  UInt16.ofBitVec (Crc.update crc16Arc 0 data)

/-- Read the wire `payload_len` field. -/
def readPayloadLen (frame : Bytes) : Option Nat :=
  (be16At? frame offPayloadLen).map UInt16.toNat

/-- The checksum of the covered region, fed to one digest in three pieces. -/
def crcCoveredRegion (frame : Bytes) : Option UInt16 := do
  let payloadLen ← readPayloadLen frame
  let coverEnd := offMagic + payloadLen + coverHeaderBytes
  guard (frame.length ≥ coverEnd)
  let register := Crc.update crc16Arc 0 (← slice? frame offMagic offChecksum)
  let register := Crc.update crc16Arc register [0, 0]
  let register := Crc.update crc16Arc register (← slice? frame (offChecksum + 2) coverEnd)
  return UInt16.ofBitVec register

/-- Compute the checksum and store it big-endian at the checksum field. -/
def setChecksum (frame : Bytes) : Option Bytes := do
  let crc ← crcCoveredRegion frame
  splice? frame offChecksum (beBytes16 crc)

/-- Compare the stored checksum with a fresh computation; a short frame is `false`. -/
def verifyChecksum (frame : Bytes) : Option Bool :=
  -- `checked_sub` is `None` on a frame that is shorter than the header
  if frame.length < offMagic + coverHeaderBytes then
    some false
  else do
    let payloadLen ← readPayloadLen frame
    if frame.length - (offMagic + coverHeaderBytes) < payloadLen then
      return false
    let coverEnd := offMagic + payloadLen + coverHeaderBytes
    if frame.length < coverEnd then
      return false
    let stored ← be16At? frame offChecksum
    return stored == (← crcCoveredRegion frame)

/-- The verifier checks every length before it reads, so it never panics. -/
theorem verifyChecksum_isSome (frame : Bytes) : (verifyChecksum frame).isSome := by
  rw [verifyChecksum]
  by_cases short : frame.length < offMagic + coverHeaderBytes
  · rw [if_pos short]
    rfl
  · rw [if_neg short]
    have long : 24 ≤ frame.length := Nat.not_lt.mp short
    obtain ⟨declared, read⟩ : ∃ declared, readPayloadLen frame = some declared := by
      rw [← Option.isSome_iff_exists, readPayloadLen, Option.isSome_map, be16At?_isSome_iff]
      exact Nat.le_trans (by decide) long
    obtain ⟨stored, field⟩ : ∃ stored, be16At? frame offChecksum = some stored := by
      rw [← Option.isSome_iff_exists, be16At?_isSome_iff]
      exact Nat.le_trans (by decide) long
    simp only [read, field, Option.bind_eq_bind, Option.bind_some, Option.pure_def]
    split
    · rfl
    · split
      · rfl
      · next covered =>
          have room : offMagic + declared + coverHeaderBytes ≤ frame.length :=
            Nat.not_lt.mp covered
          have lead : slice? frame offMagic offChecksum = some _ :=
            slice?_eq_some (by decide) (Nat.le_trans (by decide) long)
          have tail : slice? frame (offChecksum + 2)
              (offMagic + declared + coverHeaderBytes) = some _ :=
            slice?_eq_some (by simp only [offChecksum, offMagic, coverHeaderBytes]; omega) room
          simp [crcCoveredRegion, read, lead, tail, ↓guard_eq, room]

/-! ## The covered bytes -/

/-- The covered region, with the checksum field taken as zero. -/
def coveredBytes (frame : Bytes) (payloadLen : Nat) : Bytes :=
  (frame.drop offMagic).take (offChecksum - offMagic) ++
    ([0, 0] ++ (frame.drop offPayload).take payloadLen)

theorem length_coveredBytes {frame : Bytes} {payloadLen : Nat}
    (long : offMagic + payloadLen + coverHeaderBytes ≤ frame.length) :
    (coveredBytes frame payloadLen).length = payloadLen + coverHeaderBytes := by
  simp only [coveredBytes, List.length_append, List.length_take, List.length_drop, offMagic,
    offChecksum, offPayload, coverHeaderBytes, List.length_cons, List.length_nil] at *
  omega

/-- Three pieces are fed, and what they are checked against is their concatenation. -/
theorem crcCoveredRegion_eq {frame : Bytes} {payloadLen : Nat}
    (read : readPayloadLen frame = some payloadLen)
    (long : offMagic + payloadLen + coverHeaderBytes ≤ frame.length) :
    crcCoveredRegion frame = some (computeChecksum (coveredBytes frame payloadLen)) := by
  have header : offChecksum + 2 ≤ offMagic + payloadLen + coverHeaderBytes := by
    simp only [offChecksum, offMagic, coverHeaderBytes]
    omega
  have front : slice? frame offMagic offChecksum = some _ :=
    slice?_eq_some (by decide) (Nat.le_of_add_right_le (Nat.le_trans header long))
  have tail : slice? frame (offChecksum + 2) (offMagic + payloadLen + coverHeaderBytes) = some _ :=
    slice?_eq_some header long
  have same : offMagic + payloadLen + coverHeaderBytes - (offChecksum + 2) = payloadLen := by
    simp only [offChecksum, offMagic, coverHeaderBytes]
    omega
  simp only [crcCoveredRegion, read, front, tail, same, ↓guard_eq, ge_iff_le, long, if_true,
    Option.bind_eq_bind, Option.bind_some, Option.pure_def]
  rw [coveredBytes, computeChecksum, Crc.update_append, Crc.update_append]
  rfl

theorem verifyChecksum_eq {frame : Bytes} {payloadLen : Nat} {stored : UInt16}
    (read : readPayloadLen frame = some payloadLen)
    (field : be16At? frame offChecksum = some stored)
    (long : offMagic + payloadLen + coverHeaderBytes ≤ frame.length) :
    verifyChecksum frame =
      some (stored == computeChecksum (coveredBytes frame payloadLen)) := by
  have header : ¬ frame.length < offMagic + coverHeaderBytes := by omega
  have declared : ¬ frame.length - (offMagic + coverHeaderBytes) < payloadLen := by omega
  have covered : ¬ frame.length < offMagic + payloadLen + coverHeaderBytes := by omega
  simp only [verifyChecksum, header, read, declared, covered, field, crcCoveredRegion_eq read long,
    if_false, Option.bind_eq_bind, Option.bind_some, Option.pure_def]

/-- The verifier answers `false` to a frame that is too short for its payload. -/
theorem verifyChecksum_of_short {frame : Bytes} (short : ∀ payloadLen,
    readPayloadLen frame = some payloadLen →
      frame.length < offMagic + payloadLen + coverHeaderBytes) :
    verifyChecksum frame = some false := by
  unfold verifyChecksum
  split
  · rfl
  · next header =>
      obtain ⟨payloadLen, read⟩ : ∃ payloadLen, readPayloadLen frame = some payloadLen := by
        rw [← Option.isSome_iff_exists, readPayloadLen, Option.isSome_map, be16At?_isSome_iff]
        exact Nat.le_trans (by decide) (Nat.not_lt.mp header)
      have declared : frame.length - (offMagic + coverHeaderBytes) < payloadLen := by
        have cut := short payloadLen read
        omega
      simp only [read, Option.bind_eq_bind, Option.bind_some, declared, if_true, Option.pure_def]

/-- What the verifier accepts is long enough, and its field holds the checksum. -/
theorem verifyChecksum_eq_true {frame : Bytes} (accepted : verifyChecksum frame = some true) :
    ∃ payloadLen, readPayloadLen frame = some payloadLen ∧
      offMagic + payloadLen + coverHeaderBytes ≤ frame.length ∧
      be16At? frame offChecksum = some (computeChecksum (coveredBytes frame payloadLen)) := by
  by_cases long : ∃ payloadLen, readPayloadLen frame = some payloadLen ∧
      offMagic + payloadLen + coverHeaderBytes ≤ frame.length
  · obtain ⟨payloadLen, read, room⟩ := long
    obtain ⟨stored, field⟩ : ∃ stored, be16At? frame offChecksum = some stored := by
      rw [← Option.isSome_iff_exists, be16At?_isSome_iff]
      simp only [offChecksum, offMagic, coverHeaderBytes] at *
      omega
    rw [verifyChecksum_eq read field room] at accepted
    have matching := eq_of_beq (Option.some.inj accepted)
    exact ⟨payloadLen, read, room, matching ▸ field⟩
  · have short (payloadLen : Nat) (read : readPayloadLen frame = some payloadLen) :
        frame.length < offMagic + payloadLen + coverHeaderBytes :=
      Nat.lt_of_not_le fun room => long ⟨payloadLen, read, room⟩
    rw [verifyChecksum_of_short short] at accepted
    cases accepted

/-- The `dsl_config_down` frame of the reference vector, with a checksum field. -/
def sampleFrame (stored : UInt16) : Bytes :=
  List.replicate 6 0xff ++ [0x00, 0x11, 0x22, 0x33, 0x44, 0x55, 0x88, 0xB5, 0x11, 0x03,
    0, 0, 0, 1, 0, 1] ++ beBytes16 stored ++ [0]

/-! ## The checksum of an abstract frame -/

namespace WireFrame

/-- The checksum that belongs to a frame's covered fields. -/
def checksum (frame : WireFrame) : UInt16 :=
  computeChecksum (frame.lead ++ ([0, 0] ++ frame.payload))

/-- The frame with the right checksum. -/
def sealed (frame : WireFrame) : WireFrame :=
  { frame with stored := frame.checksum }

@[simp] theorem checksum_sealed (frame : WireFrame) :
    frame.sealed.checksum = frame.checksum := rfl

theorem readPayloadLen_bytes (frame : WireFrame) :
    readPayloadLen frame.bytes = some frame.payload.length := by
  rw [readPayloadLen, be16At?_payloadLen, Option.map_some, toNat_payload_length]

theorem covered_bytes (frame : WireFrame) :
    offMagic + frame.payload.length + coverHeaderBytes ≤ frame.bytes.length := by
  rw [length_bytes]
  simp only [headerLen, offMagic, coverHeaderBytes]
  omega

theorem coveredBytes_bytes (frame : WireFrame) :
    coveredBytes frame.bytes frame.payload.length = frame.lead ++ ([0, 0] ++ frame.payload) := by
  have long := frame.covered_bytes
  simp only [offMagic, coverHeaderBytes] at long
  have lead := frame.slice?_lead
  rw [slice?_eq_some (by decide) (by simp only [offChecksum]; omega)] at lead
  have payload := frame.slice?_payload
  rw [slice?_eq_some (Nat.le_add_right ..) (by simp only [offPayload]; omega),
    Nat.add_sub_cancel_left] at payload
  rw [coveredBytes, Option.some.inj lead, Option.some.inj payload]

/-- Feeding the covered region piece by piece computes the frame's checksum. -/
theorem crcCoveredRegion_bytes (frame : WireFrame) :
    crcCoveredRegion frame.bytes = some frame.checksum := by
  rw [crcCoveredRegion_eq frame.readPayloadLen_bytes frame.covered_bytes, coveredBytes_bytes,
    checksum]

theorem setChecksum_bytes (frame : WireFrame) :
    setChecksum frame.bytes = some frame.sealed.bytes := by
  have regroup (stored : WireFrame) : stored.bytes = (stored.ethernet ++ stored.lead) ++
      (beBytes16 stored.stored ++ (stored.payload ++ stored.padding)) := by
    simp [bytes]
  rw [setChecksum, crcCoveredRegion_bytes, Option.bind_eq_bind, Option.bind_some, regroup,
    splice?_middle _ _ _ _ _ (by simp [offChecksum]) (by simp), regroup]
  rfl

/-- The verifier accepts exactly the frames whose checksum field is right. -/
theorem verifyChecksum_bytes (frame : WireFrame) :
    verifyChecksum frame.bytes = some (frame.stored == frame.checksum) := by
  rw [verifyChecksum_eq frame.readPayloadLen_bytes frame.be16At?_checksum frame.covered_bytes,
    coveredBytes_bytes, checksum]

end WireFrame

end RbctlDsl.Proto
