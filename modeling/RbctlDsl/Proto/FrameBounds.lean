import RbctlDsl.Proto.Frame

/-!
# The bounds of a frame

The verifier, the parser and the sealing of a frame take the covered range from the same
untrusted length field, each with its own arithmetic.  They agree on every byte string.
-/

namespace RbctlDsl.Proto

open RbctlDsl.Lib

/-! ## The parser -/

namespace Frame

/-- What parses is long enough for the payload that it declares. -/
theorem parse_isSome_iff {data : Bytes} : (parse data).isSome ↔
    ∃ payloadLen, readPayloadLen data = some payloadLen ∧
      offMagic + payloadLen + coverHeaderBytes ≤ data.length := by
  unfold parse
  split
  · next header =>
      obtain ⟨payloadLen, read⟩ := Option.isSome_iff_exists.mp (readPayloadLen_isSome header)
      simp only [read, Option.get_some, Option.some.injEq, exists_eq_left']
      split
      · next fits =>
          refine iff_of_true rfl ?_
          simp only [offPayload, offMagic, coverHeaderBytes] at fits ⊢
          omega
      · next misfit =>
          refine iff_of_false (by simp) ?_
          simp only [offPayload, offMagic, coverHeaderBytes] at misfit ⊢
          omega
  · next short =>
      refine iff_of_false (by simp) ?_
      rintro ⟨payloadLen, read, long⟩
      apply short
      simp only [offMagic, coverHeaderBytes, headerLen] at long ⊢
      omega

variable (frame : Frame)

/-- Every accessor reads inside of the buffer what it returns. -/
structure InBounds : Prop where
  magic : frame.buf[offMagic]? = some frame.magic
  subtype : frame.buf[offSubtype]? = some frame.subtype
  seq : be32At? frame.buf offSeq = some frame.seq
  payloadLen : be16At? frame.buf offPayloadLen = some frame.payloadLen
  dstMac : slice? frame.buf 0x00 0x06 = some frame.dstMac
  srcMac : slice? frame.buf 0x06 0x0c = some frame.srcMac
  payload : slice? frame.buf offPayload (offPayload + frame.payloadLen.toNat) = some frame.payload

theorem inBounds : frame.InBounds := by
  have header : 24 ≤ frame.buf.length := frame.header_fits
  have declared : be16At? frame.buf offPayloadLen = some frame.payloadLen :=
    Option.eq_some_of_isSome _
  have fits := frame.payload_fits frame.payloadLen.toNat (by rw [readPayloadLen, declared]; rfl)
  constructor
  case magic | subtype => exact List.getElem?_eq_getElem _
  case seq => exact Option.eq_some_of_isSome _
  case payloadLen => exact declared
  case dstMac => exact slice?_eq_some (Nat.zero_le _) (Nat.le_trans (by decide) header)
  case srcMac => exact slice?_eq_some (by decide) (Nat.le_trans (by decide) header)
  case payload =>
    rw [slice?_eq_some (Nat.le_add_right ..) fits, Nat.add_sub_cancel_left]
    rfl

end Frame

/-! ## Sealing -/

/-- Only the two bytes of the checksum field may differ. -/
structure SameButChecksum (data sealedData : Bytes) : Prop where
  length : sealedData.length = data.length
  elsewhere : ∀ index, index < offChecksum ∨ offPayload ≤ index → sealedData[index]? = data[index]?

section Parts

variable {before field : Bytes} (lead : before.length = offChecksum)
  (two : field.length = 2)

include lead

theorem readPayloadLen_parts (rest : Bytes) :
    readPayloadLen (before ++ rest) = readPayloadLen before := by
  have front : (before ++ rest).take offChecksum = before := List.take_left' lead
  rw [readPayloadLen, ← be16At?_take _ (by decide : offPayloadLen + 2 ≤ offChecksum), front]
  rfl

include two

/-- The covered bytes do not depend on the checksum field. -/
theorem coveredBytes_parts (after : Bytes) (payloadLen : Nat) :
    coveredBytes (before ++ (field ++ after)) payloadLen =
      before.drop offMagic ++ ([0, 0] ++ after.take payloadLen) := by
  have inside : offMagic ≤ before.length := by rw [lead]; decide
  have same : (before.drop offMagic).length = offChecksum - offMagic := by
    rw [List.length_drop, lead]
  have behind : (before ++ (field ++ after)).drop offPayload = after := by
    rw [← List.append_assoc]
    exact List.drop_left' (by rw [List.length_append, lead, two]; rfl)
  rw [coveredBytes, behind, List.drop_append_of_le_length inside, List.take_left' same]

end Parts

section Sealing

variable {data : Bytes} {payloadLen : Nat}

/-- A byte string that holds a header, cut around its checksum field. -/
theorem parts_of_header (header : offPayload ≤ data.length) :
    (data.take offChecksum).length = offChecksum ∧
      ((data.drop offChecksum).take 2).length = 2 ∧
      data = data.take offChecksum ++ ((data.drop offChecksum).take 2 ++ data.drop offPayload) := by
  have rest : data.drop offPayload = (data.drop offChecksum).drop 2 := by
    rw [List.drop_drop]
    rfl
  refine ⟨?_, ?_, by rw [rest, List.take_append_drop, List.take_append_drop]⟩
  · rw [List.length_take]
    exact Nat.min_eq_left (Nat.le_trans (by decide) header)
  · rw [List.length_take, List.length_drop]
    simp only [offPayload, offChecksum] at header ⊢
    omega

/-- A frame that is long enough is sealed, and then accepted. -/
theorem setChecksum_spec (read : readPayloadLen data = some payloadLen)
    (long : offMagic + payloadLen + coverHeaderBytes ≤ data.length) :
    ∃ sealedData, setChecksum data = some sealedData ∧ SameButChecksum data sealedData ∧
      verifyChecksum sealedData = some true := by
  have header : offPayload ≤ data.length := by
    simp only [offMagic, coverHeaderBytes, offPayload] at long ⊢
    omega
  obtain ⟨lead, two, parts⟩ := parts_of_header header
  have written : setChecksum data =
      splice? data offChecksum (beBytes16 (computeChecksum (coveredBytes data payloadLen))) := by
    rw [setChecksum, crcCoveredRegion_eq read long]
    rfl
  have result : splice? data offChecksum
      (beBytes16 (computeChecksum (coveredBytes data payloadLen))) = some (data.take offChecksum ++
        (beBytes16 (computeChecksum (coveredBytes data payloadLen)) ++ data.drop offPayload)) :=
    if_pos header
  obtain ⟨length, elsewhere⟩ := splice?_frame result
  refine ⟨_, written.trans result, ⟨length, elsewhere⟩, ?_⟩
  have sameRead :=
    readPayloadLen_parts lead ((data.drop offChecksum).take 2 ++ data.drop offPayload)
  have sameBytes := coveredBytes_parts lead two (data.drop offPayload) payloadLen
  rw [← parts] at sameRead sameBytes
  rw [verifyChecksum_eq ((readPayloadLen_parts lead _).trans (sameRead.symm.trans read))
    (be16At?_append _ _ _ _ lead) (length ▸ long), coveredBytes_parts lead rfl, ← sameBytes,
    beq_self_eq_true]

end Sealing

/-- The verifier never panics, and accepts only what parses.  What parses can be read field by
field and sealed in place, and verifies then. -/
theorem frame_bounds_agree :
    (∀ data : Bytes, ∃ verdict, verifyChecksum data = some verdict ∧
        (verdict = true → (Frame.parse data).isSome)) ∧
      ∀ (data : Bytes) (frame : Frame), Frame.parse data = some frame →
        frame.buf = data ∧ frame.InBounds ∧
          ∃ sealedData, setChecksum data = some sealedData ∧ SameButChecksum data sealedData ∧
            verifyChecksum sealedData = some true := by
  constructor
  · intro data
    obtain ⟨verdict, answer⟩ := Option.isSome_iff_exists.mp (verifyChecksum_isSome data)
    refine ⟨verdict, answer, ?_⟩
    rintro rfl
    obtain ⟨payloadLen, read, long, -⟩ := verifyChecksum_eq_true answer
    exact Frame.parse_isSome_iff.mpr ⟨payloadLen, read, long⟩
  · intro data frame parsed
    obtain ⟨payloadLen, read, long⟩ := Frame.parse_isSome_iff.mp (Option.isSome_of_eq_some parsed)
    exact ⟨Frame.parse_eq_some parsed, frame.inBounds, setChecksum_spec read long⟩

/-- A frame with a wrong checksum and one byte of payload is sealed. -/
theorem frame_bounds_agree_sampleFrame :
    ∃ sealedData, setChecksum (sampleFrame 0) = some sealedData ∧
      SameButChecksum (sampleFrame 0) sealedData ∧ verifyChecksum sealedData = some true := by
  obtain ⟨frame, parsed⟩ := Option.isSome_iff_exists.mp
    (by decide +kernel : (Frame.parse (sampleFrame 0)).isSome)
  exact (frame_bounds_agree.2 (sampleFrame 0) frame parsed).2.2

end RbctlDsl.Proto
