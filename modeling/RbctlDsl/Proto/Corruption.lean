import RbctlDsl.Lib.CrcErrors
import RbctlDsl.Proto.Checksum

/-!
# Corrupted frames

What the verifier makes of a frame that it accepts and of which bits have been flipped: an odd
number of flips and a short burst are noticed, and what is not covered does not matter.
-/

namespace RbctlDsl.Proto

open RbctlDsl.Lib RbctlDsl.Lib.Crc

/-- An index of the covered region. -/
def Covered (frame : Bytes) (index : Nat) : Prop :=
  ∃ payloadLen, readPayloadLen frame = some payloadLen ∧ offMagic ≤ index ∧
    index < offMagic + payloadLen + coverHeaderBytes

/-- Flips that spare everything but the covered bytes, and of these the two fields that the
verifier reads itself. -/
def SparesFields (frame pattern : Bytes) : Prop :=
  ∀ index byte, pattern[index]? = some byte → byte ≠ 0 →
    Covered frame index ∧ ¬ (offPayloadLen ≤ index ∧ index < offPayload)

/-- An odd number of flips, or flips within sixteen consecutive bits. -/
def IsDetectable (pattern : Bytes) : Prop :=
  Odd ((bits pattern).count true) ∨ IsBurst 16 (bits pattern)

/-! ## Reading a changed frame -/

section Same

variable {frame other : Bytes}

theorem be16At?_eq_getElem? (buf : Bytes) (offset : Nat) :
    be16At? buf offset = buf[offset]?.bind fun high => buf[offset + 1]?.map (be16 high) := by
  have first : buf[offset]? = (buf.drop offset)[0]? := by rw [List.getElem?_drop, Nat.add_zero]
  have second : buf[offset + 1]? = (buf.drop offset)[1]? := by rw [List.getElem?_drop]
  rw [first, second, be16At?]
  cases buf.drop offset with
  | nil => rfl
  | cons high rest =>
      cases rest with
      | nil => rfl
      | cons low rest => rfl

theorem be16At?_congr {offset : Nat} (high : other[offset]? = frame[offset]?)
    (low : other[offset + 1]? = frame[offset + 1]?) :
    be16At? other offset = be16At? frame offset := by
  rw [be16At?_eq_getElem?, be16At?_eq_getElem?, high, low]

/-- Frames that have their covered bytes in common have the same covered bytes. -/
theorem coveredBytes_congr {payloadLen : Nat} (read : readPayloadLen frame = some payloadLen)
    (same : ∀ index, Covered frame index → other[index]? = frame[index]?) :
    coveredBytes other payloadLen = coveredBytes frame payloadLen := by
  have part (start length : Nat) (lower : offMagic ≤ start)
      (upper : start + length ≤ offMagic + payloadLen + coverHeaderBytes) :
      (other.drop start).take length = (frame.drop start).take length := by
    apply List.ext_getElem?
    intro index
    rw [List.getElem?_take, List.getElem?_take]
    split
    · next inside =>
        rw [List.getElem?_drop, List.getElem?_drop]
        exact same _ ⟨payloadLen, read, by omega, by omega⟩
    · rfl
  rw [coveredBytes, coveredBytes, part offMagic _ (Nat.le_refl _), part offPayload _ (by decide)]
  · simp only [offPayload, offMagic, coverHeaderBytes]
    omega
  · simp only [offChecksum, offMagic, coverHeaderBytes]
    omega

/-- The header of a frame that says how long it is, is covered. -/
theorem covered_header {payloadLen index : Nat} (read : readPayloadLen frame = some payloadLen)
    (lower : offMagic ≤ index) (upper : index < offPayload) : Covered frame index := by
  refine ⟨payloadLen, read, lower, ?_⟩
  simp only [offPayload, offMagic, coverHeaderBytes] at *
  omega

theorem readPayloadLen_congr (length : other.length = frame.length)
    (same : ∀ index, Covered frame index → other[index]? = frame[index]?) :
    readPayloadLen other = readPayloadLen frame := by
  cases read : readPayloadLen frame with
  | none =>
      have unread : ¬ (be16At? frame offPayloadLen).isSome := by
        rw [← Option.isSome_map, ← readPayloadLen, read]
        exact Bool.false_ne_true
      rw [be16At?_isSome_iff, ← length, ← be16At?_isSome_iff, ← Option.isSome_map,
        ← readPayloadLen] at unread
      simpa using unread
  | some payloadLen =>
      have agree (index : Nat) (lower : offMagic ≤ index) (upper : index < offPayload) :
          other[index]? = frame[index]? := same index (covered_header read lower upper)
      rw [← read, readPayloadLen, readPayloadLen,
        be16At?_congr (agree _ (by decide) (by decide)) (agree _ (by decide) (by decide))]

/-- What is not covered does not change the answer. -/
theorem verifyChecksum_congr (length : other.length = frame.length)
    (same : ∀ index, Covered frame index → other[index]? = frame[index]?) :
    verifyChecksum other = verifyChecksum frame := by
  have sameRead := readPayloadLen_congr length same
  by_cases long : ∃ payloadLen, readPayloadLen frame = some payloadLen ∧
      offMagic + payloadLen + coverHeaderBytes ≤ frame.length
  · obtain ⟨payloadLen, read, room⟩ := long
    obtain ⟨stored, field⟩ : ∃ stored, be16At? frame offChecksum = some stored := by
      rw [← Option.isSome_iff_exists, be16At?_isSome_iff]
      simp only [offChecksum, offMagic, coverHeaderBytes] at *
      omega
    have sameField : be16At? other offChecksum = some stored := by
      rw [← field]
      exact be16At?_congr (same _ (covered_header read (by decide) (by decide)))
        (same _ (covered_header read (by decide) (by decide)))
    rw [verifyChecksum_eq read field room,
      verifyChecksum_eq (sameRead.trans read) sameField (length ▸ room),
      coveredBytes_congr read same]
  · have short (payloadLen : Nat) (read : readPayloadLen frame = some payloadLen) :
        frame.length < offMagic + payloadLen + coverHeaderBytes :=
      Nat.lt_of_not_le fun room => long ⟨payloadLen, read, room⟩
    rw [verifyChecksum_of_short short, verifyChecksum_of_short]
    intro payloadLen read
    rw [length]
    exact short payloadLen (sameRead ▸ read)

end Same

/-! ## Flipped bits -/

section Flips

variable {frame pattern : Bytes} {payloadLen : Nat}

/-- The covered bytes of the flipped frame are the flipped covered bytes. -/
theorem coveredBytes_xorBytes (sameLength : pattern.length = frame.length) :
    coveredBytes (xorBytes frame pattern) payloadLen =
      xorBytes (coveredBytes frame payloadLen) (coveredBytes pattern payloadLen) := by
  have lengths : ((frame.drop offMagic).take (offChecksum - offMagic)).length =
      ((pattern.drop offMagic).take (offChecksum - offMagic)).length := by
    simp only [List.length_take, List.length_drop, sameLength]
  have zeros : xorBytes ([0, 0] : Bytes) [0, 0] = [0, 0] := by decide
  calc
    coveredBytes (xorBytes frame pattern) payloadLen =
        xorBytes ((frame.drop offMagic).take (offChecksum - offMagic))
            ((pattern.drop offMagic).take (offChecksum - offMagic)) ++
          (xorBytes [0, 0] [0, 0] ++ xorBytes ((frame.drop offPayload).take payloadLen)
            ((pattern.drop offPayload).take payloadLen)) := by
      rw [zeros, coveredBytes, xorBytes, xorBytes, xorBytes, List.drop_zipWith, List.drop_zipWith,
        List.take_zipWith, List.take_zipWith]
    _ = _ := by
      rw [coveredBytes, coveredBytes, xorBytes, xorBytes, xorBytes, xorBytes,
        List.zipWith_append lengths, List.zipWith_append rfl]

theorem getElem?_xorBytes_of_zero (sameLength : pattern.length = frame.length) {index : Nat}
    (spared : ∀ byte, pattern[index]? = some byte → byte = 0) :
    (xorBytes frame pattern)[index]? = frame[index]? := by
  rw [xorBytes, List.getElem?_zipWith]
  cases there : frame[index]? with
  | none => rfl
  | some byte =>
      have inside : index < pattern.length := by
        rw [sameLength]
        exact (List.getElem?_eq_some_iff.mp there).1
      have zero := spared _ (List.getElem?_eq_getElem inside)
      rw [List.getElem?_eq_getElem inside, zero]
      simp

/-- A part of the pattern that has no flips. -/
theorem take_drop_eq_replicate {start length : Nat} (room : start + length ≤ pattern.length)
    (zero : ∀ index byte, start ≤ index → index < start + length →
      pattern[index]? = some byte → byte = 0) :
    (pattern.drop start).take length = List.replicate length 0 := by
  refine List.eq_replicate_iff.mpr ⟨?_, fun byte member => ?_⟩
  · rw [List.length_take, List.length_drop]
    omega
  · obtain ⟨index, there⟩ := List.mem_iff_getElem?.mp member
    rw [List.getElem?_take] at there
    split at there
    · next inside =>
        rw [List.getElem?_drop] at there
        exact zero _ byte (Nat.le_add_right ..) (Nat.add_lt_add_left inside _) there
    · cases there

theorem drop_cut (pattern : Bytes) (start length : Nat) :
    pattern.drop start = (pattern.drop start).take length ++ pattern.drop (start + length) := by
  rw [← List.drop_drop, List.take_append_drop]

/-- No bit is flipped outside of the covered bytes, nor in the fields that are spared. -/
theorem SparesFields.byte_eq_zero (spares : SparesFields frame pattern)
    (read : readPayloadLen frame = some payloadLen) {index : Nat} {byte : UInt8}
    (there : pattern[index]? = some byte)
    (spared : ¬ (offMagic ≤ index ∧ index < offPayload + payloadLen) ∨
      (offPayloadLen ≤ index ∧ index < offPayload)) : byte = 0 := by
  by_contra flipped
  obtain ⟨⟨declared, sameRead, lower, upper⟩, outside⟩ := spares index byte there flipped
  cases Option.some.inj (sameRead.symm.trans read)
  refine spared.elim (fun other => other ?_) outside
  simp only [offMagic, coverHeaderBytes, offPayload] at *
  omega

/-- The pattern is its covered part between zeros. -/
theorem pattern_eq (read : readPayloadLen frame = some payloadLen)
    (sameLength : pattern.length = frame.length)
    (long : offMagic + payloadLen + coverHeaderBytes ≤ frame.length)
    (spares : SparesFields frame pattern) :
    pattern = List.replicate offMagic 0 ++ (coveredBytes pattern payloadLen ++
      List.replicate (pattern.length - (offPayload + payloadLen)) 0) := by
  simp only [offMagic, coverHeaderBytes] at long
  have front : (pattern.drop 0).take offMagic = List.replicate offMagic 0 :=
    take_drop_eq_replicate (by simp only [offMagic]; omega) fun index byte _ upper there =>
      spares.byte_eq_zero read there (.inl fun inside => by omega)
  have field : (pattern.drop offChecksum).take 2 = [0, 0] :=
    take_drop_eq_replicate (by simp only [offChecksum]; omega) fun index byte lower upper there =>
      spares.byte_eq_zero read there
        (.inr (by simp only [offChecksum, offPayloadLen, offPayload] at *; omega))
  have back : pattern.drop (offPayload + payloadLen) =
      List.replicate (pattern.length - (offPayload + payloadLen)) 0 := by
    have whole : (pattern.drop (offPayload + payloadLen)).take
        (pattern.length - (offPayload + payloadLen)) = List.replicate _ 0 :=
      take_drop_eq_replicate (by simp only [offPayload]; omega) fun index byte lower _ there =>
        spares.byte_eq_zero read there (.inl fun inside => by omega)
    rwa [List.take_of_length_le (by rw [List.length_drop])] at whole
  have atMagic : pattern.drop offMagic = (pattern.drop offMagic).take (offChecksum - offMagic) ++
      pattern.drop offChecksum := drop_cut pattern offMagic (offChecksum - offMagic)
  have atField : pattern.drop offChecksum =
      (pattern.drop offChecksum).take 2 ++ pattern.drop offPayload := drop_cut pattern offChecksum 2
  calc
    pattern = (pattern.drop 0).take offMagic ++ pattern.drop offMagic :=
      (List.take_append_drop offMagic pattern).symm
    _ = _ := by
      rw [front, coveredBytes, List.append_assoc, List.append_assoc, ← back, ← drop_cut, ← field,
        ← atField, ← atMagic]

/-- The check of the covered part is zero only if that of the whole pattern is. -/
theorem update_pattern_eq_zero (covered : Bytes) (before after : Nat)
    (zero : update crc16Arc 0 covered = 0) :
    update crc16Arc 0 (List.replicate before 0 ++ (covered ++ List.replicate after 0)) = 0 := by
  have clear (count : Nat) : update crc16Arc 0 (List.replicate count 0) = 0 := by
    induction count with
    | zero => rfl
    | succ count ih =>
        rw [List.replicate_succ, update, List.foldl_cons]
        exact ih
  rw [update_append, clear, update_append, zero, clear]

theorem update_pattern_ne_zero (detectable : IsDetectable pattern)
    (flips : ∃ byte ∈ pattern, byte ≠ 0) : update crc16Arc 0 pattern ≠ 0 := by
  cases detectable with
  | inl odd => exact update_ne_zero_of_odd (by decide) (by decide) odd
  | inr burst =>
      refine update_ne_zero_of_burst (by decide) (by decide) burst ?_
      obtain ⟨byte, member, flipped⟩ := flips
      exact true_mem_bits member flipped

/-- The checksum of a frame changes with every flip pattern that the register notices. -/
theorem computeChecksum_xorBytes_ne {first second : Bytes} (same : first.length = second.length)
    (noticed : update crc16Arc 0 second ≠ 0) :
    computeChecksum (xorBytes first second) ≠ computeChecksum first := by
  intro equal
  have sum : update crc16Arc 0 (xorBytes first second) =
      update crc16Arc 0 first ^^^ update crc16Arc 0 second := update_xor same 0 0
  have unchanged : update crc16Arc 0 (xorBytes first second) = update crc16Arc 0 first :=
    UInt16.ofBitVec.inj equal
  refine noticed ?_
  calc
    update crc16Arc 0 second = update crc16Arc 0 first ^^^
        (update crc16Arc 0 first ^^^ update crc16Arc 0 second) := by
      rw [← BitVec.xor_assoc, BitVec.xor_self, BitVec.zero_xor]
    _ = 0 := by
      rw [← sum, unchanged, BitVec.xor_self]
      rfl

/-- A frame that is accepted is not accepted any more once bits have been flipped in a
detectable way, and whatever is done to the bytes that are not covered changes nothing. -/
theorem verifyChecksum_corrupted (frame : Bytes) :
    (∀ pattern : Bytes, verifyChecksum frame = some true → pattern.length = frame.length →
      (∃ byte ∈ pattern, byte ≠ 0) → SparesFields frame pattern → IsDetectable pattern →
        verifyChecksum (xorBytes frame pattern) = some false) ∧
    (∀ other : Bytes, other.length = frame.length →
      (∀ index, Covered frame index → other[index]? = frame[index]?) →
        verifyChecksum other = verifyChecksum frame) := by
  refine ⟨?_, fun other => verifyChecksum_congr⟩
  intro pattern accepted sameLength flips spares detectable
  obtain ⟨payloadLen, read, long, field⟩ := verifyChecksum_eq_true accepted
  have length : (xorBytes frame pattern).length = frame.length := by
    rw [xorBytes, List.length_zipWith, sameLength, Nat.min_self]
  have noticed : update crc16Arc 0 (coveredBytes pattern payloadLen) ≠ 0 := by
    intro zero
    refine update_pattern_ne_zero detectable flips ?_
    rw [pattern_eq read sameLength long spares]
    exact update_pattern_eq_zero _ _ _ zero
  have spared (index : Nat) (lower : offPayloadLen ≤ index) (upper : index < offPayload) :
      (xorBytes frame pattern)[index]? = frame[index]? := by
    refine getElem?_xorBytes_of_zero sameLength fun byte there => ?_
    by_contra flipped
    exact (spares index byte there flipped).2 ⟨lower, upper⟩
  have sameRead : readPayloadLen (xorBytes frame pattern) = some payloadLen := by
    rw [← read, readPayloadLen, readPayloadLen,
      be16At?_congr (spared _ (by decide) (by decide)) (spared _ (by decide) (by decide))]
  have sameField : be16At? (xorBytes frame pattern) offChecksum = _ :=
    (be16At?_congr (spared _ (by decide) (by decide))
      (spared _ (by decide) (by decide))).trans field
  have covered :
      (coveredBytes frame payloadLen).length = (coveredBytes pattern payloadLen).length := by
    rw [length_coveredBytes long, length_coveredBytes (sameLength ▸ long)]
  rw [verifyChecksum_eq sameRead sameField (length ▸ long), coveredBytes_xorBytes sameLength]
  exact congrArg some (beq_false_of_ne (computeChecksum_xorBytes_ne covered noticed).symm)

/-- One bit of the sequence number of the reference vector. -/
def seqFlip : Bytes := List.replicate 16 0 ++ [1] ++ List.replicate 8 0

/-- The reference vector is not accepted with a flipped bit, and is with another address. -/
theorem verifyChecksum_corrupted_sampleFrame :
    verifyChecksum (xorBytes (sampleFrame 0x1ea0) seqFlip) = some false ∧
      verifyChecksum (0 :: (sampleFrame 0x1ea0).tail) = verifyChecksum (sampleFrame 0x1ea0) := by
  have read : readPayloadLen (sampleFrame 0x1ea0) = some 1 := rfl
  obtain ⟨notices, ignores⟩ := verifyChecksum_corrupted (sampleFrame 0x1ea0)
  refine ⟨notices seqFlip (by decide +kernel) rfl ⟨1, by decide, by decide⟩ ?_
    (.inl (by decide +kernel)), ignores _ rfl ?_⟩
  · have only : ∀ index < 25, seqFlip[index]? ≠ some 0 → index = 16 := by decide
    intro index byte there flipped
    have inside : index < 25 := (List.getElem?_eq_some_iff.mp there).1
    obtain rfl := only index inside fun zero => flipped (Option.some.inj (there.symm.trans zero))
    exact ⟨⟨1, read, by decide, by decide⟩, by decide⟩
  · rintro index ⟨_, _, lower, _⟩
    cases index with
    | zero => exact absurd lower (by decide)
    | succ index => rfl

end Flips

end RbctlDsl.Proto
