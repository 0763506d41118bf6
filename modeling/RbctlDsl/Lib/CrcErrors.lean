import Mathlib.Algebra.BigOperators.Group.Finset.Basic
import Mathlib.Algebra.Field.ZMod
import RbctlDsl.Lib.Crc
import RbctlDsl.Lib.Bytes

/-!
# Errors that a cyclic redundancy check detects

What a reflected CRC makes of an error pattern that enters a register that is zero.  A
polynomial with an odd number of bits keeps the parity of the pattern; one whose top bit is set
loses nothing of a burst that fits into the register.
-/

namespace RbctlDsl.Lib.Crc

variable {width : Nat} (poly : BitVec width)

/-- The bits of a byte, least significant first. -/
def byteBits (byte : UInt8) : List Bool := (List.range 8).map byte.toBitVec.getLsbD

/-- The bits of a byte string, in the order in which they enter the register. -/
def bits (data : List UInt8) : List Bool := data.flatMap byteBits

/-- Absorb one bit. -/
def feedBit (register : BitVec width) (bit : Bool) : BitVec width :=
  shiftBit poly (register ^^^ (BitVec.ofBool bit).setWidth width)

/-- Bits as they stand in a register. -/
def word (width : Nat) (pattern : List Bool) : BitVec width :=
  (BitVec.ofBoolListLE pattern).setWidth width

@[simp] theorem bits_append (first second : List UInt8) :
    bits (first ++ second) = bits first ++ bits second := List.flatMap_append

/-- A byte string that is not zero has an error bit. -/
theorem true_mem_bits {data : List UInt8} {byte : UInt8} (member : byte ∈ data)
    (some : byte ≠ 0) : true ∈ bits data := by
  refine List.mem_flatMap.mpr ⟨byte, member, ?_⟩
  by_contra absent
  refine some (UInt8.toBitVec_inj.mp (BitVec.eq_of_getLsbD_eq fun index inside => ?_))
  cases bit : byte.toBitVec.getLsbD index with
  | false => simp
  | true => exact absurd (List.mem_map.mpr ⟨index, List.mem_range.mpr inside, bit⟩) absent

theorem getLsbD_word (pattern : List Bool) {index : Nat} (inside : index < width) :
    (word width pattern).getLsbD index = pattern.getD index false := by
  rw [word, BitVec.getLsbD_setWidth, BitVec.getLsbD_ofBoolListLE]
  simp [inside]

theorem word_byteBits (byte : UInt8) :
    word width (byteBits byte) = byte.toBitVec.setWidth width := by
  apply BitVec.eq_of_getLsbD_eq
  intro index inside
  rw [getLsbD_word _ inside, BitVec.getLsbD_setWidth, byteBits]
  by_cases low : index < 8
  · simp [low, inside]
  · simp [low, BitVec.getLsbD_of_ge byte.toBitVec index (Nat.not_lt.mp low)]

/-- The first bit is the lowest one, and the others are above it. -/
theorem word_cons (bit : Bool) (pattern : List Bool) :
    word width (bit :: pattern) =
      (BitVec.ofBool bit).setWidth width ^^^ (word width pattern <<< 1) := by
  apply BitVec.eq_of_getLsbD_eq
  intro index inside
  rw [getLsbD_word _ inside, BitVec.getLsbD_xor, BitVec.getLsbD_shiftLeft,
    BitVec.getLsbD_setWidth, BitVec.getLsbD_ofBool]
  cases index with
  | zero => simp [inside]
  | succ index => simp [inside, getLsbD_word pattern (Nat.lt_of_succ_lt inside)]

variable {poly}

theorem shiftBit_word {pattern : List Bool} (fits : pattern.length < width) :
    shiftBit poly (word width pattern <<< 1) = word width pattern := by
  have once : (shiftBit poly)^[1] (word width pattern <<< 1) = (word width pattern <<< 1) >>> 1 :=
    iterate_shiftBit_of_clear poly fun index first => by simp [Nat.lt_one_iff.mp first]
  refine once.trans ?_
  apply BitVec.eq_of_getLsbD_eq
  intro index inside
  rw [BitVec.getLsbD_ushiftRight, BitVec.getLsbD_shiftLeft, getLsbD_word _ inside]
  by_cases within : 1 + index < width
  · simp [within, getLsbD_word pattern inside]
  · have past : pattern.length ≤ index := by omega
    simp [within, past]

/-- As many bits as fit into the register enter it as one word. -/
theorem foldl_feedBit (pattern : List Bool) (fits : pattern.length ≤ width)
    (register : BitVec width) :
    pattern.foldl (feedBit poly) register =
      (shiftBit poly)^[pattern.length] (register ^^^ word width pattern) := by
  induction pattern generalizing register with
  | nil =>
      have empty : word width [] = 0 := by
        apply BitVec.eq_of_getLsbD_eq
        intro index inside
        rw [getLsbD_word _ inside]
        simp
      rw [List.foldl_nil, List.length_nil, Function.iterate_zero, id, empty]
      exact BitVec.xor_zero.symm
  | cons bit pattern ih =>
      rw [List.foldl_cons, ih (Nat.le_of_succ_le fits), List.length_cons,
        Function.iterate_succ_apply, feedBit, word_cons, ← BitVec.xor_assoc,
        shiftBit_xor poly (register ^^^ _) (word width pattern <<< 1), shiftBit_word fits]

theorem update_eq_foldl (wide : 8 ≤ width) (register : BitVec width) (data : List UInt8) :
    update poly register data = (bits data).foldl (feedBit poly) register := by
  induction data generalizing register with
  | nil => rfl
  | cons byte data ih =>
      have absorbed :
          absorb poly register byte = (byteBits byte).foldl (feedBit poly) register := by
        rw [foldl_feedBit (byteBits byte) wide, word_byteBits]
        rfl
      rw [bits, List.flatMap_cons, List.foldl_append, ← absorbed]
      exact ih _

/-! ## Exclusive or of byte strings -/

theorem absorb_xor (left right : BitVec width) (first second : UInt8) :
    absorb poly (left ^^^ right) (first ^^^ second) =
      absorb poly left first ^^^ absorb poly right second := by
  rw [absorb, absorb, absorb, ← iterate_shiftBit_xor, UInt8.toBitVec_xor, BitVec.setWidth_xor]
  congr 1
  ac_rfl

/-- The check of a sum is the sum of the checks. -/
theorem update_xor {first second : List UInt8} (same : first.length = second.length)
    (left right : BitVec width) :
    update poly (left ^^^ right) (xorBytes first second) =
      update poly left first ^^^ update poly right second := by
  induction first generalizing second left right with
  | nil =>
      cases second with
      | nil => rfl
      | cons => cases same
  | cons byte first ih =>
      cases second with
      | nil => cases same
      | cons other second =>
          have rest := ih (Nat.succ.inj same) (absorb poly left byte) (absorb poly right other)
          rw [← absorb_xor] at rest
          exact rest

/-! ## Parity -/

/-- A bit as a number modulo two. -/
def residue (bit : Bool) : ZMod 2 := if bit then 1 else 0

theorem residue_xor (left right : Bool) :
    residue (left ^^ right) = residue left + residue right := by
  cases left <;> cases right <;> decide

/-- The number of bits of a register that are set, modulo two. -/
def parity (register : BitVec width) : ZMod 2 :=
  ∑ index ∈ Finset.range width, residue (register.getLsbD index)

theorem parity_xor (left right : BitVec width) :
    parity (left ^^^ right) = parity left + parity right := by
  simp only [parity, BitVec.getLsbD_xor, residue_xor, Finset.sum_add_distrib]

/-- A shift without the polynomial loses the lowest bit. -/
theorem parity_shiftRight (register : BitVec width) :
    parity (register >>> 1) + residue (register.getLsbD 0) = parity register := by
  have front := Finset.sum_range_succ' (fun index => residue (register.getLsbD index)) width
  have back := Finset.sum_range_succ (fun index => residue (register.getLsbD index)) width
  have past : residue (register.getLsbD width) = 0 := by
    rw [BitVec.getLsbD_of_ge register width (Nat.le_refl width)]
    rfl
  simp only [parity, BitVec.getLsbD_ushiftRight, Nat.add_comm 1]
  rw [← front, back, past, add_zero]

section Odd

variable (odd : parity poly = 1)

include odd

theorem parity_shiftBit (register : BitVec width) :
    parity (shiftBit poly register) = parity register := by
  rw [← parity_shiftRight register, shiftBit]
  cases register.getLsbD 0 with
  | false => exact (add_zero _).symm
  | true =>
      rw [if_pos rfl, parity_xor, odd]
      rfl

/-- The parity of what has entered is kept. -/
theorem parity_foldl_feedBit (pattern : List Bool) (wide : 0 < width) (register : BitVec width) :
    parity (pattern.foldl (feedBit poly) register) = parity register + pattern.count true := by
  induction pattern generalizing register with
  | nil => simp
  | cons bit pattern ih =>
      have single : parity ((BitVec.ofBool bit).setWidth width) = residue bit := by
        rw [parity, Finset.sum_eq_single_of_mem 0 (Finset.mem_range.mpr wide)]
        · simp [wide]
        · intro index _ other
          simp [other, residue]
      rw [List.foldl_cons, ih, feedBit, parity_shiftBit odd, parity_xor, single, add_assoc]
      cases bit with
      | false => simp [residue]
      | true => simp [residue, add_comm]

/-- An odd number of errors does not cancel. -/
theorem update_ne_zero_of_odd (wide : 8 ≤ width) {pattern : List UInt8}
    (errors : Odd ((bits pattern).count true)) : update poly 0 pattern ≠ 0 := by
  intro zero
  have kept := parity_foldl_feedBit odd (bits pattern) (Nat.lt_of_lt_of_le (by decide) wide) 0
  have none : parity (0 : BitVec width) = 0 := by simp [parity, residue]
  rw [← update_eq_foldl wide, zero, none, zero_add] at kept
  have isOne : ((bits pattern).count true : ZMod 2) = 1 := (ZMod.natCast_eq_one_iff_odd).mpr errors
  rw [isOne] at kept
  exact absurd kept (by decide)

end Odd

/-! ## Bursts -/

/-- All errors lie within so many consecutive bits. -/
def IsBurst (length : Nat) (pattern : List Bool) : Prop :=
  ∃ start, ∀ index, pattern[index]? = some true → start ≤ index ∧ index < start + length

/-- A burst is a window between bits that are clear. -/
theorem IsBurst.exists_window {length : Nat} {pattern : List Bool}
    (burst : IsBurst length pattern) :
    ∃ before window after, pattern = List.replicate before false ++
      (window ++ List.replicate after false) ∧ window.length ≤ length := by
  obtain ⟨start, within⟩ := burst
  have clear (part : List Bool) (absent : true ∉ part) : part = List.replicate part.length false :=
    List.eq_replicate_of_mem fun bit member => by
      cases bit with
      | false => rfl
      | true => exact absurd member absent
  have early : true ∉ pattern.take start := by
    intro member
    obtain ⟨index, inside⟩ := List.mem_iff_getElem?.mp member
    rw [List.getElem?_take] at inside
    split at inside
    · next lower => exact absurd (within index inside).1 (Nat.not_le.mpr lower)
    · cases inside
  have late : true ∉ (pattern.drop start).drop length := by
    intro member
    obtain ⟨index, inside⟩ := List.mem_iff_getElem?.mp member
    rw [List.drop_drop, List.getElem?_drop] at inside
    have upper := (within _ inside).2
    omega
  refine ⟨(pattern.take start).length, (pattern.drop start).take length,
    ((pattern.drop start).drop length).length, ?_, List.length_take_le ..⟩
  rw [← clear _ early, ← clear _ late, List.take_append_drop, List.take_append_drop]

section Burst

variable (top : poly.msb = true)

include top

/-- A polynomial whose top bit is set leaves a trace wherever it is added. -/
theorem eq_zero_of_shiftBit {register : BitVec width} (zero : shiftBit poly register = 0) :
    register = 0 := by
  have some : 0 < width := by
    cases width with
    | zero => simp [BitVec.of_length_zero] at top
    | succ width => exact Nat.zero_lt_succ width
  have lowest : register.getLsbD 0 = false := by
    cases lowest : register.getLsbD 0 with
    | false => rfl
    | true =>
        rw [shiftBit, if_pos lowest] at zero
        have bit := congrArg (fun sum => sum.getLsbD (width - 1)) zero
        have isSet : poly.getLsbD (width - 1) = true := by
          rw [← top, BitVec.msb_eq_getLsbD_last]
        have past : 1 + (width - 1) = width := by omega
        simp [isSet, past] at bit
  rw [shiftBit, lowest] at zero
  apply BitVec.eq_of_getLsbD_eq
  intro index inside
  cases index with
  | zero => simpa using lowest
  | succ index =>
      have bit := congrArg (fun shifted => shifted.getLsbD index) zero
      simpa [Nat.add_comm] using bit

theorem iterate_shiftBit_ne_zero {register : BitVec width} (count : Nat) (some : register ≠ 0) :
    (shiftBit poly)^[count] register ≠ 0 := by
  induction count generalizing register with
  | zero => exact some
  | succ count ih => exact ih fun zero => some (eq_zero_of_shiftBit top zero)

omit top in
theorem foldl_clear (count : Nat) (register : BitVec width) :
    (List.replicate count false).foldl (feedBit poly) register =
      (shiftBit poly)^[count] register := by
  induction count generalizing register with
  | zero => rfl
  | succ count ih =>
      have fed : feedBit poly register false = shiftBit poly register := by
        simp [feedBit]
      rw [List.replicate_succ, List.foldl_cons, fed, ih]
      rfl

/-- A burst that fits into the register does not cancel. -/
theorem update_ne_zero_of_burst (wide : 8 ≤ width) {pattern : List UInt8}
    (burst : IsBurst width (bits pattern)) (errors : true ∈ bits pattern) :
    update poly 0 pattern ≠ 0 := by
  obtain ⟨before, window, after, parts, fits⟩ := burst.exists_window
  have some : word width window ≠ 0 := by
    intro zero
    rw [parts] at errors
    have inWindow : true ∈ window := by simpa using errors
    obtain ⟨index, inside, isSet⟩ := List.mem_iff_getElem.mp inWindow
    have bit := getLsbD_word window (Nat.lt_of_lt_of_le inside fits)
    rw [zero, List.getD_eq_getElem?_getD, List.getElem?_eq_getElem inside, isSet] at bit
    simp at bit
  rw [update_eq_foldl wide, parts, List.foldl_append, List.foldl_append,
    foldl_clear before, iterate_shiftBit_zero, foldl_feedBit window fits, foldl_clear after]
  refine iterate_shiftBit_ne_zero top _ (iterate_shiftBit_ne_zero top _ ?_)
  exact fun zero => some (BitVec.zero_xor.symm.trans zero)

end Burst

end RbctlDsl.Lib.Crc
