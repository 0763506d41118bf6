import Mathlib.Logic.Function.Iterate

/-!
# Reflected cyclic redundancy checks

The bitwise register of a reflected CRC of any width: bytes enter least significant bit
first, and the register is shifted right through the reflected polynomial.

Shifting is linear over exclusive or, so the register can be driven a nibble at a time from a
table of sixteen words.
-/

namespace RbctlDsl.Lib.Crc

variable {width : Nat} (poly : BitVec width)

/-- Shift the register by one bit. -/
def shiftBit (register : BitVec width) : BitVec width :=
  if register.getLsbD 0 then (register >>> 1) ^^^ poly else register >>> 1

/-- Absorb one byte, its eight bits in turn. -/
def absorb (register : BitVec width) (byte : UInt8) : BitVec width :=
  (shiftBit poly)^[8] (register ^^^ byte.toBitVec.setWidth width)

/-- Absorb a byte string. -/
def update (register : BitVec width) (data : List UInt8) : BitVec width :=
  data.foldl (absorb poly) register

@[simp] theorem update_nil (register : BitVec width) : update poly register [] = register :=
  rfl

/-- Feeding a string in pieces is feeding their concatenation. -/
theorem update_append (register : BitVec width) (first second : List UInt8) :
    update poly register (first ++ second) =
      update poly (update poly register first) second :=
  List.foldl_append

/-! ## Linearity -/

theorem shiftBit_xor (left right : BitVec width) :
    shiftBit poly (left ^^^ right) = shiftBit poly left ^^^ shiftBit poly right := by
  simp only [shiftBit, BitVec.getLsbD_xor, BitVec.ushiftRight_xor_distrib]
  cases left.getLsbD 0 with
  | false =>
      cases right.getLsbD 0 with
      | false => rfl
      | true => exact BitVec.xor_assoc ..
  | true =>
      cases right.getLsbD 0 with
      | false =>
          change left >>> 1 ^^^ right >>> 1 ^^^ poly = (left >>> 1 ^^^ poly) ^^^ right >>> 1
          ac_rfl
      | true =>
          -- the polynomial is added twice
          change left >>> 1 ^^^ right >>> 1 = (left >>> 1 ^^^ poly) ^^^ (right >>> 1 ^^^ poly)
          calc
            left >>> 1 ^^^ right >>> 1 = left >>> 1 ^^^ right >>> 1 ^^^ (poly ^^^ poly) := by
              rw [BitVec.xor_self, BitVec.xor_zero]
            _ = _ := by ac_rfl

theorem iterate_shiftBit_xor (count : Nat) (left right : BitVec width) :
    (shiftBit poly)^[count] (left ^^^ right) =
      (shiftBit poly)^[count] left ^^^ (shiftBit poly)^[count] right := by
  induction count generalizing left right with
  | zero => rfl
  | succ count ih => rw [Function.iterate_succ_apply, shiftBit_xor, ih]; rfl

@[simp] theorem shiftBit_zero : shiftBit poly 0 = 0 := by
  simp [shiftBit]

@[simp] theorem iterate_shiftBit_zero (count : Nat) : (shiftBit poly)^[count] 0 = 0 :=
  Function.iterate_fixed (shiftBit_zero poly) count

/-- Bits that are clear are shifted out without the polynomial. -/
theorem iterate_shiftBit_of_clear {count : Nat} {register : BitVec width}
    (clear : ∀ index < count, register.getLsbD index = false) :
    (shiftBit poly)^[count] register = register >>> count := by
  induction count generalizing register with
  | zero => exact (BitVec.ushiftRight_zero register).symm
  | succ count ih =>
      have shifted : shiftBit poly register = register >>> 1 := by
        rw [shiftBit, clear 0 (Nat.zero_lt_succ count)]
        rfl
      have rest : ∀ index < count, (register >>> 1).getLsbD index = false := by
        intro index inside
        rw [BitVec.getLsbD_ushiftRight]
        exact clear (1 + index) (by omega)
      rw [Function.iterate_succ_apply, shifted, ih rest, ← BitVec.shiftRight_add, Nat.add_comm]

/-! ## Nibble tables -/

/-- The low nibble of a register. -/
def low (register : BitVec width) : BitVec 4 := register.setWidth 4

/-- Shift a nibble through a register, with two lookups in a table. -/
def nibbleStep (table : BitVec 4 → BitVec width) (register : BitVec width) (nibble : BitVec 4) :
    BitVec width :=
  (register >>> 4) ^^^ table (low register) ^^^ table nibble

/-- The table of a polynomial: what four shifts make of a nibble. -/
def IsTable (table : BitVec 4 → BitVec width) : Prop :=
  ∀ nibble, table nibble = (shiftBit poly)^[4] (nibble.setWidth width)

variable {poly} {table : BitVec 4 → BitVec width}

/-- Four shifts move the register down and add what they make of its low nibble. -/
theorem iterate_four (isTable : IsTable poly table) (register : BitVec width) :
    (shiftBit poly)^[4] register = (register >>> 4) ^^^ table (low register) := by
  have split : register = ((register >>> 4) <<< 4) ^^^ (low register).setWidth width := by
    apply BitVec.eq_of_getLsbD_eq
    intro index inside
    by_cases lower : index < 4
    · simp [low, lower, inside]
    · simp [low, lower, inside, Nat.add_sub_cancel' (Nat.not_lt.mp lower)]
  have clear : ∀ index < 4, ((register >>> 4) <<< 4).getLsbD index = false := by
    intro index lower
    simp [lower]
  have back : (register >>> 4) <<< 4 >>> 4 = register >>> 4 := by
    apply BitVec.eq_of_getLsbD_eq
    intro index inside
    by_cases upper : 4 + index < width
    · simp [upper]
    · simp [upper, BitVec.getLsbD_of_ge register (4 + index) (Nat.not_lt.mp upper)]
  calc
    (shiftBit poly)^[4] register =
        (shiftBit poly)^[4] (((register >>> 4) <<< 4) ^^^ (low register).setWidth width) := by
      rw [← split]
    _ = _ := by
      rw [iterate_shiftBit_xor, iterate_shiftBit_of_clear poly clear, back, ← isTable]

theorem nibbleStep_eq (isTable : IsTable poly table) (register : BitVec width)
    (nibble : BitVec 4) :
    nibbleStep table register nibble =
      (shiftBit poly)^[4] (register ^^^ nibble.setWidth width) := by
  rw [nibbleStep, iterate_shiftBit_xor, iterate_four isTable, isTable nibble]

/-- A byte is absorbed as two nibbles, the low one first. -/
theorem absorb_eq_nibbleSteps (isTable : IsTable poly table) (wide : 8 ≤ width)
    (register : BitVec width) (byte : UInt8) :
    absorb poly register byte =
      nibbleStep table (nibbleStep table register (byte.toBitVec.extractLsb' 0 4))
        (byte.toBitVec.extractLsb' 4 4) := by
  have split : byte.toBitVec.setWidth width =
      (byte.toBitVec.extractLsb' 0 4).setWidth width ^^^
        ((byte.toBitVec.extractLsb' 4 4).setWidth width <<< 4) := by
    apply BitVec.eq_of_getLsbD_eq
    intro index inside
    by_cases lower : index < 4
    · simp [lower, inside]
    · have upper : 4 ≤ index := Nat.not_lt.mp lower
      by_cases within : index - 4 < 4
      · simp [lower, inside, within, Nat.add_sub_cancel' upper]
      · simp [lower, inside, within, BitVec.getLsbD_of_ge byte.toBitVec index (by omega)]
  have high : (shiftBit poly)^[4] ((byte.toBitVec.extractLsb' 4 4).setWidth width <<< 4) =
      (byte.toBitVec.extractLsb' 4 4).setWidth width := by
    rw [iterate_shiftBit_of_clear poly fun index lower => by simp [lower]]
    apply BitVec.eq_of_getLsbD_eq
    intro index inside
    by_cases within : index < 4
    · have room : 4 + index < width := by omega
      simp [within, inside, room]
    · simp [within]
  calc
    absorb poly register byte =
        (shiftBit poly)^[4] ((shiftBit poly)^[4]
          (register ^^^ byte.toBitVec.setWidth width)) := by
      rw [absorb, ← Function.iterate_add_apply]
    _ = _ := by
      rw [split, ← BitVec.xor_assoc, iterate_shiftBit_xor, high, nibbleStep_eq isTable,
        nibbleStep_eq isTable]

end RbctlDsl.Lib.Crc
