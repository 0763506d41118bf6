import Mathlib.Data.Nat.Digits.Lemmas
import RbctlDsl.Lib.Bytes

/-!
# Natural numbers as bytes

The value of a byte string read from either end, the bytes of a number in a given width, and
its shortest big-endian form.  Padding the shortest form restores the full width.
-/

namespace RbctlDsl.Lib

def fromBytesLe (bytes : Bytes) : Nat := Nat.ofDigits 256 (bytes.map UInt8.toNat)

/-- `BigUint::from_bytes_be`. -/
def fromBytesBe (bytes : Bytes) : Nat := fromBytesLe bytes.reverse

/-- The little-endian bytes of a number that fits in `width` of them. -/
def toBytesLe (width value : Nat) : Bytes := (Nat.digitsAppend 256 width value).map UInt8.ofNat

/-- `BigUint::to_bytes_be`: no leading zeros, and one byte for zero. -/
def toBytesBe (value : Nat) : Bytes :=
  if value = 0 then [0] else ((Nat.digits 256 value).map UInt8.ofNat).reverse

/-- The numbers of some bytes, counted in bits. -/
theorem bytes_pow (count : Nat) : 256 ^ count = 2 ^ (8 * count) := (Nat.pow_mul 2 8 count).symm

theorem fromBytesLe_lt (bytes : Bytes) : fromBytesLe bytes < 256 ^ bytes.length := by
  have bound := Nat.ofDigits_lt_base_pow_length (by decide : 1 < 256)
    (l := bytes.map UInt8.toNat) (List.forall_mem_map.mpr fun byte _ => byte.toNat_lt)
  rwa [List.length_map] at bound

theorem fromBytesBe_lt (bytes : Bytes) : fromBytesBe bytes < 256 ^ bytes.length := by
  have bound := fromBytesLe_lt bytes.reverse
  rwa [List.length_reverse] at bound

theorem length_toBytesLe {width value : Nat} (fits : value < 256 ^ width) :
    (toBytesLe width value).length = width := by
  rw [toBytesLe, List.length_map, Nat.length_digitsAppend (by decide) width fits]

@[simp] theorem fromBytesLe_nil : fromBytesLe [] = 0 := rfl

theorem fromBytesLe_cons (byte : UInt8) (bytes : Bytes) :
    fromBytesLe (byte :: bytes) = byte.toNat + 256 * fromBytesLe bytes := by
  rw [fromBytesLe, List.map_cons, Nat.ofDigits_cons]
  rfl

theorem fromBytesBe_cons (byte : UInt8) (bytes : Bytes) :
    fromBytesBe (byte :: bytes) = fromBytesBe bytes + 256 ^ bytes.length * byte.toNat := by
  rw [fromBytesBe, fromBytesBe, List.reverse_cons, fromBytesLe, List.map_append,
    Nat.ofDigits_append, List.length_map, List.length_reverse]
  simp [fromBytesLe, Nat.ofDigits_singleton]

theorem fromBytesLe_replicate_max (count : Nat) :
    fromBytesLe (List.replicate count 0xFF) = 256 ^ count - 1 := by
  induction count with
  | zero => rfl
  | succ count ih =>
      have positive : 0 < 256 ^ count := Nat.pow_pos (by decide)
      rw [List.replicate_succ, fromBytesLe_cons, ih, Nat.pow_succ]
      change 255 + _ = _
      omega

/-- Digits below 256 are bytes. -/
theorem map_toNat_map_ofNat {digits : List Nat} (small : ∀ digit ∈ digits, digit < 256) :
    (digits.map UInt8.ofNat).map UInt8.toNat = digits := by
  rw [List.map_map]
  have same : ∀ digit ∈ digits, (UInt8.toNat ∘ UInt8.ofNat) digit = id digit :=
    fun digit member => UInt8.toNat_ofNat_of_lt' (small digit member)
  rw [List.map_congr_left same, List.map_id]

@[simp] theorem fromBytesLe_toBytesLe (width value : Nat) :
    fromBytesLe (toBytesLe width value) = value := by
  rw [fromBytesLe, toBytesLe, map_toNat_map_ofNat fun digit =>
    Nat.lt_of_mem_digitsAppend (by decide) width digit]
  rw [Nat.digitsAppend, Nat.ofDigits_append_replicate_zero, Nat.ofDigits_digits]

/-- The bytes of a width are those of their value. -/
theorem toBytesLe_fromBytesLe (bytes : Bytes) :
    toBytesLe bytes.length (fromBytesLe bytes) = bytes := by
  have digits := (Nat.setInvOn_digitsAppend_ofDigits (by decide : 1 < 256) bytes.length).1
    (show bytes.map UInt8.toNat ∈ _ from
      ⟨List.length_map _, List.forall_mem_map.mpr fun byte _ => byte.toNat_lt⟩)
  rw [toBytesLe, fromBytesLe, digits, List.map_map]
  exact List.map_id'' (fun byte => UInt8.ofNat_toNat) bytes

theorem length_toBytesBe_le_iff {width : Nat} (positive : 0 < width) (value : Nat) :
    (toBytesBe value).length ≤ width ↔ value < 256 ^ width := by
  rw [toBytesBe]
  split
  next zero =>
    subst zero
    exact iff_of_true positive (Nat.pow_pos (by decide))
  next =>
    rw [List.length_reverse, List.length_map, Nat.digits_length_le_iff (by decide)]

/-- Leading zeros make the full width of the shortest form. -/
theorem pad_toBytesBe {width value : Nat} (positive : 0 < width) (fits : value < 256 ^ width) :
    List.replicate (width - (toBytesBe value).length) 0 ++ toBytesBe value =
      (toBytesLe width value).reverse := by
  rw [toBytesLe, Nat.digitsAppend]
  by_cases zero : value = 0
  · subst zero
    obtain ⟨width, rfl⟩ := Nat.exists_eq_succ_of_ne_zero (Nat.ne_of_gt positive)
    simp [toBytesBe, ← List.replicate_succ']
  · simp [toBytesBe, zero]

/-- A little-endian word has the value of its bytes. -/
theorem exists_le32At? {buf : Bytes} {offset : Nat} (inside : offset + 4 ≤ buf.length) :
    ∃ word, le32At? buf offset = some word ∧
      word.toNat = fromBytesLe ((buf.drop offset).take 4) := by
  obtain ⟨word, read⟩ := Option.isSome_iff_exists.mp ((le32At?_isSome_iff buf offset).mpr inside)
  refine ⟨word, read, ?_⟩
  rw [le32At?] at read
  split at read
  next first second third fourth rest split =>
    cases read
    have bounds := first.toNat_lt
    have bounds := second.toNat_lt
    have bounds := third.toNat_lt
    have bounds := fourth.toNat_lt
    rw [split]
    simp only [be32, UInt32.toNat_ofNat', List.take_succ_cons, List.take_zero,
      fromBytesLe_cons, fromBytesLe_nil]
    omega
  next => cases read

theorem fromBytesBe_beBytes32 (value : UInt32) : fromBytesBe (beBytes32 value) = value.toNat := by
  have bound := value.toNat_lt
  simp only [fromBytesBe, beBytes32, List.reverse_cons, List.reverse_nil, List.nil_append,
    List.cons_append, fromBytesLe_cons, fromBytesLe_nil, UInt8.toNat_ofNat',
    UInt32.toNat_toUInt8]
  omega

/-! ## The order of the machine -/

/-- `to_ne_bytes` of a number in a given width. -/
def toBytesNe (order : ByteOrder) (width value : Nat) : Bytes :=
  match order with
  | .little => toBytesLe width value
  | .big => (toBytesLe width value).reverse

def fromBytesNe (order : ByteOrder) (bytes : Bytes) : Nat :=
  match order with
  | .little => fromBytesLe bytes
  | .big => fromBytesBe bytes

theorem length_toBytesNe (order : ByteOrder) {width value : Nat} (fits : value < 256 ^ width) :
    (toBytesNe order width value).length = width := by
  cases order with
  | little => exact length_toBytesLe fits
  | big => rw [toBytesNe, List.length_reverse, length_toBytesLe fits]

@[simp] theorem fromBytesNe_toBytesNe (order : ByteOrder) (width value : Nat) :
    fromBytesNe order (toBytesNe order width value) = value := by
  cases order with
  | little => exact fromBytesLe_toBytesLe width value
  | big => rw [toBytesNe, fromBytesNe, fromBytesBe, List.reverse_reverse, fromBytesLe_toBytesLe]

/-- A record of numbers without gaps, each with its width. -/
def packNe (order : ByteOrder) (fields : List (Nat × Nat)) : Bytes :=
  fields.flatMap fun field => toBytesNe order field.1 field.2

/-- The numbers of these widths that a string begins with. -/
def unpackNe (order : ByteOrder) : List Nat → Bytes → Option (List Nat)
  | [], _ => some []
  | width :: widths, bytes =>
    if width ≤ bytes.length then
      (unpackNe order widths (bytes.drop width)).map (fromBytesNe order (bytes.take width) :: ·)
    else
      none

theorem length_packNe (order : ByteOrder) {fields : List (Nat × Nat)}
    (fits : ∀ field ∈ fields, field.2 < 256 ^ field.1) :
    (packNe order fields).length = (fields.map Prod.fst).sum := by
  rw [packNe, List.length_flatMap,
    List.map_congr_left fun field member => length_toBytesNe order (fits field member)]

theorem unpackNe_packNe (order : ByteOrder) {fields : List (Nat × Nat)}
    (fits : ∀ field ∈ fields, field.2 < 256 ^ field.1) (rest : Bytes) :
    unpackNe order (fields.map Prod.fst) (packNe order fields ++ rest) =
      some (fields.map Prod.snd) := by
  induction fields with
  | nil => rfl
  | cons field fields ih =>
      obtain ⟨here, there⟩ := List.forall_mem_cons.mp fits
      have length := length_toBytesNe order here
      have split : packNe order (field :: fields) ++ rest =
          toBytesNe order field.1 field.2 ++ (packNe order fields ++ rest) := by
        simp [packNe]
      rw [split, List.map_cons, unpackNe, List.drop_left' length, List.take_left' length,
        ih there, fromBytesNe_toBytesNe, if_pos (by simp [length])]
      rfl

end RbctlDsl.Lib
