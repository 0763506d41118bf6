/-!
# Byte strings

Checked ranges of a byte string and big-endian words.  A checked operation is `none`
exactly where the indexing it stands for is out of bounds.
-/

namespace RbctlDsl.Lib

abbrev Bytes := List UInt8

variable {α : Type}

/-- The range `start..stop` of a buffer. -/
def slice? (buf : List α) (start stop : Nat) : Option (List α) :=
  if start ≤ stop ∧ stop ≤ buf.length then
    some ((buf.drop start).take (stop - start))
  else
    none

/-- Overwrite the range of a buffer that begins at `start` and is as long as `source`. -/
def splice? (buf : List α) (start : Nat) (source : List α) : Option (List α) :=
  if start + source.length ≤ buf.length then
    some (buf.take start ++ (source ++ buf.drop (start + source.length)))
  else
    none

theorem guard_eq (condition : Prop) [Decidable condition] :
    (guard condition : Option Unit) = if condition then some () else none := rfl

theorem slice?_eq_some {buf : List α} {start stop : Nat}
    (ordered : start ≤ stop) (bounded : stop ≤ buf.length) :
    slice? buf start stop = some ((buf.drop start).take (stop - start)) := by
  simp [slice?, ordered, bounded]

/-- The middle part of a concatenation, found at the offsets of its two ends. -/
theorem slice?_middle (before middle after : List α) (start stop : Nat)
    (startEq : before.length = start) (stopEq : before.length + middle.length = stop) :
    slice? (before ++ (middle ++ after)) start stop = some middle := by
  subst startEq stopEq
  rw [slice?_eq_some (by simp) (by simp)]
  simp

/-- Overwriting the middle part of a concatenation by something of the same length. -/
theorem splice?_middle (before middle after source : List α) (start : Nat)
    (startEq : before.length = start) (sameLength : middle.length = source.length) :
    splice? (before ++ (middle ++ after)) start source =
      some (before ++ (source ++ after)) := by
  subst startEq
  simp [splice?, ← sameLength]

/-- Overwriting a range leaves the length and every element outside of it. -/
theorem splice?_frame {buf source out : List α} {start : Nat}
    (written : splice? buf start source = some out) :
    out.length = buf.length ∧ ∀ index, index < start ∨ start + source.length ≤ index →
      out[index]? = buf[index]? := by
  unfold splice? at written
  split at written
  · next room =>
      cases written
      have front : (buf.take start).length = start := by
        rw [List.length_take]
        omega
      refine ⟨by simp only [List.length_append, front, List.length_drop]; omega, ?_⟩
      rintro index (before | behind)
      · rw [List.getElem?_append_left (by omega), List.getElem?_take_of_lt before]
      · rw [List.getElem?_append_right (by omega), List.getElem?_append_right (by omega), front,
          List.getElem?_drop]
        congr 1
        omega
  · cases written

/-! ## Big-endian words -/

/-- `u16::to_be_bytes`. -/
def beBytes16 (value : UInt16) : Bytes :=
  [UInt8.ofNat (value.toNat / 256), value.toUInt8]

/-- `u32::to_be_bytes`. -/
def beBytes32 (value : UInt32) : Bytes :=
  [UInt8.ofNat (value.toNat / 16777216), UInt8.ofNat (value.toNat / 65536),
    UInt8.ofNat (value.toNat / 256), value.toUInt8]

/-- `u32::to_le_bytes`. -/
def leBytes32 (value : UInt32) : Bytes := (beBytes32 value).reverse

/-- `u16::from_be_bytes` on two bytes. -/
def be16 (high low : UInt8) : UInt16 :=
  UInt16.ofNat (high.toNat * 256 + low.toNat)

/-- `u32::from_be_bytes` on four bytes. -/
def be32 (first second third fourth : UInt8) : UInt32 :=
  UInt32.ofNat (first.toNat * 16777216 + second.toNat * 65536 +
    third.toNat * 256 + fourth.toNat)

/-- The big-endian `u16` at an offset, where both bytes exist. -/
def be16At? (buf : Bytes) (offset : Nat) : Option UInt16 :=
  match buf.drop offset with
  | high :: low :: _ => some (be16 high low)
  | _ => none

/-- The big-endian `u32` at an offset, where all four bytes exist. -/
def be32At? (buf : Bytes) (offset : Nat) : Option UInt32 :=
  match buf.drop offset with
  | first :: second :: third :: fourth :: _ => some (be32 first second third fourth)
  | _ => none

/-- The little-endian `u32` at an offset, where all four bytes exist. -/
def le32At? (buf : Bytes) (offset : Nat) : Option UInt32 :=
  match buf.drop offset with
  | first :: second :: third :: fourth :: _ => some (be32 fourth third second first)
  | _ => none

@[simp] theorem length_beBytes16 (value : UInt16) : (beBytes16 value).length = 2 := rfl

@[simp] theorem length_beBytes32 (value : UInt32) : (beBytes32 value).length = 4 := rfl

@[simp] theorem length_leBytes32 (value : UInt32) : (leBytes32 value).length = 4 := rfl

theorem be16_beBytes16 (value : UInt16) :
    be16 (UInt8.ofNat (value.toNat / 256)) value.toUInt8 = value := by
  apply UInt16.toNat_inj.mp
  have bound := value.toNat_lt
  simp only [be16, UInt16.toNat_ofNat', UInt8.toNat_ofNat', UInt16.toNat_toUInt8]
  omega

theorem be32_beBytes32 (value : UInt32) :
    be32 (UInt8.ofNat (value.toNat / 16777216)) (UInt8.ofNat (value.toNat / 65536))
      (UInt8.ofNat (value.toNat / 256)) value.toUInt8 = value := by
  apply UInt32.toNat_inj.mp
  have bound := value.toNat_lt
  simp only [be32, UInt32.toNat_ofNat', UInt8.toNat_ofNat', UInt32.toNat_toUInt8]
  omega

/-- A word is read back from the offset it was written at. -/
theorem be16At?_append (before after : Bytes) (value : UInt16) (offset : Nat)
    (offsetEq : before.length = offset) :
    be16At? (before ++ (beBytes16 value ++ after)) offset = some value := by
  subst offsetEq
  simp [be16At?, beBytes16, be16_beBytes16]

theorem be32At?_append (before after : Bytes) (value : UInt32) (offset : Nat)
    (offsetEq : before.length = offset) :
    be32At? (before ++ (beBytes32 value ++ after)) offset = some value := by
  subst offsetEq
  simp [be32At?, beBytes32, be32_beBytes32]

theorem le32At?_append (before after : Bytes) (value : UInt32) (offset : Nat)
    (offsetEq : before.length = offset) :
    le32At? (before ++ (leBytes32 value ++ after)) offset = some value := by
  subst offsetEq
  simp [le32At?, leBytes32, beBytes32, be32_beBytes32]

theorem be16At?_isSome_iff (buf : Bytes) (offset : Nat) :
    (be16At? buf offset).isSome ↔ offset + 2 ≤ buf.length := by
  have dropped : (buf.drop offset).length = buf.length - offset := List.length_drop ..
  unfold be16At?
  match seen : buf.drop offset with
  | [] | [_] => simp_all; omega
  | _ :: _ :: rest => simp_all; omega

theorem be32At?_isSome_iff (buf : Bytes) (offset : Nat) :
    (be32At? buf offset).isSome ↔ offset + 4 ≤ buf.length := by
  have dropped : (buf.drop offset).length = buf.length - offset := List.length_drop ..
  unfold be32At?
  match seen : buf.drop offset with
  | [] | [_] | [_, _] | [_, _, _] => simp_all; omega
  | _ :: _ :: _ :: _ :: rest => simp_all; omega

theorem le32At?_isSome_iff (buf : Bytes) (offset : Nat) :
    (le32At? buf offset).isSome ↔ offset + 4 ≤ buf.length := by
  rw [← be32At?_isSome_iff, le32At?, be32At?]
  match buf.drop offset with
  | [] | [_] | [_, _] | [_, _, _] => exact Iff.rfl
  | _ :: _ :: _ :: _ :: _ => exact iff_of_true rfl rfl

/-- A word before the end of a cut is not affected by it. -/
theorem be16At?_take (buf : Bytes) {offset length : Nat} (inside : offset + 2 ≤ length) :
    be16At? (buf.take length) offset = be16At? buf offset := by
  obtain ⟨extra, equal⟩ := Nat.exists_eq_add_of_le inside
  have rest : length - offset = extra + 2 := by omega
  unfold be16At?
  rw [List.drop_take, rest]
  match buf.drop offset with
  | [] => rfl
  | [_] => rfl
  | _ :: _ :: _ => rfl

theorem be16At?_drop (buf : Bytes) (count offset : Nat) :
    be16At? (buf.drop count) offset = be16At? buf (count + offset) := by
  rw [be16At?, be16At?, List.drop_drop]

theorem be16At?_eq {buf : Bytes} {offset : Nat} (inside : offset + 1 < buf.length) :
    be16At? buf offset = some (be16 buf[offset] buf[offset + 1]) := by
  rw [be16At?, List.drop_eq_getElem_cons (Nat.lt_of_succ_lt inside),
    List.drop_eq_getElem_cons inside]

theorem be16_inj {high low high' low' : UInt8} :
    be16 high low = be16 high' low' ↔ high = high' ∧ low = low' := by
  constructor
  · intro same
    have words := congrArg UInt16.toNat same
    simp only [be16, UInt16.toNat_ofNat'] at words
    have := high.toNat_lt
    have := low.toNat_lt
    have := high'.toNat_lt
    have := low'.toNat_lt
    exact ⟨UInt8.toNat_inj.mp (by omega), UInt8.toNat_inj.mp (by omega)⟩
  · rintro ⟨rfl, rfl⟩
    rfl

/-! ## Words in the order of the machine -/

inductive ByteOrder where
  | big
  | little
  deriving DecidableEq, Repr

/-- `u16::to_ne_bytes`. -/
def neBytes16 : ByteOrder → UInt16 → Bytes
  | .big, value => beBytes16 value
  | .little, value => (beBytes16 value).reverse

/-- The `u16` that stands in memory at an offset, where both bytes exist. -/
def ne16At? (order : ByteOrder) (buf : Bytes) (offset : Nat) : Option UInt16 :=
  match order, buf.drop offset with
  | .big, first :: second :: _ => some (be16 first second)
  | .little, first :: second :: _ => some (be16 second first)
  | _, _ => none

@[simp] theorem length_neBytes16 (order : ByteOrder) (value : UInt16) :
    (neBytes16 order value).length = 2 := by
  cases order <;> rfl

theorem ne16At?_append (order : ByteOrder) (before after : Bytes) (value : UInt16) (offset : Nat)
    (offsetEq : before.length = offset) :
    ne16At? order (before ++ (neBytes16 order value ++ after)) offset = some value := by
  subst offsetEq
  cases order <;> simp [ne16At?, neBytes16, beBytes16, be16_beBytes16]

/-! ## Exclusive or -/

/-- Bytewise exclusive or of two strings of one length. -/
def xorBytes (left right : List UInt8) : List UInt8 := List.zipWith (· ^^^ ·) left right

/-- A mask that is applied twice is gone. -/
theorem xorBytes_cancel {left right : List UInt8} (same : left.length = right.length) :
    xorBytes (xorBytes left right) right = left := by
  induction left generalizing right with
  | nil => rfl
  | cons byte left ih =>
      cases right with
      | nil => cases same
      | cons mask right =>
          have rest := ih (Nat.succ.inj same)
          simp only [xorBytes, List.zipWith_cons_cons] at rest ⊢
          rw [rest, UInt8.xor_assoc, UInt8.xor_self, UInt8.xor_zero]

end RbctlDsl.Lib
