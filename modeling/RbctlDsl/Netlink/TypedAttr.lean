import RbctlDsl.Lib.NatBytes
import RbctlDsl.Netlink.NestRoundTrip

/-!
# Typed attributes

The typed `put` and `get` functions of `tinyln_rs::attr`, and `find`.  An access outside of the
memory is `none`; the result of a getter that finds nothing is `some none`.
-/

namespace RbctlDsl.Netlink

open RbctlDsl.Lib

/-! ## Writing -/

section Writing

variable (libnl : Libnl) (msg : NlMsg) (attrtype : Int32)

/-- `put_u8`, `put_u16`, `put_u32` and `put_u64`, by the number of their bytes. -/
def putUint (width val : Nat) : Int32 × NlMsg :=
  put libnl msg attrtype (toBytesNe libnl.order width val)

def putU8 (val : UInt8) : Int32 × NlMsg := putUint libnl msg attrtype 1 val.toNat

def putU16 (val : UInt16) : Int32 × NlMsg := putUint libnl msg attrtype 2 val.toNat

def putU32 (val : UInt32) : Int32 × NlMsg := putUint libnl msg attrtype 4 val.toNat

def putU64 (val : UInt64) : Int32 × NlMsg := putUint libnl msg attrtype 8 val.toNat

/-- `CString::new`, with the NUL behind the string. -/
def cString (s : String) : Option Bytes :=
  let bytes := s.toUTF8.data.toList
  if 0 ∈ bytes then none else some (bytes ++ [0])

def putString (s : String) : Int32 × NlMsg :=
  match cString s with
  | some bytes => put libnl msg attrtype bytes
  | none => (-1, msg)

def putFlag : Int32 × NlMsg := libnl.nlaPut msg attrtype 0 []

end Writing

/-! ## Reading -/

section Reading

variable (order : ByteOrder) (attr : AttrRef)

/-- `get_u8`, `get_u16`, `get_u32` and `get_u64`, by the number of their bytes. -/
def getUint (width : Nat) : Option (Option Nat) :=
  match payloadLen attr with
  | none => some none
  | some len =>
    if width ≤ len then do
      let bytes ← slice? (dataPtr attr) 0 width
      some (some (fromBytesNe order bytes))
    else
      some none

def getU8 : Option (Option UInt8) := (getUint order attr 1).map (·.map .ofNat)

def getU16 : Option (Option UInt16) := (getUint order attr 2).map (·.map .ofNat)

def getU32 : Option (Option UInt32) := (getUint order attr 4).map (·.map .ofNat)

def getU64 : Option (Option UInt64) := (getUint order attr 8).map (·.map .ofNat)

/-- The string up to the first NUL, or to the end. -/
def getString : Option (Option String) :=
  match payloadLen attr with
  | none => some none
  | some len => do
    let slice ← slice? (dataPtr attr) 0 len
    some (String.fromUTF8? ⟨(slice.takeWhile (· ≠ 0)).toArray⟩)

end Reading

/-! ## Walking -/

section Walking

variable (libnl : Libnl)

/-- All that an iterator yields.  The fuel bounds the number of steps. -/
def collectFrom : Nat → NlaIter → Option (List AttrRef)
  | 0, _ => none
  | fuel + 1, iter => do
      match ← iter.next libnl with
      | (none, _) => some []
      | (some attr, iter) => do
          let rest ← collectFrom fuel iter
          some (attr :: rest)

/-- Every step leaves less memory. -/
def NlaIter.collect (iter : NlaIter) : Option (List AttrRef) :=
  collectFrom libnl (iter.memory.length + 1) iter

/-- The type without its two flags. -/
def typeOf (attr : AttrRef) : Int32 := attrtype (attr.header.nlaType &&& 0x3fff)

/-- `nla_find` of libnl-tiny on the memory at `head`, `len` and `attrtype`: the memory from the
attribute on, or a null pointer. -/
abbrev NlaFind := Bytes → Int32 → Int32 → Option Bytes

/-- It finds the first attribute of a type. -/
def NlaFind.Lawful (nlaFind : NlaFind) : Prop :=
  ∀ (iter : NlaIter) (attrs : List AttrRef) (attrtype : Int32),
    iter.collect libnl = some attrs →
    nlaFind iter.memory iter.remaining attrtype =
      (attrs.find? fun attr => typeOf attr == attrtype).map AttrRef.memory

def find (nlaFind : NlaFind) (start : Bytes) (len : Nat) (attrtype : Int32) : Option Bytes :=
  nlaFind start (.ofNat len) attrtype

/-- The attribute of a type in the region of a message behind an offset from its `nlmsghdr`. -/
def findIn (nlaFind : NlaFind) (msg : NlMsg) (start : Nat) (nlaType : UInt16) : Option Bytes :=
  find nlaFind (msg.payload.drop (start - NLMSG_HDRLEN)) (msg.nlmsgLen - start) (attrtype nlaType)

/-- What is assumed of libnl-tiny beside its laws: a `nla_put` that fails leaves the message as it
is, and `nla_ok` asks for the room of a header. -/
structure Libnl.Steady (libnl : Libnl) : Prop extends libnl.Lawful where
  nlaPut_refused : ∀ (msg : NlMsg) (attrtype attrlen : Int32) (data : Bytes),
    (libnl.nlaPut msg attrtype attrlen data).1 < 0 →
      (libnl.nlaPut msg attrtype attrlen data).2 = msg
  nlaOk_room : ∀ (memory : Bytes) (remaining : Int32),
    remaining.toInt < 4 → libnl.nlaOk memory remaining = 0

end Walking

theorem Libnl.steady_zeroPadding (order : ByteOrder) : (Libnl.zeroPadding order).Steady where
  toLawful := Libnl.lawful_zeroPadding order
  nlaPut_refused _ _ _ _ refused := absurd refused (by decide : ¬(0 : Int32) < 0)
  nlaOk_room memory remaining little := by
    simp only [Libnl.zeroPadding]
    split
    · exact if_neg fun holds => absurd holds.1 (Int.not_le.mpr little)
    · rfl

/-! ## Untrusted memory -/

section Untrusted

variable {libnl : Libnl} {iter : NlaIter} {region : Bytes} {attr : AttrRef}

/-- What is left to read is there. -/
def Covered (iter : NlaIter) : Prop := iter.remaining.toInt ≤ iter.memory.length

/-- The header and the payload of an attribute are there. -/
def Whole (attr : AttrRef) : Prop :=
  NLA_HDRLEN ≤ attr.header.nlaLen.toNat ∧ attr.header.nlaLen.toNat ≤ attr.memory.length

/-- `as i32` does not make a length larger. -/
theorem toInt_ofNat_le (len : Nat) : (Int32.ofNat len).toInt ≤ len := by
  rw [Int32.toInt_ofNat', Int.bmod_def, Int32.size]
  split <;> omega

theorem covered_new {memory : Bytes} {len : Nat} (inside : len ≤ memory.length) :
    Covered (.new memory len) :=
  (toInt_ofNat_le len).trans (Int.ofNat_le.mpr inside)

/-- The memory at an iterator holds a header where `nla_ok` accepts it. -/
theorem exists_header (order : ByteOrder) {memory : Bytes} (room : 4 ≤ memory.length) :
    ∃ attr, AttrRef.deref order memory = some attr ∧ attr.memory = memory := by
  match memory, room with
  | _ :: _ :: _ :: _ :: _, _ => cases order <;> exact ⟨_, rfl, rfl⟩

theorem toInt_sub_total {remaining : Int32} {total : Nat} (left : 0 ≤ remaining.toInt)
    (small : total ≤ 65536) : (remaining - .ofNat total).toInt = remaining.toInt - total := by
  have bound := remaining.toInt_lt
  rw [Int32.toInt_sub, Int32.toInt_ofNat_of_lt (by omega)]
  exact Int.bmod_eq_of_le (by omega) (by omega)

/-- A step of an iterator ends the walk, or finds an attribute that is there as a whole and steps
over it. -/
theorem next_covered (steady : libnl.Steady) (covered : Covered iter) :
    (∃ iter', iter.next libnl = some (none, iter')) ∨
      ∃ attr iter', iter.next libnl = some (some attr, iter') ∧ attr.memory = iter.memory ∧
        Whole attr ∧ Covered iter' ∧ iter'.memory <:+ iter.memory ∧
        iter'.memory.length < iter.memory.length := by
  by_cases spent : iter.remaining ≤ 0
  · exact .inl ⟨_, if_pos spent⟩
  by_cases ok : libnl.nlaOk iter.memory iter.remaining = 0
  · exact .inl ⟨_, by rw [NlaIter.next, if_neg spent, if_pos ok]⟩
  have room : 4 ≤ iter.remaining.toInt := by
    by_contra less
    exact ok (steady.nlaOk_room _ _ (by omega))
  rw [Covered] at covered
  obtain ⟨attr, found, here⟩ := exists_header libnl.order (by omega : 4 ≤ iter.memory.length)
  obtain ⟨_, least, most⟩ := (steady.nlaOk_iff _ _ _ found).mp ok
  have total := nlaAlign_eq attr.header.nlaLen.toNat
  have bound := attr.header.nlaLen.toNat_lt
  refine .inr ⟨attr, ⟨iter.memory.drop (nlaAlign attr.header.nlaLen.toNat),
    iter.remaining - .ofNat (nlaAlign attr.header.nlaLen.toNat)⟩, ?_, here, ⟨least, ?_⟩, ?_,
    List.drop_suffix .., ?_⟩
  · rw [NlaIter.next, if_neg spent, if_neg ok, found]
    rfl
  · rw [here]
    omega
  · rw [Covered, toInt_sub_total (by omega) (by omega), List.length_drop]
    omega
  · rw [List.length_drop]
    omega

theorem collectFrom_covered (steady : libnl.Steady) (covered : Covered iter) {fuel : Nat}
    (enough : iter.memory.length < fuel) :
    ∃ attrs, collectFrom libnl fuel iter = some attrs ∧
      ∀ attr ∈ attrs, Whole attr ∧ attr.memory <:+ iter.memory := by
  induction fuel generalizing iter with
  | zero => cases enough
  | succ fuel ih =>
      rcases next_covered steady covered with ⟨iter', ended⟩ |
        ⟨attr, iter', yielded, here, whole, left, within, less⟩
      · exact ⟨[], by rw [collectFrom, ended]; rfl, List.forall_mem_nil _⟩
      · obtain ⟨rest, collected, each⟩ := ih left (by omega)
        refine ⟨attr :: rest, by rw [collectFrom, yielded]; simp [collected], ?_⟩
        refine List.forall_mem_cons.mpr ⟨⟨whole, here ▸ List.suffix_refl _⟩, ?_⟩
        exact fun other member => ⟨(each other member).1, (each other member).2.trans within⟩

theorem Whole.payloadLen_eq (whole : Whole attr) :
    payloadLen attr = some (attr.header.nlaLen.toNat - NLA_HDRLEN) := if_pos whole.1

theorem Whole.payload_fits (whole : Whole attr) :
    attr.header.nlaLen.toNat - NLA_HDRLEN ≤ (dataPtr attr).length := by
  rw [dataPtr, List.length_drop]
  exact Nat.sub_le_sub_right whole.2 _

/-- A whole tree of attributes is read from any bytes. -/
theorem readAttrs_covered (steady : libnl.Steady) (covered : Covered iter) {fuel : Nat}
    (enough : iter.memory.length < fuel) : (readAttrs libnl fuel iter).isSome = true := by
  induction fuel generalizing iter with
  | zero => cases enough
  | succ fuel ih =>
      rcases next_covered steady covered with ⟨iter', ended⟩ |
        ⟨attr, iter', yielded, here, whole, left, _, less⟩
      · rw [readAttrs, ended]
        rfl
      · obtain ⟨rest, readRest⟩ := Option.isSome_iff_exists.mp (ih left (by omega))
        have fits := whole.payload_fits
        have shorter : (dataPtr attr).length < fuel := by
          have least := whole.1
          have most := whole.2
          rw [dataPtr, List.length_drop, here]
          rw [here] at most
          simp only [NLA_HDRLEN] at least ⊢
          omega
        obtain ⟨children, readChildren⟩ :=
          Option.isSome_iff_exists.mp (ih (covered_new fits) shorter)
        have payload := slice?_eq_some (Nat.zero_le _) fits
        simp only [readAttrs, yielded, Option.bind_eq_bind, Option.bind_some, whole.payloadLen_eq]
        split
        · rw [payload, Option.bind_some, readRest]
          rfl
        · rw [readChildren, Option.bind_some, readRest]
          rfl

/-- The attributes that the code may come to hold: those of a region, and those of the payload of
one that it holds. -/
inductive Visited (libnl : Libnl) (region : Bytes) : AttrRef → Prop where
  | outer {attrs : List AttrRef} {attr : AttrRef}
      (collected : (NlaIter.new region region.length).collect libnl = some attrs)
      (member : attr ∈ attrs) : Visited libnl region attr
  | inner {outer attr : AttrRef} {len : Nat} {attrs : List AttrRef}
      (visited : Visited libnl region outer) (payload : payloadLen outer = some len)
      (collected : (NlaIter.new (dataPtr outer) len).collect libnl = some attrs)
      (member : attr ∈ attrs) : Visited libnl region attr

/-- The attribute ends within the region, and no getter reads behind its end: each finds a value
where the payload has the bytes of one. -/
structure ReadsInside (order : ByteOrder) (region : Bytes) (attr : AttrRef) : Prop where
  whole : Whole attr
  within : attr.memory <:+ region
  numbers : ∀ width, ∃ found, getUint order attr width = some found ∧
    (found.isSome = true ↔ NLA_HDRLEN + width ≤ attr.header.nlaLen.toNat)
  text : (getString attr).isSome = true

theorem Whole.readsInside (whole : Whole attr) (order : ByteOrder)
    (within : attr.memory <:+ region) : ReadsInside order region attr := by
  have least := whole.1
  have fits := whole.payload_fits
  refine ⟨whole, within, fun width => ?_, ?_⟩
  · rw [getUint, whole.payloadLen_eq]
    dsimp only
    split
    next enough =>
      refine ⟨_, by rw [slice?_eq_some (Nat.zero_le _) (enough.trans fits)]; rfl, ?_⟩
      exact iff_of_true rfl (by omega)
    next short => exact ⟨_, rfl, iff_of_false (by decide) (by omega)⟩
  · rw [getString, whole.payloadLen_eq]
    dsimp only
    rw [slice?_eq_some (Nat.zero_le _) fits]
    rfl

/-- Whatever the bytes of a region are, the walk over them and over the payloads in them, the tree
of them, and every getter on the way stay within the region. -/
theorem untrusted_reads_inside (steady : libnl.Steady) (region : Bytes) :
    (readAttrs libnl (region.length + 1) (.new region region.length)).isSome = true ∧
      ((NlaIter.new region region.length).collect libnl).isSome = true ∧
      ∀ attr, Visited libnl region attr → ReadsInside libnl.order region attr ∧
        ∀ len, payloadLen attr = some len →
          ((NlaIter.new (dataPtr attr) len).collect libnl).isSome = true := by
  have covered := covered_new (Nat.le_refl region.length)
  have collects {memory : Bytes} {len : Nat} (inside : len ≤ memory.length) :
      ∃ attrs, (NlaIter.new memory len).collect libnl = some attrs ∧
        ∀ attr ∈ attrs, Whole attr ∧ attr.memory <:+ memory :=
    collectFrom_covered steady (covered_new inside) (Nat.lt_succ_self _)
  have here (attr : AttrRef) (visited : Visited libnl region attr) :
      Whole attr ∧ attr.memory <:+ region := by
    induction visited with
    | outer collected member =>
        obtain ⟨attrs, equal, each⟩ := collects (Nat.le_refl region.length)
        cases equal.symm.trans collected
        exact each _ member
    | @inner outer attr len attrs visited payload collected member ih =>
        cases ih.1.payloadLen_eq.symm.trans payload
        obtain ⟨attrs, equal, each⟩ := collects ih.1.payload_fits
        cases equal.symm.trans collected
        have inside := (each _ member).2.trans (List.drop_suffix NLA_HDRLEN outer.memory)
        exact ⟨(each _ member).1, inside.trans ih.2⟩
  refine ⟨readAttrs_covered steady covered (Nat.lt_succ_self _), ?_, fun attr visited => ?_⟩
  · obtain ⟨attrs, equal, _⟩ := collects (Nat.le_refl region.length)
    exact equal ▸ rfl
  · obtain ⟨whole, within⟩ := here attr visited
    refine ⟨whole.readsInside libnl.order within, fun len payload => ?_⟩
    cases whole.payloadLen_eq.symm.trans payload
    obtain ⟨attrs, equal, _⟩ := collects whole.payload_fits
    exact equal ▸ rfl

/-- An attribute that claims more bytes than there are behind a nested one. -/
def truncatedRegion : Bytes := [8, 0, 1, 128, 5, 0, 2, 0, 9, 0, 3, 0, 0]

theorem untrusted_reads_inside_truncatedRegion :
    (readAttrs (.zeroPadding .little) 14 (.new truncatedRegion 13)).isSome = true ∧
      ∀ attr, Visited (.zeroPadding .little) truncatedRegion attr →
        ReadsInside .little truncatedRegion attr := by
  have inside := untrusted_reads_inside (Libnl.steady_zeroPadding .little) truncatedRegion
  exact ⟨inside.1, fun attr visited => (inside.2.2 attr visited).1⟩

end Untrusted

/-! ## Typed values -/

/-- A value that one of the typed functions puts. -/
inductive Value where
  | u8 (val : UInt8)
  | u16 (val : UInt16)
  | u32 (val : UInt32)
  | u64 (val : UInt64)
  | string (s : String)
  | flag
  deriving DecidableEq, Repr

/-- A value with the type of its attribute. -/
abbrev TypedValue := UInt16 × Value

section Definitions

variable (libnl : Libnl)

def putValue (msg : NlMsg) (attrtype : Int32) : Value → Int32 × NlMsg
  | .u8 val => putU8 libnl msg attrtype val
  | .u16 val => putU16 libnl msg attrtype val
  | .u32 val => putU32 libnl msg attrtype val
  | .u64 val => putU64 libnl msg attrtype val
  | .string s => putString libnl msg attrtype s
  | .flag => putFlag libnl msg attrtype

/-- Puts one value after another, whether it succeeds or not: the values that it succeeds for, and
the message. -/
def putValues (msg : NlMsg) : List TypedValue → List TypedValue × NlMsg
  | [] => ([], msg)
  | (nlaType, value) :: values =>
    let result := putValue libnl msg (attrtype nlaType) value
    let later := putValues result.2 values
    (if result.1 < 0 then later.1 else (nlaType, value) :: later.1, later.2)

/-- The getter for values of this kind finds this one. -/
def ReadsAs (order : ByteOrder) (attr : AttrRef) : Value → Prop
  | .u8 val => getU8 order attr = some (some val)
  | .u16 val => getU16 order attr = some (some val)
  | .u32 val => getU32 order attr = some (some val)
  | .u64 val => getU64 order attr = some (some val)
  | .string s => getString attr = some (some s)
  | .flag => payloadLen attr = some 0

/-- The payload that a value is put as. -/
def Value.bytes (order : ByteOrder) : Value → Bytes
  | .u8 val => toBytesNe order 1 val.toNat
  | .u16 val => toBytesNe order 2 val.toNat
  | .u32 val => toBytesNe order 4 val.toNat
  | .u64 val => toBytesNe order 8 val.toNat
  | .string s => s.toUTF8.data.toList ++ [0]
  | .flag => []

/-- The bytes of a message that a value is for. -/
def valueSize (order : ByteOrder) (put : TypedValue) : Nat :=
  wireSize (.item ⟨put.1, put.2.bytes order⟩)

/-- Attributes none of which is nested. -/
def leaves : List Attr → Attrs := List.foldr Forest.leaf Forest.nil

def valueAttrs (order : ByteOrder) (values : List TypedValue) : List Attr :=
  values.map fun put => ⟨put.1, put.2.bytes order⟩

end Definitions

/-- A value is put as its payload, unless it is a string with a NUL in it. -/
theorem putValue_eq (libnl : Libnl) (msg : NlMsg) (attrtype : Int32) (value : Value) :
    putValue libnl msg attrtype value = put libnl msg attrtype (value.bytes libnl.order) ∧
        (∀ s, value = .string s → (0 : UInt8) ∉ s.toUTF8.data.toList) ∨
      putValue libnl msg attrtype value = (-1, msg) := by
  cases value with
  | string s =>
      rw [putValue, putString, cString]
      by_cases interior : (0 : UInt8) ∈ s.toUTF8.data.toList
      · exact .inr (by rw [if_pos interior])
      · refine .inl ⟨by rw [if_neg interior]; rfl, fun other same => ?_⟩
        cases same
        exact interior
  | u8 val => exact .inl ⟨rfl, fun s same => (by cases same)⟩
  | u16 val => exact .inl ⟨rfl, fun s same => (by cases same)⟩
  | u32 val => exact .inl ⟨rfl, fun s same => (by cases same)⟩
  | u64 val => exact .inl ⟨rfl, fun s same => (by cases same)⟩
  | flag => exact .inl ⟨rfl, fun s same => (by cases same)⟩

section Getters

variable (order : ByteOrder) (nlaType : UInt16) (behind : Bytes)

theorem getUint_attrOf {width val : Nat} (narrow : width ≤ 8) (fits : val < 256 ^ width) :
    getUint order (attrOf order nlaType width (toBytesNe order width val ++ behind)) width =
      some (some val) := by
  have length := length_toBytesNe order fits
  rw [getUint, payloadLen_attrOf _ _ _ (by rw [NLA_HDRLEN]; omega)]
  dsimp only
  rw [if_pos (Nat.le_refl _), dataPtr_attrOf]
  have read : slice? (toBytesNe order width val ++ behind) 0 width = _ :=
    slice?_middle [] (toBytesNe order width val) behind 0 width rfl
      (by rw [length]; exact Nat.zero_add _)
  rw [read]
  simp

theorem takeWhile_terminated {bytes : Bytes} (plain : 0 ∉ bytes) :
    (bytes ++ [0]).takeWhile (· ≠ 0) = bytes := by
  have each : ∀ byte ∈ bytes, decide (byte ≠ 0) = true :=
    fun byte member => decide_eq_true fun zero => plain (zero ▸ member)
  rw [List.takeWhile_append_of_pos each]
  exact List.append_nil _

theorem fromUTF8?_toUTF8 (s : String) :
    String.fromUTF8? ⟨s.toUTF8.data.toList.toArray⟩ = some s := by
  simpa [String.fromUTF8?] using ⟨s.isValidUTF8, rfl⟩

theorem getString_attrOf {s : String} (plain : (0 : UInt8) ∉ s.toUTF8.data.toList)
    (fits : NLA_HDRLEN + (s.toUTF8.data.toList ++ [0]).length < 65536) :
    getString (attrOf order nlaType (s.toUTF8.data.toList ++ [0]).length
      ((s.toUTF8.data.toList ++ [0]) ++ behind)) = some (some s) := by
  have read : slice? ((s.toUTF8.data.toList ++ [0]) ++ behind) 0 _ = _ :=
    slice?_middle [] (s.toUTF8.data.toList ++ [0]) behind 0 _ rfl (Nat.zero_add _)
  rw [getString, payloadLen_attrOf _ _ _ fits]
  dsimp only
  rw [dataPtr_attrOf, read]
  rw [Option.bind_eq_bind, Option.bind_some, takeWhile_terminated plain, fromUTF8?_toUTF8]

/-- What has been put is what the getter finds. -/
theorem readsAs_attrOf (value : Value)
    (plain : ∀ s, value = .string s → (0 : UInt8) ∉ s.toUTF8.data.toList)
    (fits : NLA_HDRLEN + (value.bytes order).length < 65536) :
    ReadsAs order
      (attrOf order nlaType (value.bytes order).length (value.bytes order ++ behind)) value := by
  cases value with
  | u8 val =>
      have narrow : val.toNat < 256 ^ 1 := val.toNat_lt
      simp only [ReadsAs, getU8, Value.bytes, length_toBytesNe order narrow,
        getUint_attrOf order nlaType behind (by decide : 1 ≤ 8) narrow]
      simp
  | u16 val =>
      have narrow : val.toNat < 256 ^ 2 := val.toNat_lt
      simp only [ReadsAs, getU16, Value.bytes, length_toBytesNe order narrow,
        getUint_attrOf order nlaType behind (by decide : 2 ≤ 8) narrow]
      simp
  | u32 val =>
      have narrow : val.toNat < 256 ^ 4 := val.toNat_lt
      simp only [ReadsAs, getU32, Value.bytes, length_toBytesNe order narrow,
        getUint_attrOf order nlaType behind (by decide : 4 ≤ 8) narrow]
      simp
  | u64 val =>
      have narrow : val.toNat < 256 ^ 8 := val.toNat_lt
      simp only [ReadsAs, getU64, Value.bytes, length_toBytesNe order narrow,
        getUint_attrOf order nlaType behind (by decide : 8 ≤ 8) narrow]
      simp
  | string s => exact getString_attrOf order nlaType behind (plain s rfl) fits
  | flag => exact payloadLen_attrOf order nlaType behind fits

end Getters

/-! ## Round trip -/

section RoundTrip

variable {libnl : Libnl}

/-- A walk over leaves yields a reference to each of them. -/
theorem collectFrom_leaves (lawful : libnl.Lawful) {attrs : List Attr} {bytes : Bytes}
    (encodes : Encodes libnl.order (leaves attrs) bytes) (fits : bytes.length < 65536)
    (after : Bytes) {fuel : Nat} (enough : bytes.length < fuel) :
    ∃ refs, collectFrom libnl fuel (.new (bytes ++ after) bytes.length) = some refs ∧
      List.Forall₂ (fun attr ref => ∃ behind,
        ref = attrOf libnl.order attr.nlaType attr.payload.length (attr.payload ++ behind))
        attrs refs := by
  obtain ⟨fuel, rfl⟩ : ∃ less, fuel = less + 1 := ⟨fuel - 1, by omega⟩
  induction attrs generalizing bytes fuel with
  | nil =>
      cases encodes
      exact ⟨[], rfl, .nil⟩
  | cons attr attrs ih =>
      cases encodes with
      | @leaf _ _ padding bytes below padded encodes =>
          have size : nlaAlign attr.payload.length = (attr.payload ++ padding).length := by
            rw [List.length_append, padded]
          rw [List.length_append, List.length_append, Nlattr.length_bytes] at fits enough ⊢
          have yielded := next_attrOf lawful attr.nlaType (bytes ++ after) size fits
          obtain ⟨fuel, rfl⟩ : ∃ less, fuel = less + 1 := ⟨fuel - 1, by omega⟩
          obtain ⟨refs, collected, each⟩ := ih encodes (by omega) fuel (by omega)
          rw [List.append_assoc] at yielded
          refine ⟨_ :: refs, ?_, .cons ⟨padding ++ (bytes ++ after), rfl⟩ each⟩
          have start : Nlattr.bytes libnl.order ⟨.ofNat (NLA_HDRLEN + attr.payload.length),
              attr.nlaType⟩ ++ (attr.payload ++ padding) ++ bytes ++ after =
              (attrOf libnl.order attr.nlaType attr.payload.length
                (attr.payload ++ (padding ++ (bytes ++ after)))).memory := by
            simp [attrOf]
          rw [start, collectFrom]
          rw [show 4 + (attr.payload ++ padding).length + bytes.length =
            NLA_HDRLEN + (attr.payload ++ padding).length + bytes.length from rfl, yielded]
          simp [collected]

/-- A value that may have been put. -/
structure Puttable (order : ByteOrder) (limit : Nat) (put : TypedValue) : Prop where
  below : put.1 < 0x4000
  size : valueSize order put ≤ limit
  plain : ∀ s, put.2 = .string s → (0 : UInt8) ∉ s.toUTF8.data.toList

theorem Puttable.mono {order : ByteOrder} {limit more : Nat} {put : TypedValue}
    (puttable : Puttable order limit put) (wider : limit ≤ more) : Puttable order more put :=
  ⟨puttable.below, puttable.size.trans wider, puttable.plain⟩

/-- A value is refused and leaves the message as it is, or is appended as a leaf. -/
theorem putValue_cases (steady : libnl.Steady) (msg : NlMsg) (nlaType : UInt16) (value : Value)
    (small : valueSize libnl.order (nlaType, value) < 2 ^ 31) :
    (putValue libnl msg (attrtype nlaType) value).1 < 0 ∧
        (putValue libnl msg (attrtype nlaType) value).2 = msg ∨
      ¬(putValue libnl msg (attrtype nlaType) value).1 < 0 ∧
        (∀ s, value = .string s → (0 : UInt8) ∉ s.toUTF8.data.toList) ∧
        ∃ padding : Bytes, (value.bytes libnl.order).length + padding.length =
            nlaAlign (value.bytes libnl.order).length ∧
          Appended msg
            (Nlattr.bytes libnl.order
                ⟨.ofNat (NLA_HDRLEN + (value.bytes libnl.order).length), nlaType⟩ ++
              (value.bytes libnl.order ++ padding))
            (putValue libnl msg (attrtype nlaType) value).2 := by
  have size : valueSize libnl.order (nlaType, value) =
    NLA_HDRLEN + nlaAlign (value.bytes libnl.order).length := rfl
  rw [nlaAlign_eq] at size
  rcases putValue_eq libnl msg (attrtype nlaType) value with ⟨equal, plain⟩ | equal
  · rw [equal]
    by_cases refused : (put libnl msg (attrtype nlaType) (value.bytes libnl.order)).1 < 0
    · exact .inl ⟨refused, steady.nlaPut_refused _ _ _ _ refused⟩
    · have appends := put_appends steady.toLawful (value.bytes libnl.order) (by omega) refused
      rw [toUInt16_attrtype] at appends
      exact .inr ⟨refused, plain, appends⟩
  · rw [equal]
    exact .inl ⟨(by decide : (-1 : Int32) < 0), rfl⟩

/-- The values that are accepted are appended, and the others leave nothing in the message. -/
theorem putValues_grown (steady : libnl.Steady) (msg : NlMsg) (values : List TypedValue)
    (below : ∀ put ∈ values, put.1 < 0x4000)
    (small : (values.map (valueSize libnl.order)).sum < 2 ^ 31) :
    (∃ bytes, Encodes libnl.order
        (leaves (valueAttrs libnl.order (putValues libnl msg values).1)) bytes ∧
      bytes.length ≤ (values.map (valueSize libnl.order)).sum ∧
      Grown msg bytes (putValues libnl msg values).2) ∧
    ∀ put ∈ (putValues libnl msg values).1,
      Puttable libnl.order (values.map (valueSize libnl.order)).sum put := by
  induction values generalizing msg with
  | nil => exact ⟨⟨[], .nil, Nat.le_refl _, .inl ⟨rfl, rfl⟩⟩, List.forall_mem_nil _⟩
  | cons head values ih =>
      obtain ⟨nlaType, value⟩ := head
      obtain ⟨here, there⟩ := List.forall_mem_cons.mp below
      rw [List.map_cons, List.sum_cons] at small ⊢
      obtain ⟨⟨bytes, encodes, length, grown⟩, each⟩ :=
        ih (putValue libnl msg (attrtype nlaType) value).2 there (by omega)
      have wider (put : TypedValue) (member : put ∈ (putValues libnl _ values).1) :=
        (each put member).mono (Nat.le_add_left _ (valueSize libnl.order (nlaType, value)))
      rw [putValues]
      dsimp only
      rcases putValue_cases steady msg nlaType value (by omega) with
        ⟨refused, same⟩ | ⟨accepted, plain, padding, padded, appended⟩
      · rw [if_pos refused]
        rw [same] at encodes grown wider ⊢
        exact ⟨⟨bytes, encodes, Nat.le_add_left_of_le length, grown⟩, wider⟩
      · rw [if_neg accepted]
        have encoded : Encodes libnl.order (.leaf ⟨nlaType, value.bytes libnl.order⟩ _) _ :=
          .leaf here padded encodes
        have grows := appended.grown grown encoded.length_mod encodes.length_mod
        refine ⟨⟨_, encoded, ?_, .inr grows⟩,
          List.forall_mem_cons.mpr ⟨⟨here, Nat.le_add_right _ _, plain⟩, wider⟩⟩
        rw [List.length_append, List.length_append, Nlattr.length_bytes, List.length_append, padded]
        exact Nat.add_le_add_left length (NLA_HDRLEN + _)

/-- The first of two lists whose members correspond. -/
theorem find?_forall₂ {α β : Type} {rel : α → β → Prop} (first : α → Bool)
    (second : β → Bool) {left : List α} {right : List β}
    (related : List.Forall₂ rel left right)
    (agrees : ∀ a ∈ left, ∀ b, rel a b → first a = second b) :
    Option.Rel rel (left.find? first) (right.find? second) := by
  induction related with
  | nil => exact .none
  | @cons a b left right here rest ih =>
      obtain ⟨head, tail⟩ := List.forall_mem_cons.mp agrees
      rw [List.find?_cons, List.find?_cons, ← head b here]
      cases first a with
      | true => exact .some here
      | false => exact ih tail

theorem and_mask {nlaType : UInt16} (below : nlaType < 0x4000) : nlaType &&& 0x3fff = nlaType := by
  apply UInt16.toNat_inj.mp
  rw [UInt16.toNat_and]
  exact (Nat.and_two_pow_sub_one_eq_mod nlaType.toNat 14).trans (Nat.mod_eq_of_lt below)

theorem attrtype_inj {nlaType other : UInt16} (same : attrtype nlaType = attrtype other) :
    nlaType = other := by
  rw [← toUInt16_attrtype nlaType, same, toUInt16_attrtype]

/-- Among the values that have been put into a message and accepted, `find` finds the first of a
type, and its getter the value; it finds nothing of a type that none of them has.  The bound is on
the size that the message can end with. -/
theorem find_putValues (steady : libnl.Steady) {nlaFind : NlaFind} (finds : nlaFind.Lawful libnl)
    (msg : NlMsg) (values : List TypedValue) (below : ∀ put ∈ values, put.1 < 0x4000)
    (fits : nlmsgAlign msg.nlmsgLen + (values.map (valueSize libnl.order)).sum ≤ 65535)
    (nlaType : UInt16) :
    (∀ put, (putValues libnl msg values).1.find? (·.1 == nlaType) = some put →
      ∃ attr, findIn nlaFind (putValues libnl msg values).2 (nlmsgAlign msg.nlmsgLen) nlaType =
          some attr.memory ∧
        AttrRef.deref libnl.order attr.memory = some attr ∧ ReadsAs libnl.order attr put.2) ∧
    ((putValues libnl msg values).1.find? (·.1 == nlaType) = none →
      findIn nlaFind (putValues libnl msg values).2 (nlmsgAlign msg.nlmsgLen) nlaType = none) := by
  obtain ⟨⟨bytes, encodes, length, grown⟩, each⟩ :=
    putValues_grown steady msg values below (by omega)
  obtain ⟨len, after, region⟩ := grown.region
  have enough : bytes.length < (bytes ++ after).length + 1 := by
    rw [List.length_append]
    omega
  obtain ⟨refs, collected, related⟩ :=
    collectFrom_leaves steady.toLawful encodes (by omega) after enough
  rw [valueAttrs, List.forall₂_map_left_iff] at related
  have agrees : ∀ put ∈ (putValues libnl msg values).1, ∀ ref, (∃ behind, ref =
      attrOf libnl.order put.1 (put.2.bytes libnl.order).length
        (put.2.bytes libnl.order ++ behind)) →
      (put.1 == nlaType) = (typeOf ref == attrtype nlaType) := by
    rintro put member ref ⟨behind, rfl⟩
    rw [typeOf, nlaType_attrOf, and_mask (each put member).below, Bool.eq_iff_iff, beq_iff_eq,
      beq_iff_eq]
    exact ⟨congrArg attrtype, attrtype_inj⟩
  have same := find?_forall₂ (·.1 == nlaType) (fun ref => typeOf ref == attrtype nlaType)
    related agrees
  have found : findIn nlaFind (putValues libnl msg values).2 (nlmsgAlign msg.nlmsgLen) nlaType =
      (refs.find? fun ref => typeOf ref == attrtype nlaType).map AttrRef.memory :=
    finds (.new _ _) refs (attrtype nlaType) (by rw [region, len]; exact collected)
  rw [found]
  refine ⟨fun put isFirst => ?_, fun absent => ?_⟩
  · have puttable := each put (List.mem_of_find?_eq_some isFirst)
    have size : NLA_HDRLEN + nlaAlign (put.2.bytes libnl.order).length ≤ _ := puttable.size
    rw [nlaAlign_eq] at size
    rw [isFirst] at same
    cases isRef : refs.find? fun ref => typeOf ref == attrtype nlaType with
    | none =>
        rw [isRef] at same
        cases same
    | some ref =>
        rw [isRef] at same
        cases same with
        | some held =>
            obtain ⟨behind, rfl⟩ := held
            exact ⟨_, rfl, deref_attrOf .., readsAs_attrOf _ _ _ _ puttable.plain (by omega)⟩
  · rw [absent] at same
    cases isRef : refs.find? fun ref => typeOf ref == attrtype nlaType with
    | none => rfl
    | some ref =>
        rw [isRef] at same
        cases same

end RoundTrip

/-! ## A library that keeps the assumptions -/

/-- The walk of `NlaIter`, up to the first attribute of a type. -/
def Libnl.findFirst (libnl : Libnl) : NlaFind := fun memory remaining attrtype =>
  (((NlaIter.collect libnl ⟨memory, remaining⟩).getD []).find? fun attr =>
    typeOf attr == attrtype).map AttrRef.memory

theorem Libnl.lawful_findFirst (libnl : Libnl) : (Libnl.findFirst libnl).Lawful libnl := by
  intro iter attrs attrtype collected
  rw [Libnl.findFirst, collected, Option.getD_some]

/-- Values of every kind, one of a type that occurs before, and a string that is refused. -/
def sampleValues : List TypedValue :=
  [(1, .u16 0x1234), (2, .string "vlan"), (1, .u32 7), (3, .string "a\x00b"), (4, .flag),
    (5, .u64 0xdeadbeef), (6, .u8 255)]

theorem find_putValues_sampleValues :
    (∃ attr, findIn (Libnl.findFirst (.zeroPadding .big))
        (putValues (.zeroPadding .big) ⟨[]⟩ sampleValues).2 16 1 = some attr.memory ∧
      AttrRef.deref .big attr.memory = some attr ∧ ReadsAs .big attr (.u16 0x1234)) ∧
    findIn (Libnl.findFirst (.zeroPadding .big))
      (putValues (.zeroPadding .big) ⟨[]⟩ sampleValues).2 16 3 = none := by
  have finds (nlaType : UInt16) := find_putValues (Libnl.steady_zeroPadding .big)
    (Libnl.lawful_findFirst _) ⟨[]⟩ sampleValues (by decide) (by decide) nlaType
  exact ⟨(finds 1).1 (1, .u16 0x1234) (by decide), (finds 3).2 (by decide)⟩

end RbctlDsl.Netlink
