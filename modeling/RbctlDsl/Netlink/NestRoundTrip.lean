import RbctlDsl.Netlink.Nesting

/-!
# Round trip of nested attributes

`NlaIter` stops in front of every attribute of an encoding, so that reading the payloads of the
nested ones in the same way gives the tree back.
-/

namespace RbctlDsl.Netlink

open RbctlDsl.Lib

section Definitions

variable (libnl : Libnl)

/-- All that an iterator yields.  A nested attribute is read through an iterator over its payload,
and the fuel bounds the number of steps of all of them. -/
def readAttrs : Nat → NlaIter → Option Attrs
  | 0, _ => none
  | fuel + 1, iter => do
      match ← iter.next libnl with
      | (none, _) => some .nil
      | (some attr, iter) =>
          let len ← payloadLen attr
          if attr.header.nlaType &&& 0x8000 = 0 then do
            let payload ← slice? (dataPtr attr) 0 len
            let rest ← readAttrs fuel iter
            some (.leaf ⟨attr.header.nlaType, payload⟩ rest)
          else do
            let children ← readAttrs fuel (.new (dataPtr attr) len)
            let rest ← readAttrs fuel iter
            some (.nest (attr.header.nlaType &&& 0x7fff) children rest)

/-- The region of a message behind an offset from its `nlmsghdr`, read to its end. -/
def readRegion (msg : NlMsg) (start : Nat) : Option Attrs :=
  let len := msg.nlmsgLen - start
  readAttrs libnl (len + 1) (.new (msg.payload.drop (start - NLMSG_HDRLEN)) len)

end Definitions

variable {libnl : Libnl}

/-! ## The flag of a nested attribute -/

theorem and_flag {nlaType : UInt16} (below : nlaType < 0x4000) : nlaType &&& 0x8000 = 0 := by
  have bound : nlaType.toNat < 2 ^ 15 := Nat.lt_trans below (by decide)
  apply UInt16.toNat_inj.mp
  apply Nat.eq_of_testBit_eq
  intro i
  rw [UInt16.toNat_and, Nat.testBit_and]
  show (nlaType.toNat.testBit i && (2 ^ 15).testBit i) = (0 : Nat).testBit i
  rw [Nat.testBit_two_pow, Nat.zero_testBit]
  by_cases at15 : 15 = i
  · rw [← at15, Nat.testBit_lt_two_pow bound, Bool.false_and]
  · rw [decide_eq_false at15, Bool.and_false]

theorem or_flag_and_flag {nlaType : UInt16} (below : nlaType < 0x4000) :
    (nlaType ||| 0x8000) &&& 0x8000 ≠ 0 := by
  have distributed : (nlaType ||| 0x8000) &&& 0x8000 = nlaType &&& 0x8000 ||| 0x8000 &&& 0x8000 :=
    UInt16.toBitVec_inj.mp BitVec.and_or_distrib_right
  rw [distributed, and_flag below]
  decide

theorem or_flag_and_mask {nlaType : UInt16} (below : nlaType < 0x4000) :
    (nlaType ||| 0x8000) &&& 0x7fff = nlaType := by
  have bound : nlaType.toNat < 2 ^ 15 := Nat.lt_trans below (by decide)
  apply UInt16.toNat_inj.mp
  rw [UInt16.toNat_and, UInt16.toNat_or]
  show (nlaType.toNat ||| 2 ^ 15) &&& (2 ^ 15 - 1) = nlaType.toNat
  rw [Nat.and_or_distrib_right, Nat.and_two_pow_sub_one_eq_mod, Nat.and_two_pow_sub_one_eq_mod,
    Nat.mod_self, Nat.or_zero, Nat.mod_eq_of_lt bound]

/-! ## Reading -/

section Reading

theorem readAttrs_zero {fuel : Nat} (enough : 0 < fuel) (start : Bytes) :
    readAttrs libnl fuel (.new start 0) = some .nil := by
  cases fuel with
  | zero => cases enough
  | succ fuel => rfl

theorem ofNat_not_le_zero {len : Nat} (pos : 0 < len) (small : len < 2 ^ 31) :
    ¬Int32.ofNat len ≤ 0 := by
  rw [Int32.le_iff_toInt_le, Int32.toInt_ofNat_of_lt small]
  exact Int.not_le.mpr (Int.ofNat_lt.mpr pos)

/-- An attribute with a payload of `len` bytes, and the memory behind its header. -/
def attrOf (order : ByteOrder) (nlaType : UInt16) (len : Nat) (behind : Bytes) : AttrRef :=
  let header := ⟨.ofNat (NLA_HDRLEN + len), nlaType⟩
  ⟨header, header.bytes order ++ behind⟩

section

variable (order : ByteOrder) (nlaType : UInt16) (len : Nat) (behind : Bytes)

@[simp] theorem nlaType_attrOf : (attrOf order nlaType len behind).header.nlaType = nlaType := rfl

@[simp] theorem dataPtr_attrOf : dataPtr (attrOf order nlaType len behind) = behind :=
  List.drop_left' (Nlattr.length_bytes ..)

theorem deref_attrOf :
    AttrRef.deref order (attrOf order nlaType len behind).memory =
      some (attrOf order nlaType len behind) :=
  AttrRef.deref_bytes ..

variable {len} (fits : NLA_HDRLEN + len < 65536)

include fits

theorem nlaLen_attrOf :
    (attrOf order nlaType len behind).header.nlaLen.toNat = NLA_HDRLEN + len :=
  UInt16.toNat_ofNat_of_lt' fits

theorem payloadLen_attrOf : payloadLen (attrOf order nlaType len behind) = some len := by
  rw [payloadLen, nlaLen_attrOf order nlaType behind fits, if_pos (Nat.le_add_right _ _),
    Nat.add_sub_cancel_left]

end

/-- An iterator in front of an attribute yields it, and then stands behind its padded payload. -/
theorem next_attrOf (lawful : libnl.Lawful) (nlaType : UInt16) {len rest : Nat}
    {body : Bytes} (tail : Bytes) (padded : nlaAlign len = body.length)
    (fits : NLA_HDRLEN + body.length + rest < 65536) :
    NlaIter.next libnl
        (.new (attrOf libnl.order nlaType len (body ++ tail)).memory
          (NLA_HDRLEN + body.length + rest)) =
      some (some (attrOf libnl.order nlaType len (body ++ tail)), .new tail rest) := by
  have covered : len ≤ body.length := by
    rw [← padded, nlaAlign_eq]
    omega
  have nlaLen := nlaLen_attrOf libnl.order nlaType (body ++ tail)
    (by omega : NLA_HDRLEN + len < 65536)
  have total : nlaAlign (NLA_HDRLEN + len) = NLA_HDRLEN + body.length := by
    rw [← padded, nlaAlign_eq, nlaAlign_eq, NLA_HDRLEN]
    omega
  have small : NLA_HDRLEN + body.length + rest < 2 ^ 31 := by omega
  have remains := ofNat_not_le_zero (by rw [NLA_HDRLEN]; omega) small
  have found := deref_attrOf libnl.order nlaType len (body ++ tail)
  have ok : libnl.nlaOk (attrOf libnl.order nlaType len (body ++ tail)).memory
      (.ofNat (NLA_HDRLEN + body.length + rest)) ≠ 0 := by
    rw [lawful.nlaOk_iff _ _ _ found, Int32.toInt_ofNat_of_lt small, nlaLen]
    simp only [NLA_HDRLEN]
    omega
  have behind : (attrOf libnl.order nlaType len (body ++ tail)).memory.drop
      (NLA_HDRLEN + body.length) = tail := by
    rw [← List.drop_drop]
    show (dataPtr (attrOf libnl.order nlaType len (body ++ tail))).drop body.length = tail
    rw [dataPtr_attrOf, List.drop_left]
  simp only [NlaIter.next, NlaIter.new, if_neg remains, if_neg ok, found, Option.bind_eq_bind,
    Option.bind_some, nlaLen, total, behind]
  rw [← Int32.ofNat_sub _ _ (Nat.le_add_right _ _), Nat.add_sub_cancel_left]

theorem readAttrs_leaf {fuel : Nat} {iter iter' : NlaIter} {attr : Attr} {behind : Bytes}
    {rest : Attrs} (below : attr.nlaType < 0x4000)
    (fits : NLA_HDRLEN + attr.payload.length < 65536)
    (yielded : iter.next libnl =
      some (some (attrOf libnl.order attr.nlaType attr.payload.length (attr.payload ++ behind)),
        iter'))
    (readRest : readAttrs libnl fuel iter' = some rest) :
    readAttrs libnl (fuel + 1) iter = some (.leaf attr rest) := by
  have payload : slice? (attr.payload ++ behind) 0 attr.payload.length = some attr.payload :=
    slice?_middle [] attr.payload behind 0 attr.payload.length rfl (Nat.zero_add _)
  simp only [readAttrs, yielded, Option.bind_eq_bind, Option.bind_some,
    payloadLen_attrOf _ _ _ fits, nlaType_attrOf, and_flag below, if_true, dataPtr_attrOf, payload,
    readRest]

theorem readAttrs_nest {fuel : Nat} {iter iter' : NlaIter} {nlaType : UInt16} {len : Nat}
    {behind : Bytes} {children rest : Attrs} (below : nlaType < 0x4000)
    (fits : NLA_HDRLEN + len < 65536)
    (yielded : iter.next libnl =
      some (some (attrOf libnl.order (nlaType ||| 0x8000) len behind), iter'))
    (readChildren : readAttrs libnl fuel (.new behind len) = some children)
    (readRest : readAttrs libnl fuel iter' = some rest) :
    readAttrs libnl (fuel + 1) iter = some (.nest nlaType children rest) := by
  simp only [readAttrs, yielded, Option.bind_eq_bind, Option.bind_some,
    payloadLen_attrOf _ _ _ fits, nlaType_attrOf, if_neg (or_flag_and_flag below),
    or_flag_and_mask below, dataPtr_attrOf, readChildren, readRest]

/-- Every encoding of a tree is read as the tree, whatever stands behind it. -/
theorem readAttrs_encodes (lawful : libnl.Lawful) {attrs : Attrs} {bytes : Bytes}
    (encodes : Encodes libnl.order attrs bytes) (fits : bytes.length < 65536) (after : Bytes)
    (fuel : Nat) (enough : bytes.length < fuel) :
    readAttrs libnl fuel (.new (bytes ++ after) bytes.length) = some attrs := by
  induction encodes generalizing after fuel with
  | nil => exact readAttrs_zero enough after
  | @leaf attr rest padding bytes below padded encodes ih =>
      obtain ⟨fuel, rfl⟩ : ∃ less, fuel = less + 1 := ⟨fuel - 1, by omega⟩
      have size : nlaAlign attr.payload.length = (attr.payload ++ padding).length := by
        rw [List.length_append, padded]
      rw [List.length_append, List.length_append, Nlattr.length_bytes] at fits enough ⊢
      have yielded := next_attrOf lawful attr.nlaType (bytes ++ after) size fits
      have readRest := ih (by omega) after fuel (by omega)
      rw [List.length_append] at fits
      rw [List.append_assoc] at yielded
      refine readAttrs_leaf below (by rw [NLA_HDRLEN]; omega) (Eq.trans ?_ yielded) readRest
      simp [attrOf, NLA_HDRLEN]
  | @nest nlaType children rest inner bytes below nested encodes ihInner ihRest =>
      obtain ⟨fuel, rfl⟩ : ∃ less, fuel = less + 1 := ⟨fuel - 1, by omega⟩
      have size : nlaAlign inner.length = inner.length := by
        have whole := nested.length_mod
        rw [nlaAlign_eq]
        omega
      rw [List.length_append, List.length_append, Nlattr.length_bytes] at fits enough ⊢
      have yielded := next_attrOf lawful (nlaType ||| 0x8000) (bytes ++ after) size fits
      have readChildren := ihInner (by omega) (bytes ++ after) fuel (by omega)
      have readRest := ihRest (by omega) after fuel (by omega)
      refine readAttrs_nest below (by rw [NLA_HDRLEN]; omega) (Eq.trans ?_ yielded) readChildren
        readRest
      simp [attrOf, NLA_HDRLEN]

end Reading

/-! ## Round trip -/

/-- Bracketed calls of which none is refused close every attribute that they open, and what they
have appended to a message is read from there as their tree.  The bound is on the size that the
message ends with. -/
theorem nlaIter_reads_nesting (lawful : libnl.Lawful) {calls : List Call}
    (bracketed : WellBracketed calls) (below : ∀ call ∈ calls, TypeBelow 0x4000 call)
    {msg : NlMsg} (success : Builder.run libnl ⟨msg, []⟩ calls ≠ .error .refused)
    (fits : nlmsgAlign msg.nlmsgLen + (calls.map wireSize).sum ≤ 65535) :
    ∃ (attrs : Attrs) (msg' : NlMsg), attrs.tokens = calls ∧
      Builder.run libnl ⟨msg, []⟩ calls = .ok ⟨msg', []⟩ ∧
      nlmsgAlign msg'.nlmsgLen = nlmsgAlign msg.nlmsgLen + (calls.map wireSize).sum ∧
      readRegion libnl msg' (nlmsgAlign msg.nlmsgLen) = some attrs := by
  obtain ⟨attrs, rfl⟩ := wellBracketed_iff.mp bracketed
  obtain ⟨msg', bytes, ran, encodes, grown⟩ := run_tokens lawful attrs below (by omega) success
  obtain ⟨len, after, region⟩ := grown.region
  rw [← encodes.length_eq] at fits ⊢
  refine ⟨attrs, msg', rfl, ran, grown.nlmsgAlign_eq encodes.length_mod, ?_⟩
  rw [readRegion, region, len]
  exact readAttrs_encodes lawful encodes (by omega) after _ (Nat.lt_succ_self _)

/-! ## A library that keeps the assumptions -/

/-- It never fails, and pads with zeros. -/
def Libnl.zeroPadding (order : ByteOrder) : Libnl where
  order := order
  nlaPut msg attrtype attrlen data :=
    let len := attrlen.toNatClampNeg
    (0, ⟨msg.payload ++ List.replicate (nlmsgAlign msg.nlmsgLen - msg.nlmsgLen) 0 ++
      (Nlattr.bytes order ⟨.ofNat (NLA_HDRLEN + len), attrtype.toUInt32.toUInt16⟩ ++
        (data.take len ++ List.replicate (nlaAlign len - len) 0))⟩)
  nlaOk memory remaining :=
    match AttrRef.deref order memory with
    | some attr =>
        if 4 ≤ remaining.toInt ∧ 4 ≤ attr.header.nlaLen.toNat ∧
            attr.header.nlaLen.toNat ≤ remaining.toInt then 1 else 0
    | none => 0

theorem Libnl.lawful_zeroPadding (order : ByteOrder) : (Libnl.zeroPadding order).Lawful where
  nlaPut_appends := by
    intro msg attrtype attrlen data len value enough _
    have clamped : attrlen.toNatClampNeg = len := by
      rw [Int32.toNatClampNeg, value, Int.toNat_natCast]
    refine ⟨List.replicate (nlaAlign len - len) 0, ?_,
      List.replicate (nlmsgAlign msg.nlmsgLen - msg.nlmsgLen) 0, ?_, ?_⟩
    · rw [List.length_replicate, nlaAlign_eq]
      omega
    · rw [List.length_replicate, nlmsgAlign_eq]
      omega
    · simp only [Libnl.zeroPadding, clamped]
  nlaOk_iff := by
    intro memory remaining attr found
    have found : AttrRef.deref order memory = some attr := found
    simp only [Libnl.zeroPadding, found]
    split
    · next holds => exact iff_of_true (fun wrong => nomatch wrong) holds
    · next fails => exact iff_of_false (fun wrong => wrong rfl) fails

/-- Two levels of nesting, payloads that need padding, and an attribute behind the nested ones. -/
def sampleCalls : List Call :=
  [.opening 10, .item ⟨11, [0xcd, 0xab]⟩, .opening 13, .item ⟨12, [0x69, 0x6e, 0]⟩, .opening 14,
    .closing, .closing, .closing, .item ⟨99, []⟩]

theorem nlaIter_reads_nesting_sampleCalls :
    ∃ (attrs : Attrs) (msg' : NlMsg), attrs.tokens = sampleCalls ∧
      Builder.run (.zeroPadding .little) ⟨⟨[]⟩, []⟩ sampleCalls = .ok ⟨msg', []⟩ ∧
      nlmsgAlign msg'.nlmsgLen = nlmsgAlign NLMSG_HDRLEN + 32 ∧
      readRegion (.zeroPadding .little) msg' (nlmsgAlign NLMSG_HDRLEN) = some attrs := by
  have bracketed : WellBracketed sampleCalls := by decide
  have success : Builder.run (.zeroPadding .little) ⟨⟨[]⟩, []⟩ sampleCalls ≠ .error .refused := by
    decide
  exact nlaIter_reads_nesting (Libnl.lawful_zeroPadding .little) bracketed (by decide) success
    (by decide)

end RbctlDsl.Netlink
