import Mathlib.Algebra.GroupWithZero.Nat
import RbctlDsl.Lib.Forest
import RbctlDsl.Lib.Result
import RbctlDsl.Netlink.Attr

/-!
# Nested attributes on the wire

A bracketed sequence of `put`, `nest_start` and `nest_end` appends one encoding of its tree to a
message, and `NlaIter` reads the tree back from every encoding of it.  The bytes that pad a payload
are left open by libnl-tiny, so a tree has many encodings.
-/

namespace RbctlDsl.Netlink

open RbctlDsl.Lib

/-- Type and payload of an attribute that is not nested. -/
structure Attr where
  nlaType : UInt16
  payload : Bytes
  deriving DecidableEq, Repr

abbrev Attrs := Forest Attr UInt16

/-- `put`, `nest_start` and `nest_end` in this order. -/
abbrev Call := Token Attr UInt16

/-- The part of a message that a call is for. -/
def wireSize : Call → Nat
  | .item attr => NLA_HDRLEN + nlaAlign attr.payload.length
  | .opening _ => NLA_HDRLEN
  | .closing => 0

def TypeBelow (bound : UInt16) : Call → Prop
  | .item attr => attr.nlaType < bound
  | .opening nlaType => nlaType < bound
  | .closing => True

instance decidableTypeBelow (bound : UInt16) : DecidablePred (TypeBelow bound)
  | .item attr => inferInstanceAs (Decidable (attr.nlaType < bound))
  | .opening nlaType => inferInstanceAs (Decidable (nlaType < bound))
  | .closing => inferInstanceAs (Decidable True)

/-! ## Calls -/

section Calls

variable (libnl : Libnl)

/-- A message with its open attributes, of which the last one is the first to be closed. -/
structure Builder where
  msg : NlMsg
  nests : List Nest
  deriving DecidableEq, Repr

def attrtype (nlaType : UInt16) : Int32 := nlaType.toUInt32.toInt32

/-- Why a sequence of calls stops: `nla_put` fails, or something outside of the message or without
an open attribute is written to. -/
inductive Stop where
  | refused
  | outside
  deriving DecidableEq, Repr

def Builder.call (builder : Builder) : Call → Except Stop Builder
  | .item attr =>
      let result := put libnl builder.msg (attrtype attr.nlaType) attr.payload
      if result.1 < 0 then .error .refused else .ok ⟨result.2, builder.nests⟩
  | .opening nlaType =>
      match nestStart libnl builder.msg (attrtype nlaType) with
      | none => .error .refused
      | some (nest, msg) => .ok ⟨msg, nest :: builder.nests⟩
  | .closing =>
      match builder.nests with
      | [] => .error .outside
      | nest :: nests =>
          match nestEnd libnl builder.msg nest with
          | none => .error .outside
          | some msg => .ok ⟨msg, nests⟩

def Builder.run (builder : Builder) : List Call → Except Stop Builder
  | [] => .ok builder
  | call :: calls => do
      let builder ← builder.call libnl call
      builder.run calls

theorem Builder.run_append (builder : Builder) (calls more : List Call) :
    builder.run libnl (calls ++ more) =
      builder.run libnl calls >>= fun builder => builder.run libnl more := by
  induction calls generalizing builder with
  | nil => rfl
  | cons call calls ih =>
      simp only [List.cons_append, Builder.run]
      cases builder.call libnl call with
      | error stop => rfl
      | ok builder => exact ih builder

end Calls

/-! ## Encodings -/

section Encodings

variable (order : ByteOrder)

/-- A header as it stands in memory. -/
def Nlattr.bytes (header : Nlattr) : Bytes :=
  neBytes16 order header.nlaLen ++ neBytes16 order header.nlaType

@[simp] theorem Nlattr.length_bytes (header : Nlattr) : (header.bytes order).length = 4 := by
  simp [Nlattr.bytes]

theorem AttrRef.deref_bytes (header : Nlattr) (after : Bytes) :
    AttrRef.deref order (header.bytes order ++ after) =
      some ⟨header, header.bytes order ++ after⟩ := by
  have first := ne16At?_append order [] (neBytes16 order header.nlaType ++ after)
    header.nlaLen 0 rfl
  have second := ne16At?_append order (neBytes16 order header.nlaLen) after
    header.nlaType 2 (length_neBytes16 ..)
  rw [List.nil_append] at first
  rw [AttrRef.deref, Nlattr.bytes, List.append_assoc, first, second]
  rfl

/-- The byte strings that a tree of attributes may be written as. -/
inductive Encodes : Attrs → Bytes → Prop where
  | nil : Encodes .nil []
  | leaf {attr : Attr} {rest : Attrs} {padding bytes : Bytes}
      (below : attr.nlaType < 0x4000)
      (padded : attr.payload.length + padding.length = nlaAlign attr.payload.length)
      (encodes : Encodes rest bytes) :
      Encodes (.leaf attr rest)
        (Nlattr.bytes order ⟨.ofNat (NLA_HDRLEN + attr.payload.length), attr.nlaType⟩ ++
          (attr.payload ++ padding) ++ bytes)
  | nest {nlaType : UInt16} {children rest : Attrs} {inner bytes : Bytes}
      (below : nlaType < 0x4000)
      (nested : Encodes children inner) (encodes : Encodes rest bytes) :
      Encodes (.nest nlaType children rest)
        (Nlattr.bytes order ⟨.ofNat (NLA_HDRLEN + inner.length), nlaType ||| 0x8000⟩ ++
          inner ++ bytes)

variable {order}

/-- All encodings of a tree are of one length, a multiple of four. -/
theorem Encodes.length_eq {attrs : Attrs} {bytes : Bytes} (encodes : Encodes order attrs bytes) :
    bytes.length = (attrs.tokens.map wireSize).sum := by
  induction encodes with
  | nil => rfl
  | leaf below padded _ ih =>
      simp only [List.length_append, Nlattr.length_bytes, Forest.tokens, List.map_cons,
        List.sum_cons, wireSize, NLA_HDRLEN]
      omega
  | nest below _ _ inner outer =>
      simp only [List.length_append, Nlattr.length_bytes, Forest.tokens, List.map_cons,
        List.map_append, List.sum_cons, List.sum_append, wireSize, NLA_HDRLEN]
      omega

theorem Encodes.length_mod {attrs : Attrs} {bytes : Bytes} (encodes : Encodes order attrs bytes) :
    bytes.length % 4 = 0 := by
  induction encodes with
  | nil => rfl
  | leaf below padded _ ih =>
      rw [nlaAlign_eq] at padded
      simp only [List.length_append, Nlattr.length_bytes]
      omega
  | nest below _ _ inner outer =>
      simp only [List.length_append, Nlattr.length_bytes]
      omega

end Encodings

/-! ## Appending -/

/-- `bytes` begin at the aligned end of `msg`, and `msg'` ends with them. -/
def Appended (msg : NlMsg) (bytes : Bytes) (msg' : NlMsg) : Prop :=
  ∃ gap : Bytes, msg.nlmsgLen + gap.length = nlmsgAlign msg.nlmsgLen ∧
    msg'.payload = msg.payload ++ gap ++ bytes

/-- What is assumed of libnl-tiny.  A `nla_put` that does not fail appends the header and `attrlen`
bytes of the data at the aligned end, and pads them.  `nla_ok` compares the length in a header with
its least value and with `remaining`. -/
structure Libnl.Lawful (libnl : Libnl) : Prop where
  nlaPut_appends : ∀ (msg : NlMsg) (attrtype attrlen : Int32) (data : Bytes) (len : Nat),
    attrlen.toInt = len → len ≤ data.length →
    ¬(libnl.nlaPut msg attrtype attrlen data).1 < 0 →
    ∃ padding : Bytes, len + padding.length = nlaAlign len ∧
      Appended msg
        (Nlattr.bytes libnl.order ⟨.ofNat (NLA_HDRLEN + len), attrtype.toUInt32.toUInt16⟩ ++
          (data.take len ++ padding))
        (libnl.nlaPut msg attrtype attrlen data).2
  nlaOk_iff : ∀ (memory : Bytes) (remaining : Int32) (attr : AttrRef),
    AttrRef.deref libnl.order memory = some attr →
    (libnl.nlaOk memory remaining ≠ 0 ↔
      4 ≤ remaining.toInt ∧ 4 ≤ attr.header.nlaLen.toNat ∧
        attr.header.nlaLen.toNat ≤ remaining.toInt)

namespace Appended

variable {msg msg' msg'' : NlMsg} {bytes more : Bytes}

theorem nlmsgLen_eq (appended : Appended msg bytes msg') :
    msg'.nlmsgLen = nlmsgAlign msg.nlmsgLen + bytes.length := by
  obtain ⟨gap, filled, payload⟩ := appended
  rw [← filled, NlMsg.nlmsgLen, payload, NlMsg.nlmsgLen]
  simp only [List.length_append]
  omega

theorem nlmsgAlign_eq (appended : Appended msg bytes msg') (whole : bytes.length % 4 = 0) :
    nlmsgAlign msg'.nlmsgLen = nlmsgAlign msg.nlmsgLen + bytes.length := by
  rw [appended.nlmsgLen_eq, Netlink.nlmsgAlign_eq, Netlink.nlmsgAlign_eq]
  omega

/-- The second string follows the first one without a gap. -/
theorem trans (first : Appended msg bytes msg') (whole : bytes.length % 4 = 0)
    (second : Appended msg' more msg'') : Appended msg (bytes ++ more) msg'' := by
  have aligned := first.nlmsgAlign_eq whole
  rw [← first.nlmsgLen_eq] at aligned
  obtain ⟨gap, filled, payload⟩ := first
  obtain ⟨gap', filled', payload'⟩ := second
  rw [aligned] at filled'
  cases List.length_eq_zero_iff.mp (Nat.add_left_cancel filled' : gap'.length = 0)
  exact ⟨gap, filled, by rw [payload', payload]; simp⟩

end Appended

/-- A string that may be empty: nothing is appended then, and no gap is filled. -/
def Grown (msg : NlMsg) (bytes : Bytes) (msg' : NlMsg) : Prop :=
  bytes = [] ∧ msg' = msg ∨ Appended msg bytes msg'

theorem Grown.nlmsgAlign_eq {msg msg' : NlMsg} {bytes : Bytes} (grown : Grown msg bytes msg')
    (whole : bytes.length % 4 = 0) :
    nlmsgAlign msg'.nlmsgLen = nlmsgAlign msg.nlmsgLen + bytes.length := by
  rcases grown with ⟨rfl, rfl⟩ | appended
  · rfl
  · exact appended.nlmsgAlign_eq whole

/-- The region behind the aligned end of the first message. -/
theorem Grown.region {msg msg' : NlMsg} {bytes : Bytes} (grown : Grown msg bytes msg') :
    msg'.nlmsgLen - nlmsgAlign msg.nlmsgLen = bytes.length ∧
      ∃ after, msg'.payload.drop (nlmsgAlign msg.nlmsgLen - NLMSG_HDRLEN) = bytes ++ after := by
  rcases grown with ⟨rfl, rfl⟩ | appended
  · refine ⟨Nat.sub_eq_zero_of_le ?_, _, rfl⟩
    rw [Netlink.nlmsgAlign_eq]
    omega
  · refine ⟨by rw [appended.nlmsgLen_eq, Nat.add_sub_cancel_left], [], ?_⟩
    obtain ⟨gap, filled, payload⟩ := appended
    rw [payload, List.append_nil]
    apply List.drop_left'
    rw [← filled, NlMsg.nlmsgLen, List.length_append]
    omega

theorem Appended.grown {msg msg' msg'' : NlMsg} {bytes more : Bytes}
    (first : Appended msg bytes msg') (second : Grown msg' more msg'')
    (whole : (bytes ++ more).length % 4 = 0) (rest : more.length % 4 = 0) :
    Appended msg (bytes ++ more) msg'' := by
  rcases second with ⟨rfl, rfl⟩ | second
  · rwa [List.append_nil]
  · rw [List.length_append] at whole
    exact first.trans (by omega) second

/-! ## Writing -/

section Writing

variable {libnl : Libnl} {builder : Builder}

@[simp] theorem toUInt16_attrtype (nlaType : UInt16) :
    (attrtype nlaType).toUInt32.toUInt16 = nlaType := by
  simp [attrtype]

theorem toUInt16_attrtype_nested (nlaType : UInt16) :
    (attrtype nlaType ||| NLA_F_NESTED).toUInt32.toUInt16 = nlaType ||| 0x8000 := by
  rw [Int32.toUInt32_or, UInt32.toUInt16_or, toUInt16_attrtype]
  rfl

/-- A length below `2^31` survives `as i32`. -/
theorem put_appends (lawful : libnl.Lawful) {msg : NlMsg} {attrtype : Int32} (data : Bytes)
    (small : data.length < 2 ^ 31) (success : ¬(put libnl msg attrtype data).1 < 0) :
    ∃ padding : Bytes, data.length + padding.length = nlaAlign data.length ∧
      Appended msg
        (Nlattr.bytes libnl.order ⟨.ofNat (NLA_HDRLEN + data.length), attrtype.toUInt32.toUInt16⟩ ++
          (data ++ padding))
        (put libnl msg attrtype data).2 := by
  have appends := lawful.nlaPut_appends msg attrtype (.ofNat data.length) data data.length
    (Int32.toInt_ofNat_of_lt small) (Nat.le_refl _) success
  rwa [List.take_length] at appends

/-- What comes after a call does not make up for its failure. -/
theorem ne_refused_of_bind {first : Except Stop Builder} {rest : Builder → Except Stop Builder}
    (success : first >>= rest ≠ .error .refused) : first ≠ .error .refused := by
  rintro rfl
  exact success rfl

theorem call_item (lawful : libnl.Lawful) {attr : Attr} (small : attr.payload.length < 2 ^ 31)
    (success : builder.call libnl (.item attr) ≠ .error .refused) :
    ∃ msg padding, builder.call libnl (.item attr) = .ok ⟨msg, builder.nests⟩ ∧
      attr.payload.length + padding.length = nlaAlign attr.payload.length ∧
      Appended builder.msg
        (Nlattr.bytes libnl.order ⟨.ofNat (NLA_HDRLEN + attr.payload.length), attr.nlaType⟩ ++
          (attr.payload ++ padding))
        msg := by
  simp only [Builder.call] at success ⊢
  split at success
  · exact (success rfl).elim
  · next accepted =>
      obtain ⟨padding, padded, appended⟩ := put_appends lawful attr.payload small accepted
      rw [toUInt16_attrtype] at appended
      exact ⟨_, padding, if_neg accepted, padded, appended⟩

theorem call_opening (lawful : libnl.Lawful) {nlaType : UInt16}
    (success : builder.call libnl (.opening nlaType) ≠ .error .refused) :
    ∃ msg, builder.call libnl (.opening nlaType) =
        .ok ⟨msg, ⟨nlmsgAlign builder.msg.nlmsgLen⟩ :: builder.nests⟩ ∧
      Appended builder.msg (Nlattr.bytes libnl.order ⟨.ofNat NLA_HDRLEN, nlaType ||| 0x8000⟩)
        msg := by
  by_cases failed : (put libnl builder.msg (attrtype nlaType ||| NLA_F_NESTED) []).1 < 0
  · have started : nestStart libnl builder.msg (attrtype nlaType) = none := if_pos failed
    rw [Builder.call, started] at success
    exact (success rfl).elim
  · have started : nestStart libnl builder.msg (attrtype nlaType) = some _ := if_neg failed
    obtain ⟨padding, padded, appended⟩ := put_appends lawful [] (Nat.two_pow_pos 31) failed
    cases List.length_eq_zero_iff.mp (Nat.add_left_cancel padded : padding.length = 0)
    rw [toUInt16_attrtype_nested, List.append_nil, List.append_nil] at appended
    exact ⟨_, by rw [Builder.call, started]; rfl, appended⟩

/-- The header of an open attribute is found at its offset again, whatever has been appended behind
it, and gets the length up to the end of the message. -/
theorem nestEnd_appended {msg msg' : NlMsg} {header : Nlattr} {inner : Bytes}
    (appended : Appended msg (header.bytes libnl.order ++ inner) msg')
    (whole : inner.length % 4 = 0) :
    ∃ msg'', nestEnd libnl msg' ⟨nlmsgAlign msg.nlmsgLen⟩ = some msg'' ∧
      Appended msg
        (Nlattr.bytes libnl.order ⟨.ofNat (NLA_HDRLEN + inner.length), header.nlaType⟩ ++ inner)
        msg'' := by
  have aligned := appended.nlmsgAlign_eq (by simpa using by omega)
  obtain ⟨gap, filled, payload⟩ := appended
  have offset : (msg.payload ++ gap).length = nlmsgAlign msg.nlmsgLen - NLMSG_HDRLEN := by
    rw [← filled, NlMsg.nlmsgLen, List.length_append]
    omega
  have size : nlmsgAlign msg'.nlmsgLen - nlmsgAlign msg.nlmsgLen = NLA_HDRLEN + inner.length := by
    rw [aligned, List.length_append, Nlattr.length_bytes, NLA_HDRLEN]
    omega
  have inside : NLMSG_HDRLEN ≤ nlmsgAlign msg.nlmsgLen ∧
      nlmsgAlign msg.nlmsgLen ≤ nlmsgAlign msg'.nlmsgLen := by
    rw [aligned, ← filled, NlMsg.nlmsgLen]
    omega
  have patched := splice?_middle (msg.payload ++ gap) (neBytes16 libnl.order header.nlaLen)
    (neBytes16 libnl.order header.nlaType ++ inner)
    (neBytes16 libnl.order (.ofNat (NLA_HDRLEN + inner.length))) _ offset (by simp)
  rw [← List.append_assoc (neBytes16 _ _), ← Nlattr.bytes, ← payload] at patched
  simp only [nestEnd, if_pos inside, size, patched]
  exact ⟨_, rfl, gap, filled, by simp [Nlattr.bytes]⟩

/-- The calls of a tree append one of its encodings, and leave the attributes around it open.  No
`nest_end` among them writes outside of the message. -/
theorem run_tokens (lawful : libnl.Lawful) (attrs : Attrs)
    (below : ∀ call ∈ attrs.tokens, TypeBelow 0x4000 call)
    (small : (attrs.tokens.map wireSize).sum < 2 ^ 31)
    (success : builder.run libnl attrs.tokens ≠ .error .refused) :
    ∃ msg bytes, builder.run libnl attrs.tokens = .ok ⟨msg, builder.nests⟩ ∧
      Encodes libnl.order attrs bytes ∧ Grown builder.msg bytes msg := by
  induction attrs generalizing builder with
  | nil => exact ⟨builder.msg, [], rfl, .nil, .inl ⟨rfl, rfl⟩⟩
  | leaf attr rest ih =>
      simp only [Forest.tokens, List.forall_mem_cons] at below
      simp only [Forest.tokens, List.map_cons, List.sum_cons, wireSize, nlaAlign_eq] at small
      simp only [Forest.tokens, Builder.run] at success ⊢
      obtain ⟨next, padding, called, padded, appended⟩ :=
        call_item lawful (by omega) (ne_refused_of_bind success)
      rw [called] at success ⊢
      obtain ⟨msg, bytes, ran, encodes, grown⟩ := ih below.2 (by omega) success
      have encoded := Encodes.leaf below.1 padded encodes
      exact ⟨msg, _, ran, encoded,
        .inr (appended.grown grown encoded.length_mod encodes.length_mod)⟩
  | nest nlaType children rest inner outer =>
      simp only [Forest.tokens, List.forall_mem_cons, List.forall_mem_append] at below
      simp only [Forest.tokens, List.map_cons, List.map_append, List.sum_cons, List.sum_append,
        wireSize] at small
      simp only [Forest.tokens, Builder.run] at success ⊢
      obtain ⟨opened, opening, appended⟩ := call_opening lawful (ne_refused_of_bind success)
      rw [opening] at success ⊢
      simp only [ok_bind, Builder.run_append] at success ⊢
      obtain ⟨full, innerBytes, ranInner, nested, grown⟩ :=
        inner below.2.1 (by omega) (ne_refused_of_bind success)
      rw [ranInner] at success ⊢
      have filled : Appended builder.msg _ full :=
        appended.grown grown (by simp [nested.length_mod]) nested.length_mod
      obtain ⟨closed, ended, finished⟩ := nestEnd_appended filled nested.length_mod
      simp only [ok_bind, Builder.run, Builder.call, ended] at success ⊢
      obtain ⟨msg, bytes, ran, encodes, after⟩ := outer below.2.2.2 (by omega) success
      have encoded := Encodes.nest below.1 nested encodes
      exact ⟨msg, _, ran, encoded,
        .inr (finished.grown after encoded.length_mod encodes.length_mod)⟩

end Writing

end RbctlDsl.Netlink
