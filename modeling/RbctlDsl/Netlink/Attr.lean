import RbctlDsl.Lib.Bytes

/-!
# Netlink attributes

`tinyln_rs::attr`: attributes are appended to a message through `nla_put` of libnl-tiny, a nested
one gets its length when it is closed, and `NlaIter` walks over a region of memory.

Both functions of libnl-tiny are parameters.  `none` is an access outside of the message, or a
subtraction below zero.
-/

namespace RbctlDsl.Netlink

open RbctlDsl.Lib

/-! ## Constants and alignment -/

/-- The size of a `nlmsghdr`. -/
def NLMSG_HDRLEN : Nat := 16

def NLMSG_ALIGNTO : Nat := 4

def NLA_ALIGNTO : Nat := 4

def NLA_HDRLEN : Nat := 4

def NLA_F_NESTED : Int32 := 0x8000

/-- The mask clears the bits below the alignment. -/
def nlmsgAlign (len : Nat) : Nat :=
  (len + NLMSG_ALIGNTO - 1) / NLMSG_ALIGNTO * NLMSG_ALIGNTO

def nlaAlign (len : Nat) : Nat :=
  (len + NLA_ALIGNTO - 1) / NLA_ALIGNTO * NLA_ALIGNTO

theorem nlmsgAlign_eq (len : Nat) : nlmsgAlign len = (len + 3) / 4 * 4 := rfl

theorem nlaAlign_eq (len : Nat) : nlaAlign len = (len + 3) / 4 * 4 := rfl

/-! ## Messages -/

/-- The message of an `nl_msg`: what stands behind its `nlmsghdr`, up to `nlmsg_len`. -/
structure NlMsg where
  payload : Bytes
  deriving DecidableEq, Repr

/-- `nlmsg_len`, which counts the `nlmsghdr` too. -/
def NlMsg.nlmsgLen (msg : NlMsg) : Nat := NLMSG_HDRLEN + msg.payload.length

structure Nlattr where
  nlaLen : UInt16
  nlaType : UInt16
  deriving DecidableEq, Repr

/-- What the code takes from libnl-tiny, and the byte order of the machine that both run on. -/
structure Libnl where
  order : ByteOrder
  /-- `nla_put` on a message, `attrtype`, `attrlen` and the memory at `data`. -/
  nlaPut : NlMsg → Int32 → Int32 → Bytes → Int32 × NlMsg
  /-- `nla_ok` on the memory at `nla`, and `remaining`. -/
  nlaOk : Bytes → Int32 → Int32

variable (libnl : Libnl)

/-! ## Writing -/

def put (msg : NlMsg) (attrtype : Int32) (data : Bytes) : Int32 × NlMsg :=
  libnl.nlaPut msg attrtype (.ofNat data.length) data

/-- An open attribute, by the offset of its header from the `nlmsghdr`. -/
structure Nest where
  offset : Nat
  deriving DecidableEq, Repr

/-- The result is without a message where `nla_put` fails. -/
def nestStart (msg : NlMsg) (attrtype : Int32) : Option (Nest × NlMsg) :=
  let offset := nlmsgAlign msg.nlmsgLen
  let result := libnl.nlaPut msg (attrtype ||| NLA_F_NESTED) 0 []
  if result.1 < 0 then none else some (⟨offset⟩, result.2)

/-- Writes `nla_len` of the attribute, which is the first field of its header. -/
def nestEnd (msg : NlMsg) (nest : Nest) : Option NlMsg :=
  let tail := nlmsgAlign msg.nlmsgLen
  if NLMSG_HDRLEN ≤ nest.offset ∧ nest.offset ≤ tail then do
    let size := tail - nest.offset
    let payload ← splice? msg.payload (nest.offset - NLMSG_HDRLEN)
      (neBytes16 libnl.order (.ofNat size))
    some ⟨payload⟩
  else
    none

/-! ## Reading -/

/-- A `&nlattr`: the header, and the memory from its first byte on. -/
structure AttrRef where
  header : Nlattr
  memory : Bytes
  deriving DecidableEq, Repr

/-- The reference to the `nlattr` at the start of some memory. -/
def AttrRef.deref (order : ByteOrder) (memory : Bytes) : Option AttrRef := do
  some ⟨⟨← ne16At? order memory 0, ← ne16At? order memory 2⟩, memory⟩

def dataPtr (attr : AttrRef) : Bytes := attr.memory.drop NLA_HDRLEN

def payloadLen (attr : AttrRef) : Option Nat :=
  if NLA_HDRLEN ≤ attr.header.nlaLen.toNat then
    some (attr.header.nlaLen.toNat - NLA_HDRLEN)
  else
    none

structure NlaIter where
  /-- The memory that `ptr` points to. -/
  memory : Bytes
  remaining : Int32
  deriving DecidableEq, Repr

def NlaIter.new (start : Bytes) (len : Nat) : NlaIter := ⟨start, .ofNat len⟩

/-- The item, if there is one, and the iterator after it. -/
def NlaIter.next (iter : NlaIter) : Option (Option AttrRef × NlaIter) :=
  if iter.remaining ≤ 0 then
    some (none, iter)
  else if libnl.nlaOk iter.memory iter.remaining = 0 then
    some (none, iter)
  else do
    let attr ← AttrRef.deref libnl.order iter.memory
    let total := nlaAlign attr.header.nlaLen.toNat
    some (some attr, ⟨iter.memory.drop total, iter.remaining - .ofNat total⟩)

end RbctlDsl.Netlink
