import RbctlDsl.Lib.Bytes

/-!
# Command payload encoders

`pack.rs`: the descriptors of opcodes 1, 5, 15, 6 and 16, and the enumerations they
carry.  All multi-byte fields are big-endian.
-/

namespace RbctlDsl.Proto

open RbctlDsl.Lib

/-- DSL modulation type. -/
inductive Modulation where
  | adslAnsiT1413 | adslGdmt | adslGlite | adslGdmtBis | adsl2Plus | adslMultimode
  | vdsl2 | multimode
  deriving DecidableEq, Repr

/-- `modulation as u8`. -/
def Modulation.code : Modulation → UInt8
  | .adslAnsiT1413 => 0
  | .adslGdmt => 1
  | .adslGlite => 2
  | .adslGdmtBis => 3
  | .adsl2Plus => 4
  | .adslMultimode => 5
  | .vdsl2 => 6
  | .multimode => 7

/-- DSL annex type. -/
inductive Annex where
  | a | b | i | m | al | alm | j | bj | auto
  deriving DecidableEq, Repr

/-- `annex as u8`. -/
def Annex.code : Annex → UInt8
  | .a => 0
  | .b => 1
  | .i => 2
  | .m => 3
  | .al => 4
  | .alm => 5
  | .j => 6
  | .bj => 7
  | .auto => 8

/-- VDSL2 profile bitmask. -/
structure Vdsl2Profiles where
  mask : UInt16
  deriving DecidableEq, Repr

namespace Vdsl2Profiles

def eightA : Vdsl2Profiles := ⟨0x001⟩
def eightB : Vdsl2Profiles := ⟨0x002⟩
def eightC : Vdsl2Profiles := ⟨0x004⟩
def eightD : Vdsl2Profiles := ⟨0x008⟩
def twelveA : Vdsl2Profiles := ⟨0x010⟩
def twelveB : Vdsl2Profiles := ⟨0x020⟩
def seventeenA : Vdsl2Profiles := ⟨0x040⟩
def thirtyA : Vdsl2Profiles := ⟨0x080⟩
def thirtyfiveB : Vdsl2Profiles := ⟨0x100⟩

/-- `Vdsl2Profiles::default()`: no profile. -/
def none : Vdsl2Profiles := ⟨0⟩

instance : OrOp Vdsl2Profiles := ⟨fun left right => ⟨left.mask ||| right.mask⟩⟩

/-- Bitmask value for the wire. -/
def bitmask (profiles : Vdsl2Profiles) : UInt32 := profiles.mask.toUInt32

protected theorem or_assoc (first second third : Vdsl2Profiles) :
    (first ||| second) ||| third = first ||| (second ||| third) :=
  congrArg mk (UInt16.or_assoc _ _ _)

protected theorem or_comm (first second : Vdsl2Profiles) : first ||| second = second ||| first :=
  congrArg mk (UInt16.or_comm _ _)

@[simp] protected theorem or_self (profiles : Vdsl2Profiles) : profiles ||| profiles = profiles :=
  congrArg mk UInt16.or_self

@[simp] protected theorem none_or (profiles : Vdsl2Profiles) : none ||| profiles = profiles :=
  congrArg mk UInt16.zero_or

@[simp] protected theorem or_none (profiles : Vdsl2Profiles) : profiles ||| none = profiles :=
  congrArg mk UInt16.or_zero

end Vdsl2Profiles

inductive AtmEncap where
  | llc | vcmux
  deriving DecidableEq, Repr

def AtmEncap.code : AtmEncap → UInt8
  | .llc => 0
  | .vcmux => 1

inductive AtmLinkType where
  | eoa | pppoa | ipoa
  deriving DecidableEq, Repr

def AtmLinkType.code : AtmLinkType → UInt8
  | .eoa => 0
  | .pppoa => 6
  | .ipoa => 7

/-- ATM QoS category.  The value 0 is unused. -/
inductive AtmQos where
  | ubr | cbr | vbrNrt | vbrRt
  deriving DecidableEq, Repr

def AtmQos.code : AtmQos → UInt8
  | .ubr => 1
  | .cbr => 2
  | .vbrNrt => 3
  | .vbrRt => 4

/-- Whether this category carries SCR/MBS fields. -/
def AtmQos.carriesScr : AtmQos → Bool
  | .vbrNrt | .vbrRt => true
  | .ubr | .cbr => false

/-- The profile bitmask is only sent for VDSL2 and Multimode. -/
def Modulation.carriesProfiles : Modulation → Bool
  | .vdsl2 | .multimode => true
  | _ => false

/-- Opcode 1: the 12-byte DSL line descriptor. -/
def packDslLine (modulation : Modulation) (annex : Annex) (bitswap sra : Bool)
    (profiles : Vdsl2Profiles) : Bytes :=
  let bitmask := if modulation.carriesProfiles then profiles.bitmask else 0
  [modulation.code, annex.code, bitswap.toUInt8, sra.toUInt8] ++
    (beBytes32 bitmask ++ [0, 0, 0, 0])

/-- Parameters of `packAtmLink`, with the values of `AtmLinkParams::default()`. -/
structure AtmLinkParams where
  vpi : UInt8 := 0
  vci : UInt16 := 0
  encap : AtmEncap := .llc
  linkType : AtmLinkType := .eoa
  qos : AtmQos := .ubr
  pcr : UInt32 := 0
  scr : UInt32 := 0
  mbs : UInt32 := 0
  vlanId : UInt16 := 0
  tagEnable : UInt8 := 0
  tagVid : UInt16 := 0xffff
  tagPri : UInt8 := 0xff
  deriving DecidableEq, Repr

/-- Opcode 5: the 24-byte ATM link descriptor. -/
def packAtmLink (p : AtmLinkParams) : Bytes :=
  let scr := if p.qos.carriesScr then p.scr else 0
  let mbs := if p.qos.carriesScr then p.mbs else 0
  [p.qos.code, p.vpi] ++ (beBytes16 p.vci ++ (beBytes32 p.pcr ++ (beBytes32 scr ++
    (beBytes32 mbs ++ ([p.encap.code, p.linkType.code] ++ (beBytes16 p.vlanId ++
      ([p.tagEnable] ++ (beBytes16 p.tagVid ++ [p.tagPri]))))))))

/-- Opcode 15: the 8-byte PTM link descriptor.  Byte 5 is reserved. -/
def packPtmLink (tagEnable : UInt8) (tagVid tagPri vlanId : UInt16) : Bytes :=
  [tagEnable] ++ (beBytes16 tagVid ++ (beBytes16 tagPri ++ ([0] ++ beBytes16 vlanId)))

/-- Opcodes 6 and 16: the 3-byte link-delete descriptor. -/
def packLinkDel (vlanId : UInt16) (opType : UInt8) : Bytes :=
  beBytes16 vlanId ++ [opType]

@[simp] theorem length_packDslLine (modulation : Modulation) (annex : Annex)
    (bitswap sra : Bool) (profiles : Vdsl2Profiles) :
    (packDslLine modulation annex bitswap sra profiles).length = 12 := rfl

@[simp] theorem length_packAtmLink (p : AtmLinkParams) : (packAtmLink p).length = 24 := rfl

@[simp] theorem length_packPtmLink (tagEnable : UInt8) (tagVid tagPri vlanId : UInt16) :
    (packPtmLink tagEnable tagVid tagPri vlanId).length = 8 := rfl

@[simp] theorem length_packLinkDel (vlanId : UInt16) (opType : UInt8) :
    (packLinkDel vlanId opType).length = 3 := rfl

end RbctlDsl.Proto
