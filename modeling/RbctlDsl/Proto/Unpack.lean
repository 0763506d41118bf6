import RbctlDsl.Proto.Pack

/-!
# Reply payload decoders

`unpack.rs`: the replies of opcodes 2 and 4.
-/

namespace RbctlDsl.Proto

open RbctlDsl.Lib

/-- Board-reported link state.  Codes 0 and 2 both mean `noSignal`. -/
inductive LinkStatus where
  | noSignal | up | initializing | establishingLink
  | unknown (code : UInt8)
  deriving DecidableEq, Repr

def LinkStatus.fromCode (code : UInt8) : LinkStatus :=
  if code = 0 ∨ code = 2 then .noSignal
  else if code = 1 then .up
  else if code = 3 then .initializing
  else if code = 4 then .establishingLink
  else .unknown code

/-- Board-reported data path. -/
inductive DataPath where
  | atm | ptm
  | unknown (code : UInt8)
  deriving DecidableEq, Repr

def DataPath.fromCode (code : UInt8) : DataPath :=
  if code = 0 then .atm
  else if code = 1 then .ptm
  else .unknown code

def modulationFromCode (code : UInt8) : Option Modulation :=
  match code.toNat with
  | 0 => some .adslAnsiT1413
  | 1 => some .adslGdmt
  | 2 => some .adslGlite
  | 3 => some .adslGdmtBis
  | 4 => some .adsl2Plus
  | 5 => some .adslMultimode
  | 6 => some .vdsl2
  | 7 => some .multimode
  | _ => none

def annexFromCode (code : UInt8) : Option Annex :=
  match code.toNat with
  | 0 => some .a
  | 1 => some .b
  | 2 => some .i
  | 3 => some .m
  | 4 => some .al
  | 5 => some .alm
  | 6 => some .j
  | 7 => some .bj
  | 8 => some .auto
  | _ => none

@[simp] theorem modulationFromCode_code (modulation : Modulation) :
    modulationFromCode modulation.code = some modulation := by
  cases modulation <;> rfl

@[simp] theorem annexFromCode_code (annex : Annex) : annexFromCode annex.code = some annex := by
  cases annex <;> rfl

structure LineMetrics where
  downRate : UInt32
  upRate : UInt32
  upOutputPower : UInt32
  downOutputPower : UInt32
  upNoiseMargin : UInt32
  downNoiseMargin : UInt32
  upAttenuation : UInt32
  downAttenuation : UInt32
  upAttainableRate : UInt32
  downAttainableRate : UInt32
  upCrcErrors : UInt32
  downCrcErrors : UInt32
  deriving DecidableEq, Repr

/-- Parsed opcode-2 reply. -/
structure LineObj where
  status : UInt32
  linkStatus : LinkStatus
  modulationCode : UInt8
  dataPath : DataPath
  annexCode : UInt8
  vdsl2ProfileBitmask : UInt16
  isAtm : Bool
  uptimeSecs : UInt32
  metrics : LineMetrics
  deriving DecidableEq, Repr

namespace LineObj

/-- Typed modulation if the code is known. -/
def modulation (line : LineObj) : Option Modulation := modulationFromCode line.modulationCode

/-- Typed annex if the code is known. -/
def annex (line : LineObj) : Option Annex := annexFromCode line.annexCode

/-- Resolved VDSL2 profiles, for VDSL2 only. -/
def vdsl2Profiles (line : LineObj) : Option Vdsl2Profiles :=
  if line.modulationCode = Modulation.vdsl2.code then
    some ⟨line.vdsl2ProfileBitmask⟩
  else
    none

end LineObj

/-- The word at an offset that lies within a length already checked. -/
def u32At {data : Bytes} {length : Nat} (long : length ≤ data.length) (offset : Nat)
    (inside : offset + 4 ≤ length) : UInt32 :=
  (be32At? data offset).get ((be32At?_isSome_iff _ _).mpr (Nat.le_trans inside long))

def u16At {data : Bytes} {length : Nat} (long : length ≤ data.length) (offset : Nat)
    (inside : offset + 2 ≤ length) : UInt16 :=
  (be16At? data offset).get ((be16At?_isSome_iff _ _).mpr (Nat.le_trans inside long))

def u8At {data : Bytes} {length : Nat} (long : length ≤ data.length) (offset : Nat)
    (inside : offset < length) : UInt8 :=
  data.get ⟨offset, Nat.lt_of_lt_of_le inside long⟩

/-- Parse a 63-byte opcode-2 reply. -/
def parseLineObj (data : Bytes) : Except String LineObj :=
  if long : 63 ≤ data.length then
    .ok {
      status := u32At long 0x00 (by decide)
      linkStatus := .fromCode (u8At long 0x04 (by decide))
      modulationCode := u8At long 0x05 (by decide)
      dataPath := .fromCode (u8At long 0x06 (by decide))
      annexCode := u8At long 0x07 (by decide)
      vdsl2ProfileBitmask := u16At long 0x39 (by decide)
      isAtm := u8At long 0x38 (by decide) != 0
      uptimeSecs := u32At long 0x3b (by decide)
      metrics := {
        downRate := u32At long 0x08 (by decide)
        upRate := u32At long 0x0c (by decide)
        upOutputPower := u32At long 0x10 (by decide)
        downOutputPower := u32At long 0x14 (by decide)
        upNoiseMargin := u32At long 0x18 (by decide)
        downNoiseMargin := u32At long 0x1c (by decide)
        upAttenuation := u32At long 0x20 (by decide)
        downAttenuation := u32At long 0x24 (by decide)
        upAttainableRate := u32At long 0x28 (by decide)
        downAttainableRate := u32At long 0x2c (by decide)
        upCrcErrors := u32At long 0x30 (by decide)
        downCrcErrors := u32At long 0x34 (by decide) } }
  else
    .error "line obj reply is 63 B"

/-- Parsed opcode-4 reply. -/
structure ChannelStats where
  status : UInt32
  receiveBlocks : UInt32
  receiveErrors : UInt32
  receiveDiscards : UInt32
  transmitBlocks : UInt32
  transmitErrors : UInt32
  transmitDiscards : UInt32
  deriving DecidableEq, Repr

/-- Parse a 28-byte opcode-4 reply. -/
def parseChannelStats (data : Bytes) : Except String ChannelStats :=
  if long : 28 ≤ data.length then
    .ok {
      status := u32At long 0x00 (by decide)
      receiveBlocks := u32At long 0x04 (by decide)
      receiveErrors := u32At long 0x08 (by decide)
      receiveDiscards := u32At long 0x0c (by decide)
      transmitBlocks := u32At long 0x10 (by decide)
      transmitErrors := u32At long 0x14 (by decide)
      transmitDiscards := u32At long 0x18 (by decide) }
  else
    .error "channel stats reply is 28 B"

/-- The decoders reject a reply exactly when it is too short. -/
theorem parseLineObj_isOk_iff (data : Bytes) :
    (parseLineObj data).isOk = true ↔ 63 ≤ data.length := by
  unfold parseLineObj
  split <;> simp_all [Except.isOk, Except.toBool]

theorem parseChannelStats_isOk_iff (data : Bytes) :
    (parseChannelStats data).isOk = true ↔ 28 ≤ data.length := by
  unfold parseChannelStats
  split <;> simp_all [Except.isOk, Except.toBool]

end RbctlDsl.Proto
