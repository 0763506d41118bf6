import RbctlDsl.Proto.Unpack
import RbctlDsl.Proto.Frame

/-!
# Reading command descriptors

The documented descriptors of opcodes 1, 5, 6, 15 and 16, read the other way: a decoder
takes each field from its documented offset.  The encoders of `pack.rs` are inverted by
these, up to the fields that they do not send.
-/

namespace RbctlDsl.Proto

open RbctlDsl.Lib

/-- A command with a descriptor. -/
inductive ConfigCommand where
  | lineConfigUp (modulation : Modulation) (annex : Annex) (profiles : Vdsl2Profiles)
      (bitswap sra : Bool)
  | atmLinkAdd (params : AtmLinkParams)
  | atmLinkDel (vlanId : UInt16)
  | ptmLinkAdd (tagEnable : UInt8) (tagVid tagPri vlanId : UInt16)
  | ptmLinkDel (vlanId : UInt16)
  deriving DecidableEq

namespace ConfigCommand

def opcode : ConfigCommand → UInt8
  | .lineConfigUp .. => 1
  | .atmLinkAdd _ => 5
  | .atmLinkDel _ => 6
  | .ptmLinkAdd .. => 15
  | .ptmLinkDel _ => 16

/-- The descriptor as `pack.rs` encodes it. -/
def descriptor : ConfigCommand → Bytes
  | .lineConfigUp modulation annex profiles bitswap sra =>
      packDslLine modulation annex bitswap sra profiles
  | .atmLinkAdd params => packAtmLink params
  | .atmLinkDel vlanId => packLinkDel vlanId 3
  | .ptmLinkAdd tagEnable tagVid tagPri vlanId => packPtmLink tagEnable tagVid tagPri vlanId
  | .ptmLinkDel vlanId => packLinkDel vlanId 3

/-- The parameters that are sent: no profiles outside of VDSL2 and Multimode, and no SCR and
MBS outside of VBR. -/
def canonical : ConfigCommand → ConfigCommand
  | .lineConfigUp modulation annex profiles bitswap sra =>
      .lineConfigUp modulation annex (if modulation.carriesProfiles then profiles else .none)
        bitswap sra
  | .atmLinkAdd params =>
      .atmLinkAdd { params with
        scr := if params.qos.carriesScr then params.scr else 0
        mbs := if params.qos.carriesScr then params.mbs else 0 }
  | command => command

end ConfigCommand

/-! ## Code tables -/

def flagFromCode (code : UInt8) : Option Bool :=
  match code.toNat with
  | 0 => some false
  | 1 => some true
  | _ => none

def qosFromCode (code : UInt8) : Option AtmQos :=
  match code.toNat with
  | 1 => some .ubr
  | 2 => some .cbr
  | 3 => some .vbrNrt
  | 4 => some .vbrRt
  | _ => none

def encapFromCode (code : UInt8) : Option AtmEncap :=
  match code.toNat with
  | 0 => some .llc
  | 1 => some .vcmux
  | _ => none

def linkTypeFromCode (code : UInt8) : Option AtmLinkType :=
  match code.toNat with
  | 0 => some .eoa
  | 6 => some .pppoa
  | 7 => some .ipoa
  | _ => none

/-- A bitmask word that names no bit outside of the profile table's type. -/
def profilesFromBitmask (bitmask : UInt32) : Option Vdsl2Profiles :=
  if bitmask.toNat < 65536 then some ⟨bitmask.toUInt16⟩ else none

@[simp] theorem flagFromCode_toUInt8 (flag : Bool) : flagFromCode flag.toUInt8 = some flag := by
  cases flag <;> rfl

@[simp] theorem qosFromCode_code (qos : AtmQos) : qosFromCode qos.code = some qos := by
  cases qos <;> rfl

@[simp] theorem encapFromCode_code (encap : AtmEncap) :
    encapFromCode encap.code = some encap := by
  cases encap <;> rfl

@[simp] theorem linkTypeFromCode_code (linkType : AtmLinkType) :
    linkTypeFromCode linkType.code = some linkType := by
  cases linkType <;> rfl

@[simp] theorem profilesFromBitmask_bitmask (profiles : Vdsl2Profiles) :
    profilesFromBitmask profiles.bitmask = some profiles := by
  have small : profiles.bitmask.toNat < 65536 := by
    rw [Vdsl2Profiles.bitmask, UInt16.toNat_toUInt32]
    exact profiles.mask.toNat_lt
  have same : profiles.bitmask.toUInt16 = profiles.mask := by
    rw [Vdsl2Profiles.bitmask, UInt16.toUInt16_toUInt32]
  rw [profilesFromBitmask, if_pos small, same]

/-! ## Decoders -/

def decodeDslLine (descriptor : Bytes) : Option ConfigCommand := do
  let modulation ← modulationFromCode (← descriptor[0x00]?)
  let annex ← annexFromCode (← descriptor[0x01]?)
  let bitswap ← flagFromCode (← descriptor[0x02]?)
  let sra ← flagFromCode (← descriptor[0x03]?)
  let profiles ← profilesFromBitmask (← be32At? descriptor 0x04)
  return .lineConfigUp modulation annex profiles bitswap sra

def decodeAtmLink (descriptor : Bytes) : Option ConfigCommand := do
  let qos ← qosFromCode (← descriptor[0x00]?)
  let vpi ← descriptor[0x01]?
  let vci ← be16At? descriptor 0x02
  let pcr ← be32At? descriptor 0x04
  let scr ← be32At? descriptor 0x08
  let mbs ← be32At? descriptor 0x0c
  let encap ← encapFromCode (← descriptor[0x10]?)
  let linkType ← linkTypeFromCode (← descriptor[0x11]?)
  let vlanId ← be16At? descriptor 0x12
  let tagEnable ← descriptor[0x14]?
  let tagVid ← be16At? descriptor 0x15
  let tagPri ← descriptor[0x17]?
  return .atmLinkAdd {
    vpi, vci, encap, linkType, qos, pcr, scr, mbs, vlanId, tagEnable, tagVid, tagPri }

def decodePtmLink (descriptor : Bytes) : Option ConfigCommand := do
  let tagEnable ← descriptor[0x00]?
  let tagVid ← be16At? descriptor 0x01
  let tagPri ← be16At? descriptor 0x03
  let vlanId ← be16At? descriptor 0x06
  return .ptmLinkAdd tagEnable tagVid tagPri vlanId

/-- The VLAN id of a descriptor whose type says delete. -/
def decodeLinkDel (descriptor : Bytes) : Option UInt16 := do
  let vlanId ← be16At? descriptor 0x00
  guard (descriptor[0x02]? = some 3)
  return vlanId

/-- The documented size of the descriptor of an opcode, and its decoder. -/
def descriptorOf (opcode : UInt8) : Option (Nat × (Bytes → Option ConfigCommand)) :=
  match opcode.toNat with
  | 1 => some (12, decodeDslLine)
  | 5 => some (24, decodeAtmLink)
  | 6 => some (3, fun descriptor => (decodeLinkDel descriptor).map .atmLinkDel)
  | 15 => some (8, decodePtmLink)
  | 16 => some (3, fun descriptor => (decodeLinkDel descriptor).map .ptmLinkDel)
  | _ => none

theorem decodeDslLine_packDslLine (modulation : Modulation) (annex : Annex)
    (bitswap sra : Bool) (profiles : Vdsl2Profiles) :
    decodeDslLine (packDslLine modulation annex bitswap sra profiles) =
      some (ConfigCommand.lineConfigUp modulation annex profiles bitswap sra).canonical := by
  have sent : (if modulation.carriesProfiles then profiles.bitmask else 0) =
      (if modulation.carriesProfiles then profiles else .none).bitmask := by
    cases modulation.carriesProfiles <;> rfl
  simp [decodeDslLine, packDslLine, ConfigCommand.canonical, beBytes32, be32At?,
    be32_beBytes32, sent]

theorem decodeAtmLink_packAtmLink (params : AtmLinkParams) :
    decodeAtmLink (packAtmLink params) =
      some (ConfigCommand.atmLinkAdd params).canonical := by
  simp [decodeAtmLink, packAtmLink, ConfigCommand.canonical, beBytes32, beBytes16, be32At?,
    be16At?, be32_beBytes32, be16_beBytes16]

theorem decodePtmLink_packPtmLink (tagEnable : UInt8) (tagVid tagPri vlanId : UInt16) :
    decodePtmLink (packPtmLink tagEnable tagVid tagPri vlanId) =
      some (.ptmLinkAdd tagEnable tagVid tagPri vlanId) := by
  simp [decodePtmLink, packPtmLink, beBytes16, be16At?, be16_beBytes16]

theorem decodeLinkDel_packLinkDel (vlanId : UInt16) :
    decodeLinkDel (packLinkDel vlanId 3) = some vlanId := by
  simp [decodeLinkDel, packLinkDel, beBytes16, be16At?, be16_beBytes16, ↓guard_eq]

/-- Every descriptor has its documented size, and decodes to what was sent. -/
theorem descriptorOf_opcode (command : ConfigCommand) :
    ∃ decode, descriptorOf command.opcode = some (command.descriptor.length, decode) ∧
      decode command.descriptor = some command.canonical := by
  cases command with
  | lineConfigUp => exact ⟨_, rfl, decodeDslLine_packDslLine _ _ _ _ _⟩
  | atmLinkAdd => exact ⟨_, rfl, decodeAtmLink_packAtmLink _⟩
  | atmLinkDel vlanId =>
      exact ⟨_, rfl, congrArg (Option.map _) (decodeLinkDel_packLinkDel vlanId)⟩
  | ptmLinkAdd => exact ⟨_, rfl, decodePtmLink_packPtmLink _ _ _ _⟩
  | ptmLinkDel vlanId =>
      exact ⟨_, rfl, congrArg (Option.map _) (decodeLinkDel_packLinkDel vlanId)⟩

/-! ## Command frames -/

/-- What a decoder makes of a frame if it expects `lead` opcode bytes between the header and
the descriptor, and a payload that is exactly these. -/
def decodeCommand (lead : Nat) (data : Bytes) : Option ConfigCommand := do
  let f ← Frame.parse data
  guard (f.isCommand = true)
  guard (verifyChecksum f.buf = some true)
  let (size, decode) ← descriptorOf f.subtype
  guard (f.payloadLen.toNat = lead + size)
  guard (f.payload.take lead = List.replicate lead f.subtype)
  decode (f.payload.drop lead)

section Frames

variable {frame : WireFrame} {command : ConfigCommand} {lead : Nat}

/-- A command frame with the right checksum whose payload is as the decoder expects it. -/
theorem decodeCommand_bytes (isCommand : frame.magic = magicCommand)
    (valid : frame.stored = frame.checksum) (isSubtype : frame.subtype = command.opcode)
    (framed : frame.payload = List.replicate lead command.opcode ++ command.descriptor) :
    decodeCommand lead frame.bytes = some command.canonical := by
  obtain ⟨decode, table, decoded⟩ := descriptorOf_opcode command
  have accepted : frame.view.isCommand = true := by
    rw [Frame.isCommand, WireFrame.magic_view, isCommand, beq_self_eq_true]
  have verified : verifyChecksum frame.view.buf = some true := by
    rw [WireFrame.buf_view, WireFrame.verifyChecksum_bytes, valid, beq_self_eq_true]
  have size : frame.view.payloadLen.toNat = lead + command.descriptor.length := by
    rw [WireFrame.payloadLen_view, WireFrame.toNat_payload_length, framed, List.length_append,
      List.length_replicate]
  have front : frame.payload.take lead = List.replicate lead command.opcode := by
    rw [framed, List.take_left' List.length_replicate]
  have rest : frame.payload.drop lead = command.descriptor := by
    rw [framed, List.drop_left' List.length_replicate]
  simp only [decodeCommand, WireFrame.parse_bytes, Option.bind_eq_bind, Option.bind_some,
    accepted, verified, ↓guard_eq, if_true, WireFrame.subtype_view, isSubtype, table, size,
    WireFrame.payload_view, front, rest, decoded]

/-- A payload of any other length is refused. -/
theorem decodeCommand_eq_none (isSubtype : frame.subtype = command.opcode)
    (misfit : frame.payload.length ≠ lead + command.descriptor.length) :
    decodeCommand lead frame.bytes = none := by
  obtain ⟨decode, table, _⟩ := descriptorOf_opcode command
  have size : frame.payload.length % 65536 ≠ lead + command.descriptor.length := by
    rwa [Nat.mod_eq_of_lt frame.payload_bound]
  simp [decodeCommand, WireFrame.parse_bytes, isSubtype, table, ↓guard_eq, size]

end Frames

end RbctlDsl.Proto
