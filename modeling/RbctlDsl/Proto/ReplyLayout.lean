import RbctlDsl.Lib.Layout
import RbctlDsl.Proto.Unpack

/-!
# The layout of the replies

`docs/xdsl/responses.md`: the replies of opcodes 2 and 4 as tables of fields, each at its offset.
What the decoders of `unpack.rs` return is what the fields hold.
-/

namespace RbctlDsl.Proto

open RbctlDsl.Lib

/-! ## Opcode 2 -/

/-- What the board puts into a `get_line_obj` reply. -/
structure LineReply where
  status : UInt32
  linkStatus : UInt8
  modulation : UInt8
  dataPath : UInt8
  annex : UInt8
  downRate : UInt32
  upRate : UInt32
  upOutputPower : UInt32
  downOutputPower : UInt32
  upNoiseMargin : UInt32
  downNoiseMargin : UInt32
  upAttenuation : UInt32
  downAttenuation : UInt32
  upAttainableRate : UInt32
  downAttainableRate : UInt32
  upCrcErrors : UInt32
  downCrcErrors : UInt32
  atmFlag : UInt8
  vdsl2Profiles : UInt16
  uptimeSecs : UInt32
  deriving DecidableEq, Repr

namespace LineReply

/-- The documented table. -/
def fields (reply : LineReply) : List (RecordField UInt8) :=
  [⟨0x00, beBytes32 reply.status⟩, ⟨0x04, [reply.linkStatus]⟩, ⟨0x05, [reply.modulation]⟩,
    ⟨0x06, [reply.dataPath]⟩, ⟨0x07, [reply.annex]⟩, ⟨0x08, beBytes32 reply.downRate⟩,
    ⟨0x0c, beBytes32 reply.upRate⟩, ⟨0x10, beBytes32 reply.upOutputPower⟩,
    ⟨0x14, beBytes32 reply.downOutputPower⟩, ⟨0x18, beBytes32 reply.upNoiseMargin⟩,
    ⟨0x1c, beBytes32 reply.downNoiseMargin⟩, ⟨0x20, beBytes32 reply.upAttenuation⟩,
    ⟨0x24, beBytes32 reply.downAttenuation⟩, ⟨0x28, beBytes32 reply.upAttainableRate⟩,
    ⟨0x2c, beBytes32 reply.downAttainableRate⟩, ⟨0x30, beBytes32 reply.upCrcErrors⟩,
    ⟨0x34, beBytes32 reply.downCrcErrors⟩, ⟨0x38, [reply.atmFlag]⟩,
    ⟨0x39, beBytes16 reply.vdsl2Profiles⟩, ⟨0x3b, beBytes32 reply.uptimeSecs⟩]

/-- The values, with the codes of the link status and the data path by their names. -/
def lineObj (reply : LineReply) : LineObj where
  status := reply.status
  linkStatus := .fromCode reply.linkStatus
  modulationCode := reply.modulation
  dataPath := .fromCode reply.dataPath
  annexCode := reply.annex
  vdsl2ProfileBitmask := reply.vdsl2Profiles
  isAtm := reply.atmFlag != 0
  uptimeSecs := reply.uptimeSecs
  metrics := {
    downRate := reply.downRate
    upRate := reply.upRate
    upOutputPower := reply.upOutputPower
    downOutputPower := reply.downOutputPower
    upNoiseMargin := reply.upNoiseMargin
    downNoiseMargin := reply.downNoiseMargin
    upAttenuation := reply.upAttenuation
    downAttenuation := reply.downAttenuation
    upAttainableRate := reply.upAttainableRate
    downAttainableRate := reply.downAttainableRate
    upCrcErrors := reply.upCrcErrors
    downCrcErrors := reply.downCrcErrors }

theorem tiles (reply : LineReply) : Tiles 0 reply.fields 63 := by
  simp [Tiles, fields]

end LineReply

/-! ## Opcode 4 -/

namespace ChannelStats

/-- The documented table. -/
def fields (stats : ChannelStats) : List (RecordField UInt8) :=
  [⟨0x00, beBytes32 stats.status⟩, ⟨0x04, beBytes32 stats.receiveBlocks⟩,
    ⟨0x08, beBytes32 stats.receiveErrors⟩, ⟨0x0c, beBytes32 stats.receiveDiscards⟩,
    ⟨0x10, beBytes32 stats.transmitBlocks⟩, ⟨0x14, beBytes32 stats.transmitErrors⟩,
    ⟨0x18, beBytes32 stats.transmitDiscards⟩]

theorem tiles (stats : ChannelStats) : Tiles 0 stats.fields 28 := by
  simp [Tiles, fields]

end ChannelStats

/-! ## Decoding -/

section Decoding

variable {data : Bytes} {fields : List (RecordField UInt8)} {length offset : Nat}
  {long : length ≤ data.length}

theorem u32At_of_carries (carries : Carries data fields) {value : UInt32}
    (member : ⟨offset, beBytes32 value⟩ ∈ fields) {inside : offset + 4 ≤ length} :
    u32At long offset inside = value :=
  Option.get_of_eq_some _ (carries.be32At? member)

theorem u16At_of_carries (carries : Carries data fields) {value : UInt16}
    (member : ⟨offset, beBytes16 value⟩ ∈ fields) {inside : offset + 2 ≤ length} :
    u16At long offset inside = value :=
  Option.get_of_eq_some _ (carries.be16At? member)

theorem u8At_of_carries (carries : Carries data fields) {value : UInt8}
    (member : ⟨offset, [value]⟩ ∈ fields) {inside : offset < length} :
    u8At long offset inside = value :=
  (List.getElem_eq_iff _).mpr (carries.getElem? member)

end Decoding

/-- A reply that carries the fields is decoded to their values. -/
theorem parseLineObj_of_carries {data : Bytes} {reply : LineReply} (long : 63 ≤ data.length)
    (carries : Carries data reply.fields) : parseLineObj data = .ok reply.lineObj := by
  rw [parseLineObj, dif_pos long, LineReply.lineObj]
  -- one goal for each field, by its width
  congr
  all_goals first
    | exact u32At_of_carries carries (by simp [LineReply.fields])
    | exact u16At_of_carries carries (by simp [LineReply.fields])
    | exact u8At_of_carries carries (by simp [LineReply.fields])

theorem parseChannelStats_of_carries {data : Bytes} {stats : ChannelStats}
    (long : 28 ≤ data.length) (carries : Carries data stats.fields) :
    parseChannelStats data = .ok stats := by
  rw [parseChannelStats, dif_pos long]
  congr
  all_goals exact u32At_of_carries carries (by simp [ChannelStats.fields])

/-- A decoder returns what the fields of a reply of `size` bytes hold, with anything behind them.
Each of these bytes belongs to one field, and anything shorter is refused. -/
structure DecodesLayout {Reply Value : Type} (size : Nat)
    (fields : Reply → List (RecordField UInt8)) (value : Reply → Value)
    (decode : Bytes → Except String Value) : Prop where
  length : ∀ reply, (record (fields reply)).length = size
  carries : ∀ reply extra, Carries (record (fields reply) ++ extra) (fields reply)
  partition : ∀ reply index, index < size → ∃ field, covering (fields reply) index = [field]
  decodes : ∀ reply extra, decode (record (fields reply) ++ extra) = .ok (value reply)
  refuses : ∀ data : Bytes, data.length < size → ∃ text, decode data = .error text

/-- A decoder that reads what a reply carries, and refuses what is shorter. -/
theorem decodesLayout_of_tiles {Reply Value : Type} {size : Nat}
    {fields : Reply → List (RecordField UInt8)} {value : Reply → Value}
    {decode : Bytes → Except String Value} (tiles : ∀ reply, Tiles 0 (fields reply) size)
    (decodes : ∀ {data reply}, size ≤ data.length → Carries data (fields reply) →
      decode data = .ok (value reply))
    (refuses : ∀ data : Bytes, data.length < size → ∃ text, decode data = .error text) :
    DecodesLayout size fields value decode := by
  have length (reply : Reply) : (record (fields reply)).length = size := by
    have whole := (tiles reply).length_record
    rwa [Nat.zero_add] at whole
  have carries (reply : Reply) (extra : Bytes) :
      Carries (record (fields reply) ++ extra) (fields reply) :=
    (tiles reply).carries List.length_nil extra
  refine ⟨length, carries, fun reply index => (tiles reply).covering_eq_singleton (Nat.zero_le _),
    fun reply extra => decodes ?_ (carries reply extra), refuses⟩
  rw [List.length_append, length]
  exact Nat.le_add_right _ _

/-- Both decoders follow the documented layouts. -/
theorem decodesLayout_replies :
    DecodesLayout 63 LineReply.fields LineReply.lineObj parseLineObj ∧
      DecodesLayout 28 ChannelStats.fields id parseChannelStats := by
  constructor
  · refine decodesLayout_of_tiles LineReply.tiles parseLineObj_of_carries fun data short => ?_
    exact ⟨_, dif_neg (Nat.not_le.mpr short)⟩
  · refine decodesLayout_of_tiles ChannelStats.tiles parseChannelStats_of_carries
      fun data short => ?_
    exact ⟨_, dif_neg (Nat.not_le.mpr short)⟩

end RbctlDsl.Proto
