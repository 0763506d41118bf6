import RbctlDsl.Lib.Result
import RbctlDsl.Lib.Text
import RbctlDsl.Proto.BoardChecksum
import RbctlDsl.Proto.Unpack

/-!
# The reference scripts

`pack.py`, `unpack.py` and `checksum.py` of the examples: the protocol as it was first written
down, over numbers without bounds and enumerations by their names.
-/

namespace RbctlDsl.Proto.Reference

open RbctlDsl.Lib

/-! ## The language -/

/-- The exceptions of the scripts. -/
inductive Raised where
  | keyError (key : String)
  | indexError
  | valueError (message : String)
  | structError
  deriving DecidableEq, Repr

/-- The value of a key of a dictionary. -/
def item (table : List (String × Nat)) (key : String) : Except Raised Nat :=
  match table.lookup key with
  | some value => .ok value
  | none => .error (.keyError key)

/-- `struct.pack(">H", value)`. -/
def packH (value : Int) : Except Raised Bytes :=
  if 0 ≤ value ∧ value < 65536 then .ok (beBytes16 (.ofNat value.toNat)) else .error .structError

/-- `struct.pack(">I", value)`. -/
def packI (value : Int) : Except Raised Bytes :=
  if 0 ≤ value ∧ value < 4294967296 then .ok (beBytes32 (.ofNat value.toNat))
  else .error .structError

/-- `value & 0xff`, as a byte. -/
def and8 (value : Int) : UInt8 := .ofNat (value % 256).toNat

/-- `value & 0xffff`. -/
def and16 (value : Int) : Int := value % 65536

/-! ## pack.py -/

/-- The modulations by their names, as the board numbers them. -/
def MODULATION : List (String × Nat) := [
  ("ADSL_ANSI_T1.413", 0), ("ADSL_G.dmt", 1), ("ADSL_G.lite", 2), ("ADSL_G.dmt.bis", 3),
  ("ADSL_2plus", 4), ("ADSL_Multimode", 5), ("VDSL2", 6), ("Multimode", 7)]

/-- The annexes by their names. -/
def ANNEX : List (String × Nat) := [
  ("Annex A", 0), ("Annex B", 1), ("Annex I", 2), ("Annex M", 3), ("Annex A/L", 4),
  ("Annex A/L/M", 5), ("Annex J", 6), ("Annex B/J", 7), ("Annex auto", 8)]

/-- A bit for each VDSL2 profile. -/
def VDSL2_PROFILE : List (String × Nat) := [
  ("8a", 0x001), ("8b", 0x002), ("8c", 0x004), ("8d", 0x008), ("12a", 0x010), ("12b", 0x020),
  ("17a", 0x040), ("30a", 0x080), ("35b", 0x100)]

/-- The encapsulations of an ATM link. -/
def ATM_ENCAP : List (String × Nat) := [("LLC", 0), ("VCMUX", 1)]

/-- The types of an ATM link. -/
def ATM_LINK_TYPE : List (String × Nat) := [("EoA", 0), ("PPPoA", 6), ("IPoA", 7)]

/-- The QoS categories of an ATM link. -/
def ATM_QOS : List (String × Nat) := [("UBR", 1), ("CBR", 2), ("VBR-nrt", 3), ("VBR-rt", 4)]

/-- `_profile_bitmask`, from the bits that are set already. -/
def profileBitmask (bit : Nat) : List String → Except Raised Nat
  | [] => .ok bit
  | p :: profiles => do
    let value ← item VDSL2_PROFILE p
    profileBitmask (bit ||| value) profiles

/-- The profiles are sent for two of the modulations only. -/
def lineBitmask (mod : Nat) (profiles : List String) : Except Raised Nat :=
  if mod = 6 ∨ mod = 7 then profileBitmask 0 profiles else .ok 0

/-- `pack_dsl_line`, the descriptor of opcode 1. -/
def packDslLine (modulation annex : String) (bitswap sra : Int) (profiles : List String) :
    Except Raised Bytes := do
  let mod ← item MODULATION modulation
  let anx ← item ANNEX annex
  let bitmask ← lineBitmask mod profiles
  let word ← packI bitmask
  .ok ([UInt8.ofNat mod, UInt8.ofNat anx, and8 bitswap, and8 sra] ++ (word ++ [0, 0, 0, 0]))

/-- The arguments of `pack_atm_link`. -/
structure AtmLink where
  vpi : Int
  vci : Int
  encap : String
  linkType : String
  qos : String
  pcr : Int := 0
  scr : Int := 0
  mbs : Int := 0
  vlanId : Int := 0
  tagEnable : Int := 0
  tagVid : Int := 0xffff
  tagPri : Int := 0xff

/-- `pack_atm_link`, the descriptor of opcode 5. -/
def packAtmLink (p : AtmLink) : Except Raised Bytes := do
  let cat ← item ATM_QOS p.qos
  let enc ← item ATM_ENCAP p.encap
  let lt ← item ATM_LINK_TYPE p.linkType
  let vci ← packH p.vci
  let pcr ← packI p.pcr
  let scr ← packI (if startsWith p.qos "VBR" then p.scr else 0)
  let mbs ← packI (if startsWith p.qos "VBR" then p.mbs else 0)
  let vlanId ← packH p.vlanId
  let tagVid ← packH (and16 p.tagVid)
  .ok ([and8 cat, and8 p.vpi] ++ (vci ++ (pcr ++ (scr ++ (mbs ++
    ([UInt8.ofNat enc, UInt8.ofNat lt] ++ (vlanId ++ ([and8 p.tagEnable] ++
      (tagVid ++ [and8 p.tagPri])))))))))

/-- `pack_ptm_link`, the descriptor of opcode 15. -/
def packPtmLink (tagEnable tagVid tagPri vlanId : Int) : Except Raised Bytes := do
  let tagVid ← packH (and16 tagVid)
  let tagPri ← packH (and16 tagPri)
  let vlanId ← packH (and16 vlanId)
  .ok ([and8 tagEnable] ++ (tagVid ++ (tagPri ++ ([0] ++ vlanId))))

/-- `pack_link_del`, the descriptor of opcodes 6 and 16. -/
def packLinkDel (vlanId opType : Int) : Except Raised Bytes := do
  let vlanId ← packH (and16 vlanId)
  .ok (vlanId ++ [and8 opType])

/-! ## Enumerations by their names -/

/-- The values of an enumeration, with a name of its own for each. -/
structure Naming (α : Type) where
  name : α → String
  code : α → Nat
  all : List α
  complete : ∀ a, a ∈ all
  distinct : ∀ a b, name a = name b → a = b

namespace Naming

variable {α : Type} (naming : Naming α)

/-- The dictionary that the script writes for it. -/
def table : List (String × Nat) := naming.all.map fun a => (naming.name a, naming.code a)

theorem item_table {key : String} {value : Nat} :
    item naming.table key = .ok value ↔ ∃ a, key = naming.name a ∧ value = naming.code a := by
  have lookup (some_of : List α) :
      (some_of.map fun a => (naming.name a, naming.code a)).lookup key = some value ↔
        ∃ a ∈ some_of, key = naming.name a ∧ value = naming.code a := by
    induction some_of with
    | nil => simp
    | cons a rest ih =>
        rw [List.map_cons, List.lookup_cons]
        cases same : key == naming.name a with
        | false =>
            have other : key ≠ naming.name a := fun equal => by simp [equal] at same
            simp [ih, other]
        | true =>
            obtain rfl := beq_iff_eq.mp same
            constructor
            · rintro ⟨⟩
              exact ⟨a, List.mem_cons_self, rfl, rfl⟩
            · rintro ⟨b, -, named, rfl⟩
              rw [naming.distinct a b named]
  rw [item]
  constructor
  · intro found
    split at found
    · next entry =>
        cases found
        obtain ⟨a, -, named, coded⟩ := (lookup naming.all).mp entry
        exact ⟨a, named, coded⟩
    · cases found
  · rintro ⟨a, named, coded⟩
    have entry := (lookup naming.all).mpr ⟨a, naming.complete a, named, coded⟩
    rw [table, entry]

end Naming

/-- The profiles of a line, one by one. -/
inductive Profile where
  | eightA | eightB | eightC | eightD | twelveA | twelveB | seventeenA | thirtyA | thirtyfiveB
  deriving DecidableEq, Repr

/-- The profile alone, as a mask. -/
def Profile.bits : Profile → Vdsl2Profiles
  | .eightA => .eightA
  | .eightB => .eightB
  | .eightC => .eightC
  | .eightD => .eightD
  | .twelveA => .twelveA
  | .twelveB => .twelveB
  | .seventeenA => .seventeenA
  | .thirtyA => .thirtyA
  | .thirtyfiveB => .thirtyfiveB

/-- The key of a profile in the script. -/
def Profile.name : Profile → String
  | .eightA => "8a"
  | .eightB => "8b"
  | .eightC => "8c"
  | .eightD => "8d"
  | .twelveA => "12a"
  | .twelveB => "12b"
  | .seventeenA => "17a"
  | .thirtyA => "30a"
  | .thirtyfiveB => "35b"

/-- The keys of the other dictionaries. -/
def modulationName : Modulation → String
  | .adslAnsiT1413 => "ADSL_ANSI_T1.413"
  | .adslGdmt => "ADSL_G.dmt"
  | .adslGlite => "ADSL_G.lite"
  | .adslGdmtBis => "ADSL_G.dmt.bis"
  | .adsl2Plus => "ADSL_2plus"
  | .adslMultimode => "ADSL_Multimode"
  | .vdsl2 => "VDSL2"
  | .multimode => "Multimode"

def annexName : Annex → String
  | .a => "Annex A"
  | .b => "Annex B"
  | .i => "Annex I"
  | .m => "Annex M"
  | .al => "Annex A/L"
  | .alm => "Annex A/L/M"
  | .j => "Annex J"
  | .bj => "Annex B/J"
  | .auto => "Annex auto"

def encapName : AtmEncap → String
  | .llc => "LLC"
  | .vcmux => "VCMUX"

def linkTypeName : AtmLinkType → String
  | .eoa => "EoA"
  | .pppoa => "PPPoA"
  | .ipoa => "IPoA"

def qosName : AtmQos → String
  | .ubr => "UBR"
  | .cbr => "CBR"
  | .vbrNrt => "VBR-nrt"
  | .vbrRt => "VBR-rt"

theorem profile_complete (profile : Profile) :
    profile ∈ [Profile.eightA, .eightB, .eightC, .eightD, .twelveA, .twelveB, .seventeenA, .thirtyA,
      .thirtyfiveB] := by
  cases profile <;> decide

theorem profile_distinct (first second : Profile) (same : first.name = second.name) :
    first = second := by
  cases first <;> cases second <;> first | rfl | exact absurd same (by decide)

theorem modulation_complete (modulation : Modulation) :
    modulation ∈ [Modulation.adslAnsiT1413, .adslGdmt, .adslGlite, .adslGdmtBis, .adsl2Plus,
      .adslMultimode, .vdsl2, .multimode] := by
  cases modulation <;> decide

theorem modulation_distinct (first second : Modulation)
    (same : modulationName first = modulationName second) : first = second := by
  cases first <;> cases second <;> first | rfl | exact absurd same (by decide)

theorem annex_complete (annex : Annex) :
    annex ∈ [Annex.a, .b, .i, .m, .al, .alm, .j, .bj, .auto] := by
  cases annex <;> decide

theorem annex_distinct (first second : Annex) (same : annexName first = annexName second) :
    first = second := by
  cases first <;> cases second <;> first | rfl | exact absurd same (by decide)

theorem encap_complete (encap : AtmEncap) : encap ∈ [AtmEncap.llc, .vcmux] := by
  cases encap <;> decide

theorem encap_distinct (first second : AtmEncap) (same : encapName first = encapName second) :
    first = second := by
  cases first <;> cases second <;> first | rfl | exact absurd same (by decide)

theorem linkType_complete (linkType : AtmLinkType) :
    linkType ∈ [AtmLinkType.eoa, .pppoa, .ipoa] := by
  cases linkType <;> decide

theorem linkType_distinct (first second : AtmLinkType)
    (same : linkTypeName first = linkTypeName second) : first = second := by
  cases first <;> cases second <;> first | rfl | exact absurd same (by decide)

theorem qos_complete (qos : AtmQos) : qos ∈ [AtmQos.ubr, .cbr, .vbrNrt, .vbrRt] := by
  cases qos <;> decide

theorem qos_distinct (first second : AtmQos) (same : qosName first = qosName second) :
    first = second := by
  cases first <;> cases second <;> first | rfl | exact absurd same (by decide)

def profiles : Naming Profile :=
  ⟨Profile.name, fun profile => profile.bits.mask.toNat, _, profile_complete, profile_distinct⟩

def modulations : Naming Modulation :=
  ⟨modulationName, fun modulation => modulation.code.toNat, _, modulation_complete,
    modulation_distinct⟩

def annexes : Naming Annex :=
  ⟨annexName, fun annex => annex.code.toNat, _, annex_complete, annex_distinct⟩

def encaps : Naming AtmEncap :=
  ⟨encapName, fun encap => encap.code.toNat, _, encap_complete, encap_distinct⟩

def linkTypes : Naming AtmLinkType :=
  ⟨linkTypeName, fun linkType => linkType.code.toNat, _, linkType_complete, linkType_distinct⟩

def categories : Naming AtmQos :=
  ⟨qosName, fun qos => qos.code.toNat, _, qos_complete, qos_distinct⟩

/-- The codes of the scripts are those of `pack.rs`. -/
theorem item_MODULATION {key : String} {value : Nat} : item MODULATION key = .ok value ↔
    ∃ modulation : Modulation, key = modulationName modulation ∧ value = modulation.code.toNat :=
  modulations.item_table

theorem item_ANNEX {key : String} {value : Nat} : item ANNEX key = .ok value ↔
    ∃ annex : Annex, key = annexName annex ∧ value = annex.code.toNat :=
  annexes.item_table

theorem item_VDSL2_PROFILE {key : String} {value : Nat} : item VDSL2_PROFILE key = .ok value ↔
    ∃ profile : Profile, key = profile.name ∧ value = profile.bits.mask.toNat :=
  profiles.item_table

theorem item_ATM_ENCAP {key : String} {value : Nat} : item ATM_ENCAP key = .ok value ↔
    ∃ encap : AtmEncap, key = encapName encap ∧ value = encap.code.toNat :=
  encaps.item_table

theorem item_ATM_LINK_TYPE {key : String} {value : Nat} : item ATM_LINK_TYPE key = .ok value ↔
    ∃ linkType : AtmLinkType, key = linkTypeName linkType ∧ value = linkType.code.toNat :=
  linkTypes.item_table

theorem item_ATM_QOS {key : String} {value : Nat} : item ATM_QOS key = .ok value ↔
    ∃ qos : AtmQos, key = qosName qos ∧ value = qos.code.toNat :=
  categories.item_table

/-! ## Numbers that fit -/

theorem packH_eq_ok {value : Int} {bytes : Bytes} :
    packH value = .ok bytes ↔ ∃ word : UInt16, value = word.toNat ∧ bytes = beBytes16 word := by
  rw [packH]
  constructor
  · intro packed
    split at packed
    · next fits =>
        cases packed
        refine ⟨_, ?_, rfl⟩
        rw [UInt16.toNat_ofNat_of_lt' (by simp only [UInt16.size]; omega)]
        omega
    · cases packed
  · rintro ⟨word, rfl, rfl⟩
    have below := word.toNat_lt
    rw [if_pos ⟨by omega, by omega⟩, Int.toNat_natCast, UInt16.ofNat_toNat]

theorem packI_eq_ok {value : Int} {bytes : Bytes} :
    packI value = .ok bytes ↔ ∃ word : UInt32, value = word.toNat ∧ bytes = beBytes32 word := by
  rw [packI]
  constructor
  · intro packed
    split at packed
    · next fits =>
        cases packed
        refine ⟨_, ?_, rfl⟩
        rw [UInt32.toNat_ofNat_of_lt' (by simp only [UInt32.size]; omega)]
        omega
    · cases packed
  · rintro ⟨word, rfl, rfl⟩
    have below := word.toNat_lt
    rw [if_pos ⟨by omega, by omega⟩, Int.toNat_natCast, UInt32.ofNat_toNat]

/-- The low half of a word, as a word. -/
def low16 (value : Int) : UInt16 := .ofNat (value % 65536).toNat

theorem and16_eq (value : Int) : and16 value = (low16 value).toNat := by
  rw [low16, UInt16.toNat_ofNat_of_lt' (by simp only [UInt16.size]; omega), and16]
  omega

theorem packH_and16 (value : Int) :
    packH (and16 value) = .ok (beBytes16 (low16 value)) :=
  packH_eq_ok.mpr ⟨_, and16_eq value, rfl⟩

@[simp] theorem and8_toNat (byte : UInt8) : and8 byte.toNat = byte := by
  have below := byte.toNat_lt
  rw [and8]
  have same : ((byte.toNat : Int) % 256).toNat = byte.toNat := by omega
  rw [same, UInt8.ofNat_toNat]

/-! ## The packers agree -/

/-- All of these profiles in one mask. -/
def union (chosen : List Profile) : Vdsl2Profiles :=
  chosen.foldl (fun bits profile => bits ||| profile.bits) .none

theorem profileBitmask_eq_ok {names : List String} {bits : Vdsl2Profiles} {value : Nat} :
    profileBitmask bits.mask.toNat names = .ok value ↔
      ∃ chosen : List Profile, names = chosen.map Profile.name ∧
        value = (chosen.foldl (fun bits profile => bits ||| profile.bits) bits).mask.toNat := by
  induction names generalizing bits with
  | nil =>
      constructor
      · rintro ⟨⟩
        exact ⟨[], rfl, rfl⟩
      · rintro ⟨chosen, none, rfl⟩
        rw [List.map_eq_nil_iff.mp none.symm]
        rfl
  | cons name names ih =>
      have joined (profile : Profile) : bits.mask.toNat ||| profile.bits.mask.toNat =
          (bits ||| profile.bits).mask.toNat := (UInt16.toNat_or _ _).symm
      rw [profileBitmask, bind_eq_ok]
      simp only [item_VDSL2_PROFILE]
      constructor
      · rintro ⟨_, ⟨profile, rfl, rfl⟩, read⟩
        rw [joined, ih] at read
        obtain ⟨chosen, rfl, rfl⟩ := read
        exact ⟨profile :: chosen, rfl, rfl⟩
      · rintro ⟨chosen, named, rfl⟩
        cases chosen with
        | nil => cases named
        | cons profile chosen =>
            cases named
            refine ⟨_, ⟨profile, rfl, rfl⟩, ?_⟩
            rw [joined, ih]
            exact ⟨chosen, rfl, rfl⟩

theorem lineBitmask_eq_ok {mod : Modulation} {names : List String} {value : Nat} :
    lineBitmask mod.code.toNat names = .ok value ↔ ∃ chosen : List Profile,
      (mod.carriesProfiles = true → names = chosen.map Profile.name) ∧
      value = if mod.carriesProfiles then (union chosen).mask.toNat else 0 := by
  have carries : (mod.code.toNat = 6 ∨ mod.code.toNat = 7) ↔ mod.carriesProfiles = true := by
    cases mod <;> decide
  rw [lineBitmask]
  simp only [carries]
  cases mod.carriesProfiles with
  | false =>
      constructor
      · rintro ⟨⟩
        exact ⟨[], fun carried => (Bool.false_ne_true carried).elim, rfl⟩
      · rintro ⟨_, -, rfl⟩
        rfl
  | true =>
      rw [if_pos rfl]
      simp only [forall_const, if_true]
      exact @profileBitmask_eq_ok names .none value

theorem packI_bitmask (mod : Modulation) (chosen : Vdsl2Profiles) :
    packI (if mod.carriesProfiles then chosen.mask.toNat else 0 : Nat) =
      .ok (beBytes32 (if mod.carriesProfiles then chosen.bitmask else 0)) := by
  refine packI_eq_ok.mpr ⟨_, ?_, rfl⟩
  cases mod.carriesProfiles with
  | false => rfl
  | true => exact congrArg Int.ofNat (UInt16.toNat_toUInt32 _).symm

/-- The descriptor of a line with other bytes for its two flags. -/
def withFlags (bitswap sra : UInt8) (descriptor : Bytes) : Bytes :=
  (descriptor.set 2 bitswap).set 3 sra

theorem withFlags_packDslLine (mod : Modulation) (anx : Annex) (bitswap sra : Bool)
    (bits : Vdsl2Profiles) :
    withFlags bitswap.toUInt8 sra.toUInt8 (Proto.packDslLine mod anx false false bits) =
      Proto.packDslLine mod anx bitswap sra bits := rfl

/-- A line descriptor of `pack.rs` has 0 and 1 for flags, and nothing else. -/
theorem withFlags_eq_packDslLine {mod : Modulation} {anx : Annex} {bits : Vdsl2Profiles}
    {bitswap sra : UInt8} :
    (∃ (mod' : Modulation) (anx' : Annex) (on on' : Bool) (bits' : Vdsl2Profiles),
      withFlags bitswap sra (Proto.packDslLine mod anx false false bits) =
        Proto.packDslLine mod' anx' on on' bits') ↔
      (∃ on : Bool, bitswap = on.toUInt8) ∧ ∃ on : Bool, sra = on.toUInt8 := by
  constructor
  · rintro ⟨mod', anx', on, on', bits', same⟩
    have flags := congrArg (fun bytes => (bytes[2]?, bytes[3]?)) same
    obtain ⟨first, second⟩ := Prod.mk.inj flags
    exact ⟨⟨on, Option.some.inj first⟩, on', Option.some.inj second⟩
  · rintro ⟨⟨on, rfl⟩, on', rfl⟩
    exact ⟨mod, anx, on, on', bits, withFlags_packDslLine mod anx on on' bits⟩

theorem packDslLine_eq_ok {modulation annex : String} {bitswap sra : Int} {names : List String}
    {bytes : Bytes} :
    packDslLine modulation annex bitswap sra names = .ok bytes ↔
      ∃ (mod : Modulation) (anx : Annex) (chosen : List Profile),
        modulation = modulationName mod ∧ annex = annexName anx ∧
        (mod.carriesProfiles = true → names = chosen.map Profile.name) ∧
        bytes = withFlags (and8 bitswap) (and8 sra)
          (Proto.packDslLine mod anx false false (union chosen)) := by
  rw [packDslLine, bind_eq_ok]
  simp only [bind_eq_ok, item_MODULATION, item_ANNEX]
  constructor
  · rintro ⟨_, ⟨mod, rfl, rfl⟩, _, ⟨anx, rfl, rfl⟩, value, read, packed, fits, ⟨⟩⟩
    obtain ⟨chosen, named, rfl⟩ := lineBitmask_eq_ok.mp read
    rw [packI_bitmask] at fits
    cases fits
    refine ⟨mod, anx, chosen, rfl, rfl, named, ?_⟩
    rw [UInt8.ofNat_toNat, UInt8.ofNat_toNat]
    rfl
  · rintro ⟨mod, anx, chosen, rfl, rfl, named, rfl⟩
    refine ⟨_, ⟨mod, rfl, rfl⟩, _, ⟨anx, rfl, rfl⟩, _,
      lineBitmask_eq_ok.mpr ⟨chosen, named, rfl⟩, _, packI_bitmask .., ?_⟩
    rw [UInt8.ofNat_toNat, UInt8.ofNat_toNat]
    rfl

/-- The arguments of a call name these parameters. -/
structure Describes (link : AtmLink) (p : AtmLinkParams) : Prop where
  encap : link.encap = encapName p.encap
  linkType : link.linkType = linkTypeName p.linkType
  qos : link.qos = qosName p.qos
  vpi : and8 link.vpi = p.vpi
  vci : link.vci = p.vci.toNat
  pcr : link.pcr = p.pcr.toNat
  rates : p.qos.carriesScr = true → link.scr = p.scr.toNat ∧ link.mbs = p.mbs.toNat
  vlanId : link.vlanId = p.vlanId.toNat
  tagEnable : and8 link.tagEnable = p.tagEnable
  tagVid : and16 link.tagVid = p.tagVid.toNat
  tagPri : and8 link.tagPri = p.tagPri

theorem packAtmLink_eq_ok {link : AtmLink} {bytes : Bytes} :
    packAtmLink link = .ok bytes ↔ ∃ p, Describes link p ∧ bytes = Proto.packAtmLink p := by
  have carries (qos : AtmQos) : startsWith (qosName qos) "VBR" = qos.carriesScr := by
    cases qos <;> decide
  have eq_zero {word : UInt32} (zero : (0 : Int) = word.toNat) : word = 0 :=
    UInt32.toNat_inj.mp (Int.ofNat_inj.mp zero.symm)
  rw [packAtmLink, bind_eq_ok]
  simp only [bind_eq_ok, item_ATM_QOS, item_ATM_ENCAP, item_ATM_LINK_TYPE, packH_eq_ok,
    packI_eq_ok]
  constructor
  · rintro ⟨_, ⟨qos, category, rfl⟩, _, ⟨encap, encaps, rfl⟩, _, ⟨linkType, linkTypes, rfl⟩,
      _, ⟨vci, vcis, rfl⟩, _, ⟨pcr, pcrs, rfl⟩, _, ⟨scr, scrs, rfl⟩, _, ⟨mbs, mbss, rfl⟩,
      _, ⟨vlanId, vlanIds, rfl⟩, _, ⟨tagVid, tagVids, rfl⟩, ⟨⟩⟩
    rw [category, carries] at scrs mbss
    refine ⟨⟨and8 link.vpi, vci, encap, linkType, qos, pcr, scr, mbs, vlanId, and8 link.tagEnable,
      tagVid, and8 link.tagPri⟩, ⟨encaps, linkTypes, category, rfl, vcis, pcrs, fun carried => ?_,
      vlanIds, rfl, tagVids, rfl⟩, ?_⟩
    · rw [if_pos carried] at scrs mbss
      exact ⟨scrs, mbss⟩
    · rw [Proto.packAtmLink, and8_toNat, UInt8.ofNat_toNat, UInt8.ofNat_toNat]
      cases carried : qos.carriesScr with
      | true => rfl
      | false =>
          rw [carried, if_neg Bool.false_ne_true] at scrs mbss
          rw [eq_zero scrs, eq_zero mbss]
          rfl
  · rintro ⟨p, ⟨encap, linkType, category, vpi, vci, pcr, rates, vlanId, tagEnable, tagVid, tagPri⟩,
      rfl⟩
    refine ⟨_, ⟨p.qos, category, rfl⟩, _, ⟨p.encap, encap, rfl⟩, _, ⟨p.linkType, linkType, rfl⟩,
      _, ⟨p.vci, vci, rfl⟩, _, ⟨p.pcr, pcr, rfl⟩,
      _, ⟨if p.qos.carriesScr then p.scr else 0, ?_, rfl⟩,
      _, ⟨if p.qos.carriesScr then p.mbs else 0, ?_, rfl⟩,
      _, ⟨p.vlanId, vlanId, rfl⟩, _, ⟨p.tagVid, tagVid, rfl⟩, ?_⟩
    · rw [category, carries]
      cases carried : p.qos.carriesScr with
      | true => exact (rates carried).1
      | false => rfl
    · rw [category, carries]
      cases carried : p.qos.carriesScr with
      | true => exact (rates carried).2
      | false => rfl
    · rw [Proto.packAtmLink, and8_toNat, UInt8.ofNat_toNat, UInt8.ofNat_toNat, vpi, tagEnable,
        tagPri]

/-- Every call of a packer of `pack.py` that returns gives a descriptor of `pack.rs`, and every
descriptor of `pack.rs` is given by a call: by the names of what it is made of, and numbers that
fit after the masks that the script applies.  The flags of a line are numbers in the script: it
gives a descriptor of `pack.rs` exactly where their low bytes are 0 or 1. -/
theorem packers_agree :
    (∀ modulation annex (bitswap sra : Int) names bytes,
      packDslLine modulation annex bitswap sra names = .ok bytes ↔
        ∃ (mod : Modulation) (anx : Annex) (chosen : List Profile),
          modulation = modulationName mod ∧ annex = annexName anx ∧
          (mod.carriesProfiles = true → names = chosen.map Profile.name) ∧
          bytes = withFlags (and8 bitswap) (and8 sra)
            (Proto.packDslLine mod anx false false (union chosen))) ∧
    (∀ (mod : Modulation) (anx : Annex) (bits : Vdsl2Profiles),
      (∀ bitswap sra : Bool,
        withFlags bitswap.toUInt8 sra.toUInt8 (Proto.packDslLine mod anx false false bits) =
          Proto.packDslLine mod anx bitswap sra bits) ∧
      ∀ bitswap sra : UInt8,
        (∃ (mod' : Modulation) (anx' : Annex) (on on' : Bool) (bits' : Vdsl2Profiles),
          withFlags bitswap sra (Proto.packDslLine mod anx false false bits) =
            Proto.packDslLine mod' anx' on on' bits') ↔
          (∃ on : Bool, bitswap = on.toUInt8) ∧ ∃ on : Bool, sra = on.toUInt8) ∧
    (∀ link bytes, packAtmLink link = .ok bytes ↔
      ∃ p, Describes link p ∧ bytes = Proto.packAtmLink p) ∧
    (∀ tagEnable tagVid tagPri vlanId, packPtmLink tagEnable tagVid tagPri vlanId =
      .ok (Proto.packPtmLink (and8 tagEnable) (low16 tagVid) (low16 tagPri) (low16 vlanId))) ∧
    ∀ vlanId opType, packLinkDel vlanId opType =
      .ok (Proto.packLinkDel (low16 vlanId) (and8 opType)) := by
  refine ⟨fun _ _ _ _ _ _ => packDslLine_eq_ok,
    fun mod anx bits => ⟨fun bitswap sra => withFlags_packDslLine mod anx bitswap sra bits,
      fun _ _ => withFlags_eq_packDslLine⟩,
    fun _ _ => packAtmLink_eq_ok,
    fun tagEnable tagVid tagPri vlanId => ?_, fun vlanId opType => ?_⟩
  · simp only [packPtmLink, packH_and16, ok_bind, Proto.packPtmLink]
  · simp only [packLinkDel, packH_and16, ok_bind, Proto.packLinkDel]

/-! ## unpack.py -/

/-- `struct.unpack_from(">I", data, offset)`. -/
def unpackI (data : Bytes) (offset : Nat) : Except Raised Nat :=
  match be32At? data offset with
  | some word => .ok word.toNat
  | none => .error .structError

/-- `struct.unpack_from(">H", data, offset)`. -/
def unpackH (data : Bytes) (offset : Nat) : Except Raised Nat :=
  match be16At? data offset with
  | some word => .ok word.toNat
  | none => .error .structError

/-- `data[offset]`. -/
def byteAt (data : Bytes) (offset : Nat) : Except Raised Nat :=
  match data[offset]? with
  | some byte => .ok byte.toNat
  | none => .error .indexError

/-- The link states by their codes. -/
def LINK_STATUS : List (Nat × String) := [
  (0, "NoSignal"), (1, "Up"), (2, "NoSignal"), (3, "Initializing"), (4, "EstablishingLink")]

/-- Where a line object has its metrics. -/
def LINE_METRIC_NAMES : List (String × Nat) := [
  ("down_curr_rate", 0x08), ("up_curr_rate", 0x0c), ("up_rate", 0x10), ("down_rate", 0x14),
  ("up_max_rate", 0x18), ("down_max_rate", 0x1c), ("up_snr_margin", 0x20),
  ("down_snr_margin", 0x24), ("up_attenuation", 0x28), ("down_attenuation", 0x2c),
  ("up_errors", 0x30), ("down_errors", 0x34)]

/-- Where a channel reply has its counters. -/
def CHAN_STAT_NAMES : List (String × Nat) := [
  ("receive_blocks", 0x04), ("receive_errors", 0x08), ("receive_discards", 0x0c),
  ("transmit_blocks", 0x10), ("transmit_errors", 0x14), ("transmit_discards", 0x18)]

/-- What the script says of a code that has no name. -/
def unknown (code : Nat) : String := s!"unknown({code})"

/-- `_rev`: the first key with a value. -/
def rev (table : List (String × Nat)) (value : Nat) (default : String) : String :=
  ((table.find? fun entry => entry.2 == value).map Prod.fst).getD default

/-- `_profile_names`: the names of the bits that are set. -/
def profileNames (bitmask : Nat) : List String :=
  (VDSL2_PROFILE.filter fun entry => bitmask &&& entry.2 != 0).map Prod.fst

/-- The words of a reply that have a name. -/
def named (data : Bytes) : List (String × Nat) → Except Raised (List (String × Nat))
  | [] => .ok []
  | (name, offset) :: names => do
    let value ← unpackI data offset
    let values ← named data names
    .ok ((name, value) :: values)

/-- What `unpack_line_obj` returns. -/
structure LineDict where
  status : Nat
  linkStatus : String
  linkStatusCode : Nat
  modulation : String
  modulationCode : Nat
  annex : String
  annexCode : Nat
  vdsl2Profiles : Option (List String)
  vdsl2ProfileBitmask : Nat
  metrics : List (String × Nat)
  deriving DecidableEq, Repr

/-- `unpack_line_obj`. -/
def unpackLineObj (data : Bytes) : Except Raised LineDict :=
  if data.length < 59 then
    .error (.valueError s!"line obj reply is 59 B, got {data.length}")
  else do
    let status ← unpackI data 0x00
    let link ← byteAt data 0x04
    let mod ← byteAt data 0x05
    let annex ← byteAt data 0x07
    let prof ← unpackH data 0x39
    let metrics ← named data LINE_METRIC_NAMES
    .ok {
      status := status
      linkStatus := (LINK_STATUS.lookup link).getD (unknown link)
      linkStatusCode := link
      modulation := rev MODULATION mod (unknown mod)
      modulationCode := mod
      annex := rev ANNEX annex (unknown annex)
      annexCode := annex
      vdsl2Profiles := if mod = 6 then some (profileNames prof) else none
      vdsl2ProfileBitmask := prof
      metrics := metrics }

/-- What `unpack_channel_stats` returns: the status, and the counters by their names. -/
def unpackChannelStats (data : Bytes) : Except Raised (Nat × List (String × Nat)) :=
  if data.length < 28 then
    .error (.valueError s!"channel stats reply is 28 B, got {data.length}")
  else do
    let status ← unpackI data 0x00
    let counters ← named data CHAN_STAT_NAMES
    .ok (status, counters)

/-! ## The decoders agree -/

section Reading

variable {data : Bytes} {length : Nat} (long : length ≤ data.length) (offset : Nat)

theorem unpackI_eq (inside : offset + 4 ≤ length) :
    unpackI data offset = .ok (u32At long offset inside).toNat := by
  rw [unpackI, ← Option.some_get (x := be32At? data offset)]
  rfl

theorem unpackH_eq (inside : offset + 2 ≤ length) :
    unpackH data offset = .ok (u16At long offset inside).toNat := by
  rw [unpackH, ← Option.some_get (x := be16At? data offset)]
  rfl

theorem byteAt_eq (inside : offset < length) :
    byteAt data offset = .ok (u8At long offset inside).toNat := by
  rw [byteAt, List.getElem?_eq_getElem (Nat.lt_of_lt_of_le inside long)]
  rfl

end Reading

def linkName : LinkStatus → String
  | .noSignal => "NoSignal"
  | .up => "Up"
  | .initializing => "Initializing"
  | .establishingLink => "EstablishingLink"
  | .unknown code => unknown code.toNat

theorem lookup_LINK_STATUS (code : UInt8) :
    (LINK_STATUS.lookup code.toNat).getD (unknown code.toNat) =
      linkName (LinkStatus.fromCode code) := by
  have at_code (value : UInt8) : code = value ↔ code.toNat = value.toNat := UInt8.toNat_inj.symm
  simp only [LinkStatus.fromCode, at_code]
  generalize named : unknown code.toNat = name
  have other : linkName (.unknown code) = name := named
  revert other
  generalize code.toNat = value
  rcases value with _ | _ | _ | _ | _ | value
  all_goals
    intro other
    first | rfl | exact other.symm

theorem rev_MODULATION (code : UInt8) : rev MODULATION code.toNat (unknown code.toNat) =
    ((modulationFromCode code).map modulationName).getD (unknown code.toNat) := by
  rw [modulationFromCode]
  rcases code.toNat with _ | _ | _ | _ | _ | _ | _ | _ | value
  all_goals rfl

theorem rev_ANNEX (code : UInt8) : rev ANNEX code.toNat (unknown code.toNat) =
    ((annexFromCode code).map annexName).getD (unknown code.toNat) := by
  rw [annexFromCode]
  rcases code.toNat with _ | _ | _ | _ | _ | _ | _ | _ | _ | value
  all_goals rfl

/-- The profiles of a mask. -/
def profilesOf (mask : Vdsl2Profiles) : List Profile :=
  profiles.all.filter fun profile => mask.mask &&& profile.bits.mask != 0

theorem profileNames_eq (mask : Vdsl2Profiles) :
    profileNames mask.mask.toNat = (profilesOf mask).map Profile.name := by
  have table : VDSL2_PROFILE = profiles.all.map fun profile =>
      (profile.name, profile.bits.mask.toNat) := rfl
  have same (profile : Profile) : (mask.mask.toNat &&& profile.bits.mask.toNat != 0) =
      (mask.mask &&& profile.bits.mask != 0) := by
    rw [Bool.eq_iff_iff, bne_iff_ne, bne_iff_ne, ← UInt16.toNat_and, Ne, Ne, ← UInt16.toNat_inj]
    rfl
  rw [profileNames, table, List.filter_map, List.map_map, profilesOf]
  congr 1
  exact List.filter_congr fun profile _ => same profile

/-- The metrics of a line in the order of their offsets, and the counters of a channel. -/
def metricWords (metrics : LineMetrics) : List UInt32 :=
  [metrics.downRate, metrics.upRate, metrics.upOutputPower, metrics.downOutputPower,
    metrics.upNoiseMargin, metrics.downNoiseMargin, metrics.upAttenuation,
    metrics.downAttenuation, metrics.upAttainableRate, metrics.downAttainableRate,
    metrics.upCrcErrors, metrics.downCrcErrors]

def counterWords (stats : ChannelStats) : List UInt32 :=
  [stats.receiveBlocks, stats.receiveErrors, stats.receiveDiscards, stats.transmitBlocks,
    stats.transmitErrors, stats.transmitDiscards]

/-- A dictionary of the script says what a line object says. -/
structure Shows (dict : LineDict) (line : LineObj) : Prop where
  status : dict.status = line.status.toNat
  linkStatus : dict.linkStatus = linkName line.linkStatus
  modulation : dict.modulation =
    (line.modulation.map modulationName).getD (unknown line.modulationCode.toNat)
  modulationCode : dict.modulationCode = line.modulationCode.toNat
  annex : dict.annex = (line.annex.map annexName).getD (unknown line.annexCode.toNat)
  annexCode : dict.annexCode = line.annexCode.toNat
  vdsl2Profiles : dict.vdsl2Profiles =
    line.vdsl2Profiles.map fun mask => (profilesOf mask).map Profile.name
  vdsl2ProfileBitmask : dict.vdsl2ProfileBitmask = line.vdsl2ProfileBitmask.toNat
  metrics : dict.metrics.map Prod.snd = (metricWords line.metrics).map UInt32.toNat

theorem isOk_iff {ε α : Type} {result : Except ε α} :
    result.isOk = true ↔ ∃ value, result = .ok value := by
  cases result with
  | error error =>
      refine iff_of_false Bool.false_ne_true ?_
      rintro ⟨_, same⟩
      cases same
  | ok value => exact iff_of_true rfl ⟨value, rfl⟩

theorem vdsl2Profiles_eq (code : UInt8) (mask : UInt16) :
    (if code.toNat = 6 then some (profileNames mask.toNat) else none) =
      (if code = Modulation.vdsl2.code then some (Vdsl2Profiles.mk mask) else none).map
        fun mask => (profilesOf mask).map Profile.name := by
  have same : code = Modulation.vdsl2.code ↔ code.toNat = 6 := UInt8.toNat_inj.symm
  simp only [same]
  split
  · exact congrArg some (profileNames_eq ⟨mask⟩)
  · rfl

/-- A reply that is long enough is read to its end. -/
theorem unpackLineObj_of_long {data : Bytes} (long : 59 ≤ data.length) :
    ∃ dict, unpackLineObj data = .ok dict ∧
      ∀ line, parseLineObj data = .ok line → Shows dict line := by
  have words := unpackI_eq long
  have bytes := byteAt_eq long
  simp only [unpackLineObj, if_neg (Nat.not_lt.mpr long), words 0 (by decide), ok_bind,
    bytes 0x04 (by decide), bytes 0x05 (by decide), bytes 0x07 (by decide),
    unpackH_eq long 0x39 (by decide), named, LINE_METRIC_NAMES, words 0x08 (by decide),
    words 0x0c (by decide), words 0x10 (by decide), words 0x14 (by decide),
    words 0x18 (by decide), words 0x1c (by decide), words 0x20 (by decide),
    words 0x24 (by decide), words 0x28 (by decide), words 0x2c (by decide),
    words 0x30 (by decide), words 0x34 (by decide)]
  refine ⟨_, rfl, fun line parsed => ?_⟩
  have whole : 63 ≤ data.length :=
    (parseLineObj_isOk_iff data).mp (by rw [parsed]; rfl)
  rw [parseLineObj, dif_pos whole] at parsed
  cases parsed
  exact {
    status := rfl
    linkStatus := lookup_LINK_STATUS _
    modulation := rev_MODULATION _
    modulationCode := rfl
    annex := rev_ANNEX _
    annexCode := rfl
    vdsl2Profiles := vdsl2Profiles_eq _ _
    vdsl2ProfileBitmask := rfl
    metrics := rfl }

theorem unpackChannelStats_of_long {data : Bytes} (long : 28 ≤ data.length) :
    ∃ status counters, unpackChannelStats data = .ok (status, counters) ∧
      ∀ stats, parseChannelStats data = .ok stats → status = stats.status.toNat ∧
        counters.map Prod.snd = (counterWords stats).map UInt32.toNat := by
  have words := unpackI_eq long
  simp only [unpackChannelStats, if_neg (Nat.not_lt.mpr long), words 0 (by decide), ok_bind, named,
    CHAN_STAT_NAMES, words 0x04 (by decide), words 0x08 (by decide), words 0x0c (by decide),
    words 0x10 (by decide), words 0x14 (by decide), words 0x18 (by decide)]
  refine ⟨_, _, rfl, fun stats parsed => ?_⟩
  rw [parseChannelStats, dif_pos long] at parsed
  cases parsed
  exact ⟨rfl, rfl⟩

/-- The script reads a line object in every reply of 59 bytes, four fewer than the daemon asks for,
and in those that both read it sees the same line.  The counters of a channel are read alike. -/
theorem decoders_agree (data : Bytes) :
    ((unpackLineObj data).isOk = true ↔ 59 ≤ data.length) ∧
    (63 ≤ data.length ↔ ∃ dict line, unpackLineObj data = .ok dict ∧ parseLineObj data = .ok line ∧
      Shows dict line) ∧
    ((unpackChannelStats data).isOk = true ↔ 28 ≤ data.length) ∧
    (28 ≤ data.length ↔ ∃ status counters stats,
      unpackChannelStats data = .ok (status, counters) ∧ parseChannelStats data = .ok stats ∧
      status = stats.status.toNat ∧
      counters.map Prod.snd = (counterWords stats).map UInt32.toNat) := by
  refine ⟨⟨fun done => ?_, fun long => ?_⟩, ⟨fun long => ?_, ?_⟩, ⟨fun done => ?_, fun long => ?_⟩,
    fun long => ?_, ?_⟩
  · by_contra short
    rw [unpackLineObj, if_pos (Nat.not_le.mp short)] at done
    cases done
  · obtain ⟨dict, read, -⟩ := unpackLineObj_of_long long
    rw [read]
    rfl
  · obtain ⟨dict, read, shows⟩ := unpackLineObj_of_long (Nat.le_trans (by decide) long)
    obtain ⟨line, parsed⟩ := isOk_iff.mp ((parseLineObj_isOk_iff data).mpr long)
    exact ⟨dict, line, read, parsed, shows line parsed⟩
  · rintro ⟨_, line, -, parsed, -⟩
    exact (parseLineObj_isOk_iff data).mp (isOk_iff.mpr ⟨line, parsed⟩)
  · by_contra short
    rw [unpackChannelStats, if_pos (Nat.not_le.mp short)] at done
    cases done
  · obtain ⟨status, counters, read, -⟩ := unpackChannelStats_of_long long
    rw [read]
    rfl
  · obtain ⟨status, counters, read, same⟩ := unpackChannelStats_of_long long
    obtain ⟨stats, parsed⟩ := isOk_iff.mp ((parseChannelStats_isOk_iff data).mpr long)
    exact ⟨status, counters, stats, read, parsed, same stats parsed⟩
  · rintro ⟨_, _, stats, -, parsed, -⟩
    exact (parseChannelStats_isOk_iff data).mp (isOk_iff.mpr ⟨stats, parsed⟩)

/-! ## checksum.py -/

/-- `struct.pack_into(">H", frame, offset, value)`. -/
def packInto (frame : Bytes) (offset : Nat) (value : UInt16) : Except Raised Bytes :=
  match splice? frame offset (beBytes16 value) with
  | some written => .ok written
  | none => .error .structError

/-- `frame[start:stop]`, which ends with the frame. -/
def slice (frame : Bytes) (start stop : Nat) : Bytes := (frame.take stop).drop start

/-- The checksum of the covered span of a frame whose field is zeroed. -/
def regionChecksum (zeroed : Bytes) (payloadLen : Nat) : UInt16 :=
  let length := payloadLen + coverHeaderBytes
  protoComputeChecksum 0 (slice zeroed offMagic (offMagic + length))

/-- `set_checksum`: the field is zeroed for the computation, and written then. -/
def setChecksum (frame : Bytes) : Except Raised Bytes := do
  let payloadLen ← unpackH frame offPayloadLen
  let zeroed ← packInto frame offChecksum 0
  packInto zeroed offChecksum (regionChecksum zeroed payloadLen)

/-- `verify_checksum`, on a copy with the field zeroed. -/
def verifyChecksum (frame : Bytes) : Except Raised Bool := do
  let payloadLen ← unpackH frame offPayloadLen
  let stored ← unpackH frame offChecksum
  let tmp ← packInto frame offChecksum 0
  .ok (stored == (regionChecksum tmp payloadLen).toNat)

/-- All of the covered span is there. -/
def Complete (frame : Bytes) : Prop :=
  ∃ payloadLen, readPayloadLen frame = some payloadLen ∧
    offMagic + payloadLen + coverHeaderBytes ≤ frame.length

theorem splice?_splice? {buf first second out : Bytes} {start : Nat}
    (written : splice? buf start first = some out) (same : first.length = second.length) :
    splice? out start second = splice? buf start second := by
  unfold splice? at written
  split at written
  · next room =>
      cases written
      rw [splice?_middle _ first _ second start (List.length_take_of_le (by omega)) same, splice?,
        if_pos (by omega), same]
  · cases written

theorem packInto_checksum {frame : Bytes} (long : 24 ≤ frame.length) (value : UInt16) :
    ∃ written, splice? frame offChecksum (beBytes16 value) = some written ∧
      packInto frame offChecksum value = .ok written := by
  have room : splice? frame offChecksum (beBytes16 value) = some _ :=
    if_pos (by simp only [offChecksum, length_beBytes16]; omega)
  refine ⟨_, room, ?_⟩
  rw [packInto, room]

/-- A span that is there is the covered one. -/
theorem regionChecksum_eq {frame zeroed : Bytes} {payloadLen : Nat}
    (read : readPayloadLen frame = some payloadLen)
    (long : offMagic + payloadLen + coverHeaderBytes ≤ frame.length)
    (written : splice? frame offChecksum (beBytes16 0) = some zeroed) :
    regionChecksum zeroed payloadLen = computeChecksum (coveredBytes frame payloadLen) := by
  have board := boardChecksum_eq read long
  have room : offMagic + (payloadLen + coverHeaderBytes) ≤ zeroed.length := by
    rw [(splice?_frame written).1]
    omega
  rw [boardChecksum, read] at board
  simp only [Option.bind_eq_bind, Option.bind_some, written,
    slice?_eq_some (Nat.le_add_right ..) room, Option.pure_def, Option.some_inj] at board
  rw [regionChecksum, slice, List.drop_take, board, protoComputeChecksum_eq]

theorem unpackH_of_some {data : Bytes} {offset : Nat} {word : UInt16}
    (there : be16At? data offset = some word) : unpackH data offset = .ok word.toNat := by
  rw [unpackH, there]

theorem verifyChecksum_of_complete {frame : Bytes} {payloadLen : Nat} {stored : UInt16}
    (read : readPayloadLen frame = some payloadLen)
    (field : be16At? frame offChecksum = some stored)
    (long : offMagic + payloadLen + coverHeaderBytes ≤ frame.length) :
    verifyChecksum frame = .ok (stored == computeChecksum (coveredBytes frame payloadLen)) := by
  have header : 24 ≤ frame.length := by
    simp only [offMagic, coverHeaderBytes] at long
    omega
  obtain ⟨word, there, rfl⟩ := Option.map_eq_some_iff.mp read
  obtain ⟨zeroed, written, packed⟩ := packInto_checksum header 0
  have same (crc : UInt16) : (stored.toNat == crc.toNat) = (stored == crc) := by
    rw [Bool.eq_iff_iff, beq_iff_eq, beq_iff_eq]
    exact UInt16.toNat_inj
  rw [verifyChecksum, unpackH_of_some there, ok_bind, unpackH_of_some field, ok_bind, packed,
    ok_bind, regionChecksum_eq read long written, same]

theorem setChecksum_of_complete {frame : Bytes} {payloadLen : Nat}
    (read : readPayloadLen frame = some payloadLen)
    (long : offMagic + payloadLen + coverHeaderBytes ≤ frame.length) :
    ∃ done, setChecksum frame = .ok done ∧ Proto.setChecksum frame = some done := by
  have header : 24 ≤ frame.length := by
    simp only [offMagic, coverHeaderBytes] at long
    omega
  obtain ⟨word, there, rfl⟩ := Option.map_eq_some_iff.mp read
  obtain ⟨zeroed, written, packed⟩ := packInto_checksum header 0
  obtain ⟨done, sealed, -⟩ :=
    packInto_checksum header (computeChecksum (coveredBytes frame word.toNat))
  have again (crc : UInt16) : splice? zeroed offChecksum (beBytes16 crc) =
      splice? frame offChecksum (beBytes16 crc) := splice?_splice? written rfl
  refine ⟨done, ?_, ?_⟩
  · rw [setChecksum, unpackH_of_some there, ok_bind, packed, ok_bind,
      regionChecksum_eq read long written, packInto, again, sealed]
  · rw [Proto.setChecksum, crcCoveredRegion_eq read long]
    exact sealed

theorem complete_of_setChecksum {frame done : Bytes}
    (sealed : Proto.setChecksum frame = some done) : Complete frame := by
  obtain ⟨crc, covered, -⟩ := Option.bind_eq_some_iff.mp sealed
  obtain ⟨payloadLen, read, rest⟩ := Option.bind_eq_some_iff.mp covered
  obtain ⟨_, long, -⟩ := Option.bind_eq_some_iff.mp rest
  refine ⟨payloadLen, read, ?_⟩
  by_contra short
  rw [guard_eq, if_neg short] at long
  cases long

/-- The script reads the frames that have a header.  The daemon accepts what the script accepts and
is complete: where the length of a frame goes beyond its end, the script takes what is there.
Every complete frame is sealed by both, in the same way. -/
theorem checksums_agree (frame : Bytes) :
    ((verifyChecksum frame).isOk = true ↔ 24 ≤ frame.length) ∧
    (Proto.verifyChecksum frame = some true ↔
      verifyChecksum frame = .ok true ∧ Complete frame) ∧
    (∀ done, Proto.setChecksum frame = some done ↔
      setChecksum frame = .ok done ∧ Complete frame) ∧
    (Complete frame → ∃ done, Proto.setChecksum frame = some done) := by
  refine ⟨⟨fun done => ?_, fun long => ?_⟩, ⟨fun accepted => ?_, ?_⟩,
    fun done => ⟨?_, ?_⟩, ?_⟩
  · obtain ⟨accepted, verified⟩ := isOk_iff.mp done
    rw [verifyChecksum] at verified
    obtain ⟨_, -, verified⟩ := bind_eq_ok.mp verified
    obtain ⟨stored, there, -⟩ := bind_eq_ok.mp verified
    by_contra short
    have missing : be16At? frame offChecksum = none := by
      rw [← Option.not_isSome_iff_eq_none, be16At?_isSome_iff]
      simp only [offChecksum]
      omega
    rw [unpackH, missing] at there
    cases there
  · obtain ⟨tmp, -, packed⟩ := packInto_checksum long 0
    rw [verifyChecksum, unpackH_eq long offPayloadLen (by decide), ok_bind,
      unpackH_eq long offChecksum (by decide), ok_bind, packed]
    rfl
  · obtain ⟨payloadLen, read, long, field⟩ := verifyChecksum_eq_true accepted
    refine ⟨?_, payloadLen, read, long⟩
    rw [verifyChecksum_of_complete read field long, beq_self_eq_true]
  · rintro ⟨accepted, payloadLen, read, long⟩
    obtain ⟨stored, field⟩ : ∃ stored, be16At? frame offChecksum = some stored := by
      rw [← Option.isSome_iff_exists, be16At?_isSome_iff]
      simp only [offChecksum, offMagic, coverHeaderBytes] at *
      omega
    rw [verifyChecksum_of_complete read field long] at accepted
    rw [Proto.verifyChecksum_eq read field long, Except.ok.inj accepted]
  · intro sealed
    obtain ⟨payloadLen, read, long⟩ := complete_of_setChecksum sealed
    obtain ⟨_, script, daemon⟩ := setChecksum_of_complete read long
    rw [sealed] at daemon
    cases daemon
    exact ⟨script, payloadLen, read, long⟩
  · rintro ⟨script, payloadLen, read, long⟩
    obtain ⟨_, same, daemon⟩ := setChecksum_of_complete read long
    rw [script] at same
    cases same
    exact daemon
  · rintro ⟨payloadLen, read, long⟩
    obtain ⟨done, _, sealed⟩ := setChecksum_of_complete read long
    exact ⟨done, sealed⟩

/-- A frame that ends in front of its payload. -/
def cutFrame : Bytes :=
  List.replicate 14 0 ++ [0x11, 0x03, 0, 0, 0, 1, 0, 1, 0xa0, 0x28]

example : verifyChecksum cutFrame = .ok true ∧ Proto.verifyChecksum cutFrame = some false := by
  decide +kernel

end RbctlDsl.Proto.Reference
