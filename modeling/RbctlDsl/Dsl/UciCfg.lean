import RbctlDsl.Lib.Text
import RbctlDsl.Proto.Validate

/-!
# UCI configuration

`uci_cfg.rs`: the settings that the command line, the configuration file and the built-in
defaults resolve to.  A configuration file is what a lookup finds at a key; a missing
option and a failed lookup read the same.
-/

namespace RbctlDsl.Dsl

open RbctlDsl.Lib RbctlDsl.Proto

structure ConfigError where
  text : String
  deriving DecidableEq, Repr

inductive XferMode where
  | atm | ptm
  deriving DecidableEq, Repr

structure AtmConfig where
  vpi : UInt8
  vci : UInt16
  encap : AtmEncap
  linkType : AtmLinkType
  qos : AtmQos
  pcr : UInt32
  deriving DecidableEq, Repr

structure DslConfig where
  modulation : Modulation
  annex : Annex
  profiles : Vdsl2Profiles
  xferMode : XferMode
  /-- Present only with ATM. -/
  atm : Option AtmConfig
  bitswap : Bool
  sra : Bool
  /-- The VLAN id is this plus 2000. -/
  transportVlanBase : UInt8
  deriving DecidableEq, Repr

/-! ## Parsing helpers -/

def parseModulation (lineMode _xferMode : String) : Except ConfigError Modulation :=
  match lineMode with
  | "vdsl" | "" => .ok .vdsl2
  | "adsl" => .ok .adsl2Plus
  | other => .error ⟨s!"bad line_mode '{other}'"⟩

def parseAnnex (s : String) : Except ConfigError Annex :=
  match trim s with
  | "a" | "A" => .ok .a
  | "b" | "B" => .ok .b
  | "i" | "I" => .ok .i
  | "j" | "J" => .ok .j
  | "m" | "M" => .ok .m
  | other => .error ⟨s!"bad annex '{other}'"⟩

/-- One profile name. -/
def parseProfile (tok : String) : Except ConfigError Vdsl2Profiles :=
  match tok with
  | "8a" => .ok .eightA
  | "8b" => .ok .eightB
  | "8c" => .ok .eightC
  | "8d" => .ok .eightD
  | "12a" => .ok .twelveA
  | "12b" => .ok .twelveB
  | "17a" => .ok .seventeenA
  | "30a" => .ok .thirtyA
  | "35b" => .ok .thirtyfiveB
  | other => .error ⟨s!"bad tone profile '{other}'"⟩

/-- All VDSL2 profiles, the tone `"av"`. -/
def allProfiles : Vdsl2Profiles :=
  .eightA ||| .eightB ||| .eightC ||| .eightD ||| .twelveA ||| .twelveB ||| .seventeenA |||
    .thirtyA ||| .thirtyfiveB

def parseTone (s : String) : Except ConfigError Vdsl2Profiles :=
  let s := trim s
  if s = "" ∨ s = "a" then .ok .none
  else if s = "av" then .ok allProfiles
  else
    (splitWhitespace s).foldlM (fun profiles tok => do return profiles ||| (← parseProfile tok))
      .none

def parseXferMode (s : String) : Except ConfigError XferMode :=
  match trim s with
  | "ptm" | "" => .ok .ptm
  | "atm" => .ok .atm
  | other => .error ⟨s!"bad xfer_mode '{other}'"⟩

def parseEncaps (s : String) : Except ConfigError AtmEncap :=
  match trim s with
  | "llc" => .ok .llc
  | "vcmux" => .ok .vcmux
  | other => .error ⟨s!"bad encaps '{other}'"⟩

def parsePayload (s : String) : Except ConfigError AtmLinkType :=
  match trim s with
  | "bridged" => .ok .eoa
  | "routed" => .ok .ipoa
  | "pppoa" => .ok .pppoa
  | other => .error ⟨s!"bad payload '{other}'"⟩

/-! ## Sources of settings -/

/-- Optional command line overrides. -/
structure CliOverrides where
  annex : Option String := none
  lineMode : Option String := none
  tone : Option String := none
  xferMode : Option String := none
  vpi : Option String := none
  vci : Option String := none
  encaps : Option String := none
  payload : Option String := none
  bitswap : Option Bool := none
  sra : Option Bool := none
  transportVlan : Option UInt8 := none
  deriving DecidableEq, Repr

/-- The options of a configuration file. -/
abbrev Uci := String → Option String

def uciGet (uci : Uci) (key : String) : String := (uci key).getD ""

def nonempty (s : Option String) : Option String := s.filter (· ≠ "")

/-- The setting that is given explicitly: on the command line, else in the file. -/
def explicit (uci : Uci) (override : Option String) (key : String) : Option String :=
  nonempty override <|> nonempty (some (uciGet uci key))

/-- Override, then file, then default. -/
def resolve (uci : Uci) (override : Option String) (key default : String) : String :=
  (explicit uci override key).getD default

def explicitLineMode (uci : Uci) (ov : CliOverrides) : Option String :=
  explicit uci ov.lineMode "network.dsl.line_mode"

def explicitXferMode (uci : Uci) (ov : CliOverrides) : Option String :=
  explicit uci ov.xferMode "network.dsl.xfer_mode"

/-- The line mode that an explicit transfer mode stands for. -/
def inferLineMode : String → Option String
  | "atm" => some "adsl"
  | "ptm" => some "vdsl"
  | _ => none

/-- The primary selector. -/
def resolveLineMode (uci : Uci) (ov : CliOverrides) : String :=
  (explicitLineMode uci ov <|> (explicitXferMode uci ov).bind inferLineMode).getD "vdsl"

/-- The transfer mode and the tone that go with a line mode. -/
def smartDefaults : String → String × String
  | "adsl" => ("atm", "")
  | _ => ("ptm", "av")

/-- The `atm-bridge` section. -/
def buildAtm (uci : Uci) (ov : CliOverrides) : Except ConfigError AtmConfig := do
  let vpi := resolve uci ov.vpi "network.@atm-bridge[0].vpi" "8"
  let vci := resolve uci ov.vci "network.@atm-bridge[0].vci" "35"
  let encap := resolve uci ov.encaps "network.@atm-bridge[0].encaps" "llc"
  let payload := resolve uci ov.payload "network.@atm-bridge[0].payload" "bridged"
  return {
    vpi := UInt8.ofNat ((parseUnsigned 256 vpi).getD 8)
    vci := UInt16.ofNat ((parseUnsigned 65536 vci).getD 35)
    encap := ← parseEncaps encap
    linkType := ← parsePayload payload
    qos := .ubr
    pcr := 0 }

/-- The `atm-bridge` section matters with ATM only. -/
def buildAtmFor (uci : Uci) (ov : CliOverrides) :
    XferMode → Except ConfigError (Option AtmConfig)
  | .atm => some <$> buildAtm uci ov
  | .ptm => pure none

/-- A flag that is on unless the file says 0. -/
def uciFlag (uci : Uci) (key : String) : Bool :=
  match parseUnsigned 4294967296 (uciGet uci key) with
  | some value => value != 0
  | none => true

namespace DslConfig

/-- Build a configuration: override, then file, then smart default. -/
def build (uci : Uci) (ov : CliOverrides) : Except ConfigError DslConfig := do
  let lineMode := resolveLineMode uci ov
  let (defaultXfer, defaultTone) := smartDefaults lineMode
  let annexStr := resolve uci ov.annex "network.dsl.annex" "b"
  let xferStr := resolve uci ov.xferMode "network.dsl.xfer_mode" defaultXfer
  let tone := resolve uci ov.tone "network.dsl.tone" defaultTone
  let modulation ← parseModulation lineMode xferStr
  let annex ← parseAnnex annexStr
  let profiles ← parseTone tone
  let xferMode ← parseXferMode xferStr
  -- VDSL2 profiles are meaningless for the ADSL modulations
  let profiles := if modulation.carriesProfiles then profiles else .none
  let atm ← buildAtmFor uci ov xferMode
  let bitswap := ov.bitswap.getD (uciFlag uci "network.dsl.bitswap")
  let sra := ov.sra.getD (uciFlag uci "network.dsl.sra")
  let transportVlanBase := min
    (ov.transportVlan.getD
      (UInt8.ofNat ((parseUnsigned 256 (uciGet uci "network.dsl.transport_vlan")).getD 0))) 7
  return { modulation, annex, profiles, xferMode, atm, bitswap, sra, transportVlanBase }

/-- `DslConfig::load`, given what `Uci::new` came to. -/
def load (opened : Except String Uci) (ov : CliOverrides) : Except ConfigError DslConfig := do
  build (← opened.mapError ConfigError.mk) ov

/-- VDSL2 Annex B, all profiles, PTM. -/
def default : DslConfig where
  modulation := .vdsl2
  annex := .b
  profiles := allProfiles
  xferMode := .ptm
  atm := none
  bitswap := true
  sra := true
  transportVlanBase := 0

end DslConfig

/-! ## What a configuration resolves to -/

/-- The transport mode that a configuration is checked against. -/
def XferMode.hint : XferMode → TransportHint
  | .ptm => .ptm
  | .atm => .atm

/-- A configuration that passes both checks. -/
def DslConfig.Valid (cfg : DslConfig) : Prop :=
  validateLineConfig cfg.modulation cfg.annex cfg.profiles = .ok () ∧
    validateXferMode cfg.modulation cfg.xferMode.hint = .ok ()

instance (cfg : DslConfig) : Decidable cfg.Valid := inferInstanceAs (Decidable (_ ∧ _))

/-- The two mode selectors fit together: an explicit transfer mode is ATM exactly if the line
mode, which it may stand in for, is ADSL. -/
def SelectorsAgree (uci : Uci) (ov : CliOverrides) : Prop :=
  ∀ xfer, explicitXferMode uci ov = some xfer →
    (trim xfer = "atm" ↔ explicitLineMode uci ov = some "adsl" ∨
      (explicitLineMode uci ov = none ∧ xfer = "atm"))

/-- What is known about a configuration that was built. -/
structure Built (uci : Uci) (ov : CliOverrides) (cfg : DslConfig) : Prop where
  modulation : parseModulation (resolveLineMode uci ov) (resolve uci ov.xferMode
    "network.dsl.xfer_mode" (smartDefaults (resolveLineMode uci ov)).1) = .ok cfg.modulation
  xferMode : parseXferMode (resolve uci ov.xferMode "network.dsl.xfer_mode"
    (smartDefaults (resolveLineMode uci ov)).1) = .ok cfg.xferMode
  profiles : cfg.modulation.carriesProfiles = false → cfg.profiles = .none
  transportVlanBase : cfg.transportVlanBase ≤ 7

section Build

variable {uci : Uci} {ov : CliOverrides} {cfg : DslConfig}

theorem min_le_seven (base : UInt8) : min base 7 ≤ 7 := by
  change (if base ≤ 7 then base else 7) ≤ 7
  split
  · assumption
  · exact UInt8.le_refl 7

theorem built_of_build (built : DslConfig.build uci ov = .ok cfg) : Built uci ov cfg := by
  obtain ⟨modulation, isModulation, built⟩ := bind_eq_ok.mp built
  obtain ⟨annex, _, built⟩ := bind_eq_ok.mp built
  obtain ⟨profiles, _, built⟩ := bind_eq_ok.mp built
  obtain ⟨xferMode, isXferMode, built⟩ := bind_eq_ok.mp built
  obtain ⟨atm, _, built⟩ := bind_eq_ok.mp built
  cases built
  refine ⟨isModulation, isXferMode, fun single => ?_, ?_⟩
  · exact if_neg (by rw [single]; decide)
  · exact min_le_seven _

theorem parseModulation_eq_ok {lineMode xferMode : String} {modulation : Modulation}
    (parsed : parseModulation lineMode xferMode = .ok modulation) :
    (lineMode = "adsl" ∧ modulation = .adsl2Plus) ∨
      (lineMode ≠ "adsl" ∧ modulation = .vdsl2) := by
  unfold parseModulation at parsed
  split at parsed
  · cases parsed
    exact .inr ⟨by decide, rfl⟩
  · cases parsed
    exact .inr ⟨by decide, rfl⟩
  · cases parsed
    exact .inl ⟨rfl, rfl⟩
  · cases parsed

theorem parseXferMode_eq_ok {s : String} {xferMode : XferMode}
    (parsed : parseXferMode s = .ok xferMode) : xferMode = .atm ↔ trim s = "atm" := by
  unfold parseXferMode at parsed
  split at parsed
  · next equal =>
      cases parsed
      rw [equal]
      decide
  · next equal =>
      cases parsed
      rw [equal]
      decide
  · next equal =>
      cases parsed
      exact iff_of_true rfl equal
  · cases parsed

/-- The line mode is ADSL if it is given as such, or inferred from the transfer mode. -/
theorem resolveLineMode_eq_adsl : resolveLineMode uci ov = "adsl" ↔
    explicitLineMode uci ov = some "adsl" ∨
      (explicitLineMode uci ov = none ∧ explicitXferMode uci ov = some "atm") := by
  have inferred (xfer : String) : (inferLineMode xfer).getD "vdsl" = "adsl" ↔ xfer = "atm" := by
    unfold inferLineMode
    split
    · decide
    · decide
    · next other _ => exact iff_of_false (by decide) other
  unfold resolveLineMode
  cases explicitLineMode uci ov with
  | some lineMode => simp
  | none =>
      cases explicitXferMode uci ov with
      | none => simp
      | some xfer => simpa using inferred xfer

/-- A configuration that was built passes the line check. -/
theorem validateLineConfig_build (built : DslConfig.build uci ov = .ok cfg) :
    validateLineConfig cfg.modulation cfg.annex cfg.profiles = .ok () := by
  have facts := built_of_build built
  rcases parseModulation_eq_ok facts.modulation with ⟨_, isAdsl⟩ | ⟨_, isVdsl⟩
  · rw [facts.profiles (by rw [isAdsl]; rfl), isAdsl]
    exact validateLineConfig_adsl2Plus cfg.annex
  · rw [isVdsl]
    exact validateLineConfig_vdsl2 cfg.annex cfg.profiles

/-- A configuration that was built is valid exactly if its two selectors agree. -/
theorem valid_build_iff (built : DslConfig.build uci ov = .ok cfg) :
    cfg.Valid ↔ SelectorsAgree uci ov := by
  have facts := built_of_build built
  have isAtm := parseXferMode_eq_ok facts.xferMode
  have checked : cfg.Valid ↔ (resolveLineMode uci ov = "adsl" ↔ cfg.xferMode = .atm) := by
    rw [DslConfig.Valid, and_iff_right (validateLineConfig_build built), validateXferMode_iff]
    rcases parseModulation_eq_ok facts.modulation with ⟨isAdsl, equal⟩ | ⟨isVdsl, equal⟩
    · cases mode : cfg.xferMode <;> simp [equal, isAdsl, XferMode.hint]
    · cases mode : cfg.xferMode <;> simp [equal, isVdsl, XferMode.hint]
  rw [checked, isAtm, SelectorsAgree, resolve]
  cases given : explicitXferMode uci ov with
  | none =>
      -- the smart default goes with the line mode
      have agrees (lineMode : String) :
          lineMode = "adsl" ↔ trim (smartDefaults lineMode).1 = "atm" := by
        unfold smartDefaults
        split
        · decide
        · next other => exact iff_of_false other (by decide)
      rw [explicitXferMode] at given
      simpa [given] using agrees _
  | some xfer =>
      rw [resolveLineMode_eq_adsl, given]
      rw [explicitXferMode] at given
      simp [given, iff_comm]

-- The built-in defaults pass both checks.
example : DslConfig.default.Valid := by decide

end Build

end RbctlDsl.Dsl
