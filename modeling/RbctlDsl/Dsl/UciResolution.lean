import RbctlDsl.Dsl.UciCfg

/-!
# What the settings resolve to

A configuration that `DslConfig::build` returns is well formed.  It does not depend on the options
that the command line overrides.  A mode that is left open is inferred from the other one.
-/

namespace RbctlDsl.Dsl

open RbctlDsl.Lib RbctlDsl.Proto

/-! ## The parts of a configuration -/

/-- Only the nine profiles that have a name. -/
def NamedOnly (profiles : Vdsl2Profiles) : Prop := profiles.mask &&& 0x1ff = profiles.mask

instance (profiles : Vdsl2Profiles) : Decidable (NamedOnly profiles) :=
  inferInstanceAs (Decidable (_ = _))

theorem namedOnly_or {left right : Vdsl2Profiles} (isLeft : NamedOnly left)
    (isRight : NamedOnly right) : NamedOnly (left ||| right) := by
  change (left.mask ||| right.mask) &&& 0x1ff = left.mask ||| right.mask
  apply UInt16.toBitVec_inj.mp
  have leftBits := congrArg UInt16.toBitVec isLeft
  have rightBits := congrArg UInt16.toBitVec isRight
  simp only [UInt16.toBitVec_and, UInt16.toBitVec_or] at leftBits rightBits ⊢
  rw [BitVec.and_comm, BitVec.and_or_distrib_left, BitVec.and_comm, leftBits, BitVec.and_comm,
    rightBits]

theorem namedOnly_of_parseProfile {tok : String} {profiles : Vdsl2Profiles}
    (parsed : parseProfile tok = .ok profiles) : NamedOnly profiles := by
  unfold parseProfile at parsed
  split at parsed <;> cases parsed <;> decide

theorem namedOnly_of_foldlM {tokens : List String} {start profiles : Vdsl2Profiles}
    (isStart : NamedOnly start)
    (folded : tokens.foldlM (fun profiles tok => do return profiles ||| (← parseProfile tok))
      start = (.ok profiles : Except ConfigError Vdsl2Profiles)) : NamedOnly profiles := by
  induction tokens generalizing start with
  | nil =>
      cases folded
      exact isStart
  | cons tok tokens ih =>
      rw [List.foldlM_cons] at folded
      obtain ⟨next, one, folded⟩ := bind_eq_ok.mp folded
      obtain ⟨profile, parsed, same⟩ := bind_eq_ok.mp one
      cases same
      exact ih (namedOnly_or isStart (namedOnly_of_parseProfile parsed)) folded

/-- A tone stands for named profiles. -/
theorem namedOnly_of_parseTone {s : String} {profiles : Vdsl2Profiles}
    (parsed : parseTone s = .ok profiles) : NamedOnly profiles := by
  have none : NamedOnly .none := by decide
  unfold parseTone at parsed
  dsimp only at parsed
  split at parsed
  · cases parsed
    exact none
  · split at parsed
    · cases parsed
      decide
    · exact namedOnly_of_foldlM none parsed

theorem carriesProfiles_eq_false {modulation : Modulation}
    (single : ¬ (modulation = .vdsl2 ∨ modulation = .multimode)) :
    modulation.carriesProfiles = false := by
  cases modulation with
  | vdsl2 => exact absurd (.inl rfl) single
  | multimode => exact absurd (.inr rfl) single
  | _ => rfl

theorem isSome_of_buildAtmFor {uci : Uci} {ov : CliOverrides} {xferMode : XferMode}
    {atm : Option AtmConfig} (built : buildAtmFor uci ov xferMode = .ok atm) :
    atm.isSome = true ↔ xferMode = .atm := by
  cases xferMode with
  | ptm =>
      cases built
      decide
  | atm =>
      rw [buildAtmFor] at built
      cases section' : buildAtm uci ov with
      | error error =>
          rw [section'] at built
          cases built
      | ok cfg =>
          rw [section'] at built
          cases built
          exact iff_of_true rfl rfl

namespace DslConfig

/-- A configuration that the board accepts as a line configuration, with an ATM section exactly
for ATM. -/
structure WellFormed (cfg : DslConfig) : Prop where
  line : validateLineConfig cfg.modulation cfg.annex cfg.profiles = .ok ()
  profiles : NamedOnly cfg.profiles
  noProfiles : ¬ (cfg.modulation = .vdsl2 ∨ cfg.modulation = .multimode) → cfg.profiles = .none
  atm : cfg.atm.isSome = true ↔ cfg.xferMode = .atm
  transportVlanBase : cfg.transportVlanBase ≤ 7

/-- Whatever the file and the command line say, what is built is well formed. -/
theorem wellFormed_build (uci : Uci) (ov : CliOverrides) (cfg : DslConfig)
    (built : build uci ov = .ok cfg) : cfg.WellFormed := by
  have facts := built_of_build built
  have line := validateLineConfig_build built
  obtain ⟨modulation, _, built⟩ := bind_eq_ok.mp built
  obtain ⟨annex, _, built⟩ := bind_eq_ok.mp built
  obtain ⟨profiles, parsed, built⟩ := bind_eq_ok.mp built
  obtain ⟨xferMode, _, built⟩ := bind_eq_ok.mp built
  obtain ⟨atm, isAtm, built⟩ := bind_eq_ok.mp built
  cases built
  constructor
  · exact line
  · change NamedOnly (if modulation.carriesProfiles then profiles else .none)
    split
    · exact namedOnly_of_parseTone parsed
    · decide
  · intro single
    exact facts.profiles (carriesProfiles_eq_false single)
  · exact isSome_of_buildAtmFor isAtm
  · exact facts.transportVlanBase

/-- An ADSL line with VDSL2 profiles to drop and a VLAN base that is out of range. -/
def atmOptions : Uci
  | "network.dsl.line_mode" => some "adsl"
  | "network.dsl.annex" => some "J"
  | "network.dsl.tone" => some "av"
  | "network.@atm-bridge[0].vpi" => some "1"
  | "network.dsl.transport_vlan" => some "9"
  | _ => none

theorem wellFormed_build_adsl : ∃ cfg, build atmOptions {} = .ok cfg ∧ cfg.WellFormed :=
  ⟨_, rfl, wellFormed_build atmOptions {} _ rfl⟩

end DslConfig

/-! ## One mode alone -/

/-- With one of the two modes left open, the inferred one goes with the one that is given, exactly
if the transfer mode is not ATM with white space around it. -/
theorem inferred_iff (uci : Uci) (ov : CliOverrides) (cfg : DslConfig)
    (single : explicitLineMode uci ov = none ∨ explicitXferMode uci ov = none)
    (built : DslConfig.build uci ov = .ok cfg) :
    validateXferMode cfg.modulation cfg.xferMode.hint = .ok () ↔
      ∀ xfer, explicitXferMode uci ov = some xfer → trim xfer = "atm" → xfer = "atm" := by
  have valid : validateXferMode cfg.modulation cfg.xferMode.hint = .ok () ↔ cfg.Valid :=
    (and_iff_right (validateLineConfig_build built)).symm
  rw [valid, valid_build_iff built, SelectorsAgree]
  have same : trim "atm" = "atm" := by decide
  constructor
  · intro agree xfer given trimmed
    rcases (agree xfer given).mp trimmed with adsl | ⟨_, equal⟩
    · cases single with
      | inl none => cases none.symm.trans adsl
      | inr none => cases none.symm.trans given
    · exact equal
  · intro exact xfer given
    constructor
    · intro trimmed
      cases single with
      | inl none => exact .inr ⟨none, exact xfer given trimmed⟩
      | inr none => cases none.symm.trans given
    · rintro (adsl | ⟨_, rfl⟩)
      · cases single with
        | inl none => cases none.symm.trans adsl
        | inr none => cases none.symm.trans given
      · exact same

/-- A file that sets the transfer mode only. -/
def onlyXferMode (value : String) : Uci := fun key =>
  if key = "network.dsl.xfer_mode" then some value else none

theorem inferred_iff_atm : ∃ cfg, DslConfig.build (onlyXferMode "atm") {} = .ok cfg ∧
    (validateXferMode cfg.modulation cfg.xferMode.hint = .ok () ↔
      ∀ xfer, explicitXferMode (onlyXferMode "atm") {} = some xfer → trim xfer = "atm" →
        xfer = "atm") :=
  ⟨_, rfl, inferred_iff (onlyXferMode "atm") {} _ (.inl rfl) rfl⟩

/-- A transfer mode that is read as ATM and inferred from as nothing. -/
theorem not_inferred_blank :
    ¬ ∀ (uci : Uci) (ov : CliOverrides) (cfg : DslConfig),
      explicitLineMode uci ov = none ∨ explicitXferMode uci ov = none →
      DslConfig.build uci ov = .ok cfg →
      validateXferMode cfg.modulation cfg.xferMode.hint = .ok () := by
  intro claim
  have accepted := claim (onlyXferMode " atm") {} _ (.inl rfl) rfl
  exact absurd accepted (by decide)

/-! ## Overridden options -/

/-- Whether the command line overrides the option at a key. -/
def overridden (ov : CliOverrides) (key : String) : Bool :=
  match key with
  | "network.dsl.line_mode" => (nonempty ov.lineMode).isSome
  | "network.dsl.xfer_mode" => (nonempty ov.xferMode).isSome
  | "network.dsl.annex" => (nonempty ov.annex).isSome
  | "network.dsl.tone" => (nonempty ov.tone).isSome
  | "network.@atm-bridge[0].vpi" => (nonempty ov.vpi).isSome
  | "network.@atm-bridge[0].vci" => (nonempty ov.vci).isSome
  | "network.@atm-bridge[0].encaps" => (nonempty ov.encaps).isSome
  | "network.@atm-bridge[0].payload" => (nonempty ov.payload).isSome
  | "network.dsl.bitswap" => ov.bitswap.isSome
  | "network.dsl.sra" => ov.sra.isSome
  | "network.dsl.transport_vlan" => ov.transportVlan.isSome
  | _ => false

/-- Two files with the same options, except for overridden ones. -/
def SameExceptOverridden (ov : CliOverrides) (uci uci' : Uci) : Prop :=
  ∀ key, overridden ov key = false → uci key = uci' key

section Masked

variable {ov : CliOverrides} {uci uci' : Uci}

theorem explicit_congr {override : Option String} {key : String}
    (same : (nonempty override).isSome = false → uci key = uci' key) :
    explicit uci override key = explicit uci' override key := by
  unfold explicit
  cases given : nonempty override with
  | some value => rfl
  | none =>
      have equal : uci key = uci' key := same (by rw [given]; rfl)
      rw [uciGet, uciGet, equal]

theorem resolve_congr {override : Option String} {key : String}
    (same : (nonempty override).isSome = false → uci key = uci' key) (default : String) :
    resolve uci override key default = resolve uci' override key default := by
  rw [resolve, resolve, explicit_congr same]

theorem getD_congr {α : Type} {override : Option α} {key : String} (read : String → α)
    (same : override.isSome = false → uci key = uci' key) :
    override.getD (read (uciGet uci key)) = override.getD (read (uciGet uci' key)) := by
  cases override with
  | some value => rfl
  | none => rw [uciGet, uciGet, same rfl]

variable (same : SameExceptOverridden ov uci uci')

include same

theorem resolveLineMode_congr : resolveLineMode uci ov = resolveLineMode uci' ov := by
  have line : explicitLineMode uci ov = explicitLineMode uci' ov :=
    explicit_congr (same "network.dsl.line_mode")
  have xfer : explicitXferMode uci ov = explicitXferMode uci' ov :=
    explicit_congr (same "network.dsl.xfer_mode")
  rw [resolveLineMode, resolveLineMode, line, xfer]

theorem buildAtm_congr : buildAtm uci ov = buildAtm uci' ov := by
  rw [buildAtm, buildAtm,
    resolve_congr (same "network.@atm-bridge[0].vpi"),
    resolve_congr (same "network.@atm-bridge[0].vci"),
    resolve_congr (same "network.@atm-bridge[0].encaps"),
    resolve_congr (same "network.@atm-bridge[0].payload")]

theorem buildAtmFor_congr (xferMode : XferMode) :
    buildAtmFor uci ov xferMode = buildAtmFor uci' ov xferMode := by
  cases xferMode with
  | atm => rw [buildAtmFor, buildAtmFor, buildAtm_congr same]
  | ptm => rfl

end Masked

/-- What the command line overrides, the file has no influence on. -/
theorem build_masked (ov : CliOverrides) (uci uci' : Uci)
    (same : SameExceptOverridden ov uci uci') :
    DslConfig.build uci ov = DslConfig.build uci' ov := by
  have bitswap : ov.bitswap.getD (uciFlag uci "network.dsl.bitswap") =
      ov.bitswap.getD (uciFlag uci' "network.dsl.bitswap") :=
    getD_congr (fun text => uciFlag (fun _ => some text) "") (same "network.dsl.bitswap")
  have sra : ov.sra.getD (uciFlag uci "network.dsl.sra") =
      ov.sra.getD (uciFlag uci' "network.dsl.sra") :=
    getD_congr (fun text => uciFlag (fun _ => some text) "") (same "network.dsl.sra")
  have vlan := getD_congr (fun text => UInt8.ofNat ((parseUnsigned 256 text).getD 0))
    (same "network.dsl.transport_vlan")
  unfold DslConfig.build
  rw [resolveLineMode_congr same, resolve_congr (same "network.dsl.annex"), bitswap, sra, vlan]
  simp only [resolve_congr (same "network.dsl.xfer_mode"), resolve_congr (same "network.dsl.tone"),
    buildAtmFor_congr same]

/-- A bad annex in the file, under an override. -/
theorem build_masked_annex :
    DslConfig.build
        (fun key => if key = "network.dsl.annex" then some "x" else DslConfig.atmOptions key)
        { annex := some "b" } =
      DslConfig.build DslConfig.atmOptions { annex := some "b" } := by
  refine build_masked { annex := some "b" } _ DslConfig.atmOptions ?_
  intro key plain
  by_cases annex : key = "network.dsl.annex"
  · subst annex
    cases plain
  · exact if_neg annex

end RbctlDsl.Dsl
