import RbctlDsl.Dsl.BoardWorker

/-!
# Live metrics

`ubus_obj.rs`: the state that the board worker shares with the readers of the status, and the
reply of the `metrics` method.  The `STATUS` snapshot of `daemon.rs` is made from the same state.
-/

namespace RbctlDsl.Dsl

open RbctlDsl.Lib RbctlDsl.Proto

/-! ## The shared state -/

/-- `as_str`. -/
def FwStatus.asStr : FwStatus → String
  | .idle => "idle"
  | .upgrading => "upgrading"
  | .upgradingProgress stage pct => s!"upgrading (stage={stage}, pct={pct}%)"
  | .done => "done"
  | .failed msg => s!"failed: {msg}"

/-- Live DSL metrics, with their values before anything is published. -/
structure DslState where
  lineObj : Option LineObj := none
  uptimeSecs : Nat := 0
  xferMode : Option XferMode := none
  modulation : Modulation := .vdsl2
  annex : Annex := .b
  fwStatus : FwStatus := .idle
  deriving DecidableEq, Repr

namespace DslState

/-- The display fields of the configuration. -/
def publishConfig (state : DslState) (xferMode : XferMode) (modulation : Modulation)
    (annex : Annex) : DslState :=
  { state with xferMode := some xferMode, modulation := modulation, annex := annex }

/-- What an operation of the worker publishes. -/
def after (state : DslState) : Event workerCalls → DslState
  | ⟨.publishConfig xferMode modulation annex, _⟩ => state.publishConfig xferMode modulation annex
  | ⟨.publishLine line uptimeSecs xferMode modulation annex, _⟩ =>
    { state.publishConfig xferMode modulation annex with
      lineObj := some line, uptimeSecs := uptimeSecs }
  | ⟨.setFwStatus status, _⟩ => { state with fwStatus := status }
  | _ => state

end DslState

/-! ## Texts -/

namespace Lstate

def unknown : Int32 := -1
def notInitialized : Int32 := 0
def silent : Int32 := 3
def handshake : Int32 := 4
def fullInit : Int32 := 5
def showtimeTcSync : Int32 := 7

end Lstate

/-- The state text, its number, and whether the line is up. -/
def mapLinkStatus : LinkStatus → String × Int32 × Bool
  | .noSignal => ("Silent", Lstate.silent, false)
  | .establishingLink => ("Handshake", Lstate.handshake, false)
  | .initializing => ("Full init", Lstate.fullInit, false)
  | .up => ("Showtime with TC-Layer sync", Lstate.showtimeTcSync, true)
  | .unknown _ => ("Unknown", Lstate.unknown, false)

theorem mapLinkStatus_up_iff (status : LinkStatus) :
    (mapLinkStatus status).2.2 = true ↔ status = .up := by
  cases status <;> simp [mapLinkStatus]

def modeString (line : LineObj) : String :=
  match line.modulationCode.toNat with
  | 6 => "G.993.2 (VDSL2)"
  | 4 => "G.992.5 (ADSL2+)"
  | c => s!"G.992.x (modulation {c})"

def annexString (code : UInt8) : String :=
  match code.toNat with
  | 0 => "A"
  | 1 => "B"
  | 2 => "I"
  | 3 => "M"
  | 6 => "J"
  | _ => "?"

/-- The profiles with their names, in the order of their bits. -/
def profileNames : List (Vdsl2Profiles × String) :=
  [(.eightA, "8a"), (.eightB, "8b"), (.eightC, "8c"), (.eightD, "8d"), (.twelveA, "12a"),
    (.twelveB, "12b"), (.seventeenA, "17a"), (.thirtyA, "30a"), (.thirtyfiveB, "35b")]

def profileString (profiles : Vdsl2Profiles) : String :=
  " ".intercalate ((profileNames.filter fun (profile, _) => profiles.mask &&& profile.mask ≠ 0).map
    (·.2))

/-! ## The metrics reply -/

/-- A value of a blob message. -/
inductive BlobValue where
  | str (value : String)
  | i32 (value : Int32)
  | i64 (value : Int64)
  | bool (value : Bool)
  | table (entries : List (String × BlobValue))
  deriving Repr

/-- A table lists its entries in the order in which they are put. -/
abbrev BlobTable := List (String × BlobValue)

/-- The sub-table of one direction. -/
def direction (m : LineMetrics) (upstream : Bool) : BlobTable :=
  let (rate, attndr, snr, attn, power) :=
    if upstream then
      (m.upRate, m.upAttainableRate, m.upNoiseMargin, m.upAttenuation, m.upOutputPower)
    else
      (m.downRate, m.downAttainableRate, m.downNoiseMargin, m.downAttenuation, m.downOutputPower)
  [("data_rate", .i32 rate.toInt32), ("attndr", .i32 attndr.toInt32), ("snr", .i32 snr.toInt32),
    ("latn", .i32 attn.toInt32), ("satn", .i32 attn.toInt32), ("actatp", .i32 power.toInt32),
    ("interleave_delay", .i32 0), ("inp", .i32 0)]

def buildMetricsReply (state : DslState) : BlobTable :=
  match state.lineObj with
  | some line =>
    let (text, number, up) := mapLinkStatus line.linkStatus
    [("state", .str text), ("state_num", .i32 number), ("up", .bool up),
      ("uptime", .i64 (Int64.ofNat state.uptimeSecs)), ("mode", .str (modeString line)),
      ("annex", .str (annexString line.annexCode))] ++
    (line.vdsl2Profiles.toList.map fun profiles => ("profile", .str (profileString profiles))) ++
    [("upstream", .table (direction line.metrics true)),
      ("downstream", .table (direction line.metrics false)), ("api_version", .str "4.0"),
      ("chipset", .str "EcoNet EN75xx")]
  | none =>
    [("state", .str "Not initialized"), ("state_num", .i32 Lstate.notInitialized),
      ("up", .bool false), ("uptime", .i64 0)]

/-! ## The snapshot -/

/-- `{:?}` of a modulation. -/
def debugModulation : Modulation → String
  | .adslAnsiT1413 => "AdslAnsiT1413"
  | .adslGdmt => "AdslGdmt"
  | .adslGlite => "AdslGlite"
  | .adslGdmtBis => "AdslGdmtBis"
  | .adsl2Plus => "Adsl2Plus"
  | .adslMultimode => "AdslMultimode"
  | .vdsl2 => "Vdsl2"
  | .multimode => "Multimode"

def debugAnnex : Annex → String
  | .a => "A"
  | .b => "B"
  | .i => "I"
  | .m => "M"
  | .al => "AL"
  | .alm => "ALM"
  | .j => "J"
  | .bj => "BJ"
  | .auto => "Auto"

def debugXferMode : XferMode → String
  | .atm => "Atm"
  | .ptm => "Ptm"

/-- Snapshot of the daemon state, with the default of every field. -/
structure StatusSnapshot where
  state : String := ""
  stateNum : Int32 := 0
  up : Bool := false
  uptimeSecs : Nat := 0
  modulation : String := ""
  annex : String := ""
  xferMode : String := ""
  downRate : UInt32 := 0
  upRate : UInt32 := 0
  downSnr : UInt32 := 0
  upSnr : UInt32 := 0
  fwStatus : String := ""
  deriving DecidableEq, Repr

/-- `build_snapshot`. -/
def buildSnapshot (state : DslState) : StatusSnapshot :=
  match state.lineObj with
  | some line =>
    let (text, number, up) := mapLinkStatus line.linkStatus
    { state := text, stateNum := number, up := up, uptimeSecs := state.uptimeSecs
      modulation := s!"{line.modulationCode}", annex := annexString line.annexCode
      xferMode := debugXferMode (state.xferMode.getD .ptm)
      downRate := line.metrics.downRate, upRate := line.metrics.upRate
      downSnr := line.metrics.downNoiseMargin, upSnr := line.metrics.upNoiseMargin
      fwStatus := state.fwStatus.asStr }
  | none =>
    { modulation := debugModulation state.modulation, annex := debugAnnex state.annex
      xferMode := debugXferMode (state.xferMode.getD .ptm), fwStatus := state.fwStatus.asStr }

/-! ## What is reported -/

namespace DslState

variable (state : DslState)

/-- Whether the line is up, as far as it is known. -/
def isUp : Bool := state.lineObj.any fun line => (mapLinkStatus line.linkStatus).2.2

/-- The uptime of the line, if one is known. -/
def shownUptime : Nat := if state.lineObj.isSome then state.uptimeSecs else 0

@[simp] theorem buildSnapshot_up : (buildSnapshot state).up = state.isUp := by
  rw [buildSnapshot, isUp]
  cases state.lineObj with
  | none => rfl
  | some line => rfl

@[simp] theorem buildSnapshot_uptimeSecs :
    (buildSnapshot state).uptimeSecs = state.shownUptime := by
  rw [buildSnapshot, shownUptime]
  cases state.lineObj with
  | none => rfl
  | some line => rfl

@[simp] theorem buildMetricsReply_up :
    (buildMetricsReply state).lookup "up" = some (.bool state.isUp) := by
  rw [buildMetricsReply, isUp]
  cases state.lineObj with
  | none => rfl
  | some line => rfl

@[simp] theorem buildMetricsReply_uptime :
    (buildMetricsReply state).lookup "uptime" = some (.i64 (Int64.ofNat state.shownUptime)) := by
  rw [buildMetricsReply, shownUptime]
  cases state.lineObj with
  | none => rfl
  | some line => rfl

theorem isUp_iff : state.isUp = true ↔ state.lineObj.map (·.linkStatus) = some .up := by
  rw [isUp]
  cases state.lineObj with
  | none => simp
  | some line => simp [mapLinkStatus_up_iff]

end DslState

end RbctlDsl.Dsl
