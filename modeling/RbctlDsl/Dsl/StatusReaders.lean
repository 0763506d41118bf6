import Mathlib.Algebra.Group.Nat.Defs
import RbctlDsl.Dsl.UbusObj

/-!
# Two readers of one state

The `STATUS` snapshot and the `metrics` reply are made from the same shared state.  The snapshot
carries rates and margins as the board sends them, without a sign; the reply casts them to signed
integers.
-/

namespace RbctlDsl.Dsl

open RbctlDsl.Lib RbctlDsl.Proto

/-! ## What both report -/

/-- The number that an integer of a message stands for. -/
def BlobValue.number : BlobValue → Option Int
  | .i32 value => some value.toInt
  | .i64 value => some value.toInt
  | _ => none

/-- An entry of a sub-table. -/
def subEntry (reply : BlobTable) (name key : String) : Option BlobValue :=
  match reply.lookup name with
  | some (.table entries) => entries.lookup key
  | _ => none

/-- A snapshot and a reply say the same where they say something of the same. -/
structure Agree (snapshot : StatusSnapshot) (reply : BlobTable) : Prop where
  state : reply.lookup "state" = some (.str snapshot.state)
  stateNum : reply.lookup "state_num" = some (.i32 snapshot.stateNum)
  up : reply.lookup "up" = some (.bool snapshot.up)
  uptime : (reply.lookup "uptime").bind (·.number) = some ↑snapshot.uptimeSecs
  annex : reply.lookup "annex" = some (.str snapshot.annex)
  downRate : (subEntry reply "downstream" "data_rate").bind (·.number) =
    some ↑snapshot.downRate.toNat
  upRate : (subEntry reply "upstream" "data_rate").bind (·.number) = some ↑snapshot.upRate.toNat
  downSnr : (subEntry reply "downstream" "snr").bind (·.number) = some ↑snapshot.downSnr.toNat
  upSnr : (subEntry reply "upstream" "snr").bind (·.number) = some ↑snapshot.upSnr.toNat

/-! ## Where they agree -/

/-- A cast to a signed integer keeps the numbers of the lower half. -/
theorem toInt_toInt32_iff (value : UInt32) :
    value.toInt32.toInt = value.toNat ↔ value.toNat < 2 ^ 31 := by
  constructor
  · intro same
    have below := Int32.toInt_lt value.toInt32
    rw [same] at below
    exact_mod_cast below
  · intro below
    have cast : value.toInt32 = Int32.ofNat value.toNat := by
      rw [← UInt32.toInt32_ofNat', UInt32.ofNat_toNat]
    rw [cast, Int32.toInt_ofNat_of_lt below]

theorem toInt_ofNat_iff (value : Nat) : (Int64.ofNat value).toInt = value ↔ value < 2 ^ 63 := by
  constructor
  · intro same
    have below := Int64.toInt_lt (Int64.ofNat value)
    rw [same] at below
    exact_mod_cast below
  · exact Int64.toInt_ofNat_of_lt

section Readers

variable {state : DslState} {line : LineObj}

theorem buildSnapshot_eq (known : state.lineObj = some line) :
    buildSnapshot state =
      { state := (mapLinkStatus line.linkStatus).1
        stateNum := (mapLinkStatus line.linkStatus).2.1
        up := (mapLinkStatus line.linkStatus).2.2, uptimeSecs := state.uptimeSecs
        modulation := s!"{line.modulationCode}", annex := annexString line.annexCode
        xferMode := debugXferMode (state.xferMode.getD .ptm)
        downRate := line.metrics.downRate, upRate := line.metrics.upRate
        downSnr := line.metrics.downNoiseMargin, upSnr := line.metrics.upNoiseMargin
        fwStatus := state.fwStatus.asStr } := by
  rw [buildSnapshot, known]

theorem subEntry_upstream (known : state.lineObj = some line) (key : String) :
    subEntry (buildMetricsReply state) "upstream" key =
      (direction line.metrics true).lookup key := by
  have found : (buildMetricsReply state).lookup "upstream" =
      some (.table (direction line.metrics true)) := by
    simp only [buildMetricsReply, known]
    cases line.vdsl2Profiles <;> rfl
  rw [subEntry, found]

theorem subEntry_downstream (known : state.lineObj = some line) (key : String) :
    subEntry (buildMetricsReply state) "downstream" key =
      (direction line.metrics false).lookup key := by
  have found : (buildMetricsReply state).lookup "downstream" =
      some (.table (direction line.metrics false)) := by
    simp only [buildMetricsReply, known]
    cases line.vdsl2Profiles <;> rfl
  rw [subEntry, found]

/-- An entry that holds a word reads as its number where the word fits. -/
theorem reported_iff {reply : BlobTable} {name key : String} {value : UInt32}
    (entry : subEntry reply name key = some (.i32 value.toInt32)) :
    (subEntry reply name key).bind (·.number) = some ↑value.toNat ↔ value.toNat < 2 ^ 31 := by
  rw [entry, ← toInt_toInt32_iff]
  exact Option.some_inj

theorem uptime_iff (known : state.lineObj = some line) :
    ((buildMetricsReply state).lookup "uptime").bind (·.number) = some ↑state.uptimeSecs ↔
      state.uptimeSecs < 2 ^ 63 := by
  have uptime : (buildMetricsReply state).lookup "uptime" =
      some (.i64 (Int64.ofNat state.uptimeSecs)) := by
    rw [buildMetricsReply, known]
    rfl
  rw [uptime, ← toInt_ofNat_iff]
  exact Option.some_inj

/-- The readers agree exactly if every number that both report fits into a signed integer. -/
theorem agree_iff (state : DslState) (line : LineObj) (known : state.lineObj = some line) :
    Agree (buildSnapshot state) (buildMetricsReply state) ↔
      state.uptimeSecs < 2 ^ 63 ∧ line.metrics.downRate.toNat < 2 ^ 31 ∧
        line.metrics.upRate.toNat < 2 ^ 31 ∧ line.metrics.downNoiseMargin.toNat < 2 ^ 31 ∧
        line.metrics.upNoiseMargin.toNat < 2 ^ 31 := by
  have downRate := reported_iff (subEntry_downstream known "data_rate")
  have upRate := reported_iff (subEntry_upstream known "data_rate")
  have downSnr := reported_iff (subEntry_downstream known "snr")
  have upSnr := reported_iff (subEntry_upstream known "snr")
  rw [buildSnapshot_eq known]
  constructor
  · intro agree
    exact ⟨(uptime_iff known).mp agree.uptime, downRate.mp agree.downRate,
      upRate.mp agree.upRate, downSnr.mp agree.downSnr, upSnr.mp agree.upSnr⟩
  · intro ⟨late, downFits, upFits, downMargin, upMargin⟩
    constructor
    case uptime => exact (uptime_iff known).mpr late
    case downRate => exact downRate.mpr downFits
    case upRate => exact upRate.mpr upFits
    case downSnr => exact downSnr.mpr downMargin
    case upSnr => exact upSnr.mpr upMargin
    all_goals
      rw [buildMetricsReply, known]
      rfl

end Readers

/-- A reply with a downstream noise margin and zeros. -/
def marginReply (margin : UInt32) : Bytes :=
  List.replicate 28 0 ++ beBytes32 margin ++ List.replicate 31 0

theorem agree_iff_marginReply : ∃ line, parseLineObj (marginReply 63) = .ok line ∧
    (Agree (buildSnapshot { lineObj := some line, uptimeSecs := 300 })
        (buildMetricsReply { lineObj := some line, uptimeSecs := 300 }) ↔
      300 < 2 ^ 63 ∧ line.metrics.downRate.toNat < 2 ^ 31 ∧
        line.metrics.upRate.toNat < 2 ^ 31 ∧ line.metrics.downNoiseMargin.toNat < 2 ^ 31 ∧
        line.metrics.upNoiseMargin.toNat < 2 ^ 31) :=
  ⟨_, rfl, agree_iff { lineObj := some _, uptimeSecs := 300 } _ rfl⟩

/-- A noise margin of `-1`, read once as `4294967295`. -/
theorem not_agree_marginReply :
    ¬ ∀ (reply : Bytes) (line : LineObj) (state : DslState), reply.length = 63 →
      parseLineObj reply = .ok line → state.lineObj = some line →
      Agree (buildSnapshot state) (buildMetricsReply state) := by
  intro claim
  obtain ⟨line, parsed, margin⟩ : ∃ line, parseLineObj (marginReply 0xffffffff) = .ok line ∧
      line.metrics.downNoiseMargin = 0xffffffff := ⟨_, rfl, rfl⟩
  have agree := claim _ line { lineObj := some line } rfl parsed rfl
  rw [buildSnapshot_eq rfl] at agree
  have fits := (reported_iff (subEntry_downstream rfl "snr")).mp agree.downSnr
  rw [margin] at fits
  exact absurd fits (by decide)

end RbctlDsl.Dsl
