import RbctlDsl.Dsl.StreamCoverage
import RbctlDsl.Dsl.StreamTrace
import Mathlib.Data.List.Chain

/-!
# Arithmetic of the stream loop

The release build wraps and truncates silently, and the cursor of the stream loop takes over
what a reply carries.  The loop's arithmetic is exact, its percentages stay within 100 and it
ends in time exactly if no reply acknowledges an index far past the last chunk.
-/

namespace RbctlDsl.Dsl

open RbctlDsl.Lib RbctlDsl.Proto

/-- The answered turns among the events of a stream loop, from a cursor on. -/
def turns (total : UInt32) : Cursor → History boardCalls → List Turn
  | _, [] => []
  | cursor, ⟨.request .., .ok reply⟩ :: rest =>
      ⟨cursor, reply⟩ :: turns total (Turn.advance total ⟨cursor, reply⟩) rest
  | cursor, _ :: rest => turns total cursor rest

/-- The percentages that are passed to the progress callback, in order. -/
def percentages (events : History boardCalls) : List Nat :=
  events.filterMap fun event =>
    match event.op with
    | .progress update => some update.pct.toNat
    | .request .. => none

namespace Turn

/-- The index after the turn, as an unbounded number. -/
def position (turn : Turn) : Nat :=
  pastBoth acknowledged turn.cursor.chunkIdx.toNat turn.reply

/-- The percentage after the turn, as an unbounded number. -/
def share (total : UInt32) (turn : Turn) : Nat := turn.position * 100 / max total.toNat 1

/-- No operation of the turn wraps or is truncated. -/
structure Exact (total : UInt32) (turn : Turn) : Prop where
  index : turn.cursor.chunkIdx.toNat < 65536
  offset : contentStart + turn.cursor.chunkIdx.toNat * chunkSize + chunkSize < 4294967296
  succ : turn.position < 4294967296
  hundredfold : turn.position * 100 < 4294967296
  cast : turn.share total < 256
  threshold : turn.cursor.lastPct.toNat + 10 < 256

/-- The reply acknowledges no index past the end, or one so near to it that the percentage stays
within 100 or is not reported. -/
def Tame (total : UInt32) (turn : Turn) : Prop :=
  ∀ good, lastGood turn.reply = some good →
    (good.toNat + 1) * 100 / total.toNat ≤ 100 ∨
      (good.toNat + 1) * 100 / total.toNat < turn.cursor.lastPct.toNat + 10

section Exact

variable {total : UInt32} {turn : Turn}

theorem position_of_none (read : lastGood turn.reply = none) :
    turn.position = turn.cursor.chunkIdx.toNat + 1 := by
  rw [position, pastBoth, acknowledged, read]
  rfl

theorem position_of_some {good : UInt32} (read : lastGood turn.reply = some good) :
    turn.position = max turn.cursor.chunkIdx.toNat good.toNat + 1 := by
  rw [position, pastBoth, acknowledged, read]
  rfl

theorem lt_position (turn : Turn) : turn.cursor.chunkIdx.toNat < turn.position := by
  cases read : lastGood turn.reply with
  | none =>
      rw [position_of_none read]
      exact Nat.lt_succ_self _
  | some good =>
      rw [position_of_some read]
      exact Nat.lt_succ_of_le (Nat.le_max_left _ _)

/-- A position that is a word is the one that the code computes. -/
theorem toNat_chunkIdx (inside : turn.cursor.chunkIdx < total)
    (succ : turn.position < 4294967296) : turn.chunkIdx.toNat = turn.position := by
  have noWrap : lastGood turn.reply ≠ some 0xffffffff := by
    intro last
    rw [position_of_some last] at succ
    have large : 4294967295 ≤ max turn.cursor.chunkIdx.toNat (0xffffffff : UInt32).toNat :=
      Nat.le_max_right _ _
    omega
  have moved := nextPosition_eq_pastBoth turn.cursor.chunkIdx.toNat turn.reply
    (UInt32.lt_iff_toNat_lt.mp inside) noWrap
  rw [nextPosition, UInt32.ofNat_toNat] at moved
  exact moved

/-- A percentage that fits is the one that the code computes. -/
theorem toNat_percent (inside : turn.cursor.chunkIdx < total)
    (hundredfold : turn.position * 100 < 4294967296) (cast : turn.share total < 256) :
    (percent turn.chunkIdx total).toNat = turn.share total := by
  have index := toNat_chunkIdx inside (by omega)
  have below := UInt32.lt_iff_toNat_lt.mp inside
  have positive : (max total 1).toNat = max total.toNat 1 := by
    show (if total ≤ 1 then 1 else total : UInt32).toNat = _
    split
    next small =>
        have one : total.toNat ≤ 1 := UInt32.le_iff_toNat_le.mp small
        rw [Nat.max_eq_right one]
        rfl
    next large =>
        have one : ¬ total.toNat ≤ 1 := fun small => large (UInt32.le_iff_toNat_le.mpr small)
        rw [Nat.max_eq_left (by omega)]
  rw [percent, UInt32.toNat_toUInt8, UInt32.toNat_div, UInt32.toNat_mul, positive, index]
  have product : turn.position * (100 : UInt32).toNat % 2 ^ 32 = turn.position * 100 :=
    Nat.mod_eq_of_lt hundredfold
  rw [product]
  exact Nat.mod_eq_of_lt cast

/-- A turn whose reply is tame stays within a tenth of the end. -/
theorem Tame.share_cases (inside : turn.cursor.chunkIdx < total) (tame : turn.Tame total) :
    turn.share total ≤ 100 ∨ turn.share total < turn.cursor.lastPct.toNat + 10 := by
  have below := UInt32.lt_iff_toNat_lt.mp inside
  have positive : max total.toNat 1 = total.toNat := by omega
  -- up to the end, the percentage is at most 100
  have upTo (index : Nat) (inRange : index ≤ total.toNat) : index * 100 / total.toNat ≤ 100 :=
    Nat.div_le_of_le_mul (Nat.mul_le_mul_right 100 inRange)
  rw [share, positive]
  cases read : lastGood turn.reply with
  | none =>
      rw [position_of_none read]
      exact .inl (upTo _ below)
  | some good =>
      rw [position_of_some read]
      rcases Nat.le_total good.toNat turn.cursor.chunkIdx.toNat with behind | ahead
      · rw [Nat.max_eq_left behind]
        exact .inl (upTo _ below)
      · rw [Nat.max_eq_right ahead]
        exact tame good read

/-- Conversely, the reply of a turn that stays there is tame. -/
theorem tame_of_share (inside : turn.cursor.chunkIdx < total)
    (near : turn.share total ≤ 100 ∨ turn.share total < turn.cursor.lastPct.toNat + 10) :
    turn.Tame total := by
  have below := UInt32.lt_iff_toNat_lt.mp inside
  have positive : max total.toNat 1 = total.toNat := by omega
  intro good read
  rw [share, positive, position_of_some read] at near
  have mono : (good.toNat + 1) * 100 / total.toNat ≤
      (max turn.cursor.chunkIdx.toNat good.toNat + 1) * 100 / total.toNat :=
    Nat.div_le_div_right (Nat.mul_le_mul_right 100 (Nat.succ_le_succ (Nat.le_max_right _ _)))
  rcases near with low | unreported
  · exact .inl (Nat.le_trans mono low)
  · exact .inr (Nat.lt_of_le_of_lt mono unreported)

/-- Nothing wraps in a turn near the end of an image that is not too large. -/
theorem exact_of_share (inside : turn.cursor.chunkIdx < total) (small : total.toNat ≤ 8192)
    (reportedSoFar : turn.cursor.lastPct.toNat ≤ 100)
    (near : turn.share total ≤ 100 ∨ turn.share total < turn.cursor.lastPct.toNat + 10) :
    turn.Exact total := by
  have below := UInt32.lt_iff_toNat_lt.mp inside
  have positive : max total.toNat 1 = total.toNat := by omega
  have close : turn.share total < 110 := by omega
  have bound : turn.position * 100 < 110 * total.toNat := by
    rw [share, positive] at close
    exact (Nat.div_lt_iff_lt_mul (by omega)).mp close
  constructor
  · omega
  · simp only [contentStart, chunkSize]
    omega
  · omega
  · omega
  · omega
  · omega

/-- What is reported lies between the last report and 100. -/
theorem share_of_reports (inside : turn.cursor.chunkIdx < total) (small : total.toNat ≤ 8192)
    (reportedSoFar : turn.cursor.lastPct.toNat ≤ 100)
    (near : turn.share total ≤ 100 ∨ turn.share total < turn.cursor.lastPct.toNat + 10)
    (reports : Reports total turn.cursor.lastPct turn.chunkIdx) :
    turn.cursor.lastPct.toNat ≤ turn.share total ∧ turn.share total ≤ 100 := by
  have exact := exact_of_share inside small reportedSoFar near
  have below := UInt32.lt_iff_toNat_lt.mp inside
  rcases reports with tenth | ended
  · have reached := UInt8.le_iff_toNat_le.mp tenth
    have ten : (turn.cursor.lastPct + 10).toNat = turn.cursor.lastPct.toNat + 10 := by
      rw [UInt8.toNat_add]
      exact Nat.mod_eq_of_lt exact.threshold
    rw [ten, toNat_percent inside exact.hundredfold exact.cast] at reached
    omega
  · have final : turn.position = total.toNat := by
      rw [← toNat_chunkIdx inside exact.succ, ended]
    have whole : turn.share total = 100 := by
      have positive : max total.toNat 1 = total.toNat := by omega
      rw [share, final, positive]
      exact Nat.mul_div_cancel_left 100 (by omega)
    omega

/-- A turn that is exact, and whose report does not exceed 100, has a tame reply. -/
theorem Exact.tame (exact : turn.Exact total) (inside : turn.cursor.chunkIdx < total)
    (hundred : Reports total turn.cursor.lastPct turn.chunkIdx →
      (percent turn.chunkIdx total).toNat ≤ 100) : turn.Tame total := by
  apply tame_of_share inside
  by_contra far
  rw [not_or, Nat.not_le, Nat.not_lt] at far
  have computed := toNat_percent inside exact.hundredfold exact.cast
  have reports : Reports total turn.cursor.lastPct turn.chunkIdx := by
    left
    apply UInt8.le_iff_toNat_le.mpr
    rw [UInt8.toNat_add, computed]
    exact Nat.le_trans (Nat.mod_le _ _) far.2
  have limited := hundred reports
  omega

end Exact

/-- The percentage that the turn reports, if it makes a report. -/
def reported (total : UInt32) (turn : Turn) : List Nat :=
  if Reports total turn.cursor.lastPct turn.chunkIdx then
    [(percent turn.chunkIdx total).toNat]
  else
    []

/-- A turn within its bounds reports nothing, or a percentage from the last one up to 100. -/
theorem reported_cases {total : UInt32} {turn : Turn} (inside : turn.cursor.chunkIdx < total)
    (small : total.toNat ≤ 8192) (reportedSoFar : turn.cursor.lastPct.toNat ≤ 100)
    (near : turn.share total ≤ 100 ∨ turn.share total < turn.cursor.lastPct.toNat + 10) :
    (turn.reported total = [] ∧ (turn.advance total).lastPct = turn.cursor.lastPct) ∨
      (turn.reported total = [(turn.advance total).lastPct.toNat] ∧
        turn.cursor.lastPct.toNat ≤ (turn.advance total).lastPct.toNat ∧
        (turn.advance total).lastPct.toNat ≤ 100) := by
  have exact := exact_of_share inside small reportedSoFar near
  by_cases reports : Reports total turn.cursor.lastPct turn.chunkIdx
  · right
    have range := share_of_reports inside small reportedSoFar near reports
    rw [reported, advance, if_pos reports, if_pos reports,
      toNat_percent inside exact.hundredfold exact.cast]
    exact ⟨rfl, range⟩
  · left
    rw [reported, advance, if_neg reports, if_neg reports]
    exact ⟨rfl, rfl⟩

section Near

variable {total : UInt32} {turn : Turn} (inside : turn.cursor.chunkIdx < total)
  (small : total.toNat ≤ 8192) (reportedSoFar : turn.cursor.lastPct.toNat ≤ 100)
  (near : turn.share total ≤ 100 ∨ turn.share total < turn.cursor.lastPct.toNat + 10)

include inside small reportedSoFar near

/-- What a turn reports goes on from the last percentage. -/
theorem isChain_reported {rest : List Nat}
    (ascending : List.IsChain (· ≤ ·) ((turn.advance total).lastPct.toNat :: rest)) :
    List.IsChain (· ≤ ·) (turn.cursor.lastPct.toNat :: (turn.reported total ++ rest)) := by
  rcases reported_cases inside small reportedSoFar near with ⟨none, same⟩ | ⟨one, up, _⟩
  · rw [none]
    rw [same] at ascending
    exact ascending
  · rw [one]
    exact List.isChain_cons_cons.mpr ⟨up, ascending⟩

theorem reported_le_hundred : ∀ pct ∈ turn.reported total, pct ≤ 100 := by
  rcases reported_cases inside small reportedSoFar near with ⟨none, _⟩ | ⟨one, _, most⟩
  · rw [none]
    exact List.forall_mem_nil _
  · rw [one, List.forall_mem_singleton]
    exact most

end Near

theorem percentages_report (total : UInt32) (turn : Turn) (events : History boardCalls) :
    percentages (turn.report total ++ events) = turn.reported total ++ percentages events := by
  rw [report, reported]
  split
  · rfl
  · rfl

theorem turns_report (total : UInt32) (turn : Turn) (cursor : Cursor)
    (events : History boardCalls) :
    turns total cursor (turn.report total ++ events) = turns total cursor events := by
  rw [report]
  split
  · rfl
  · rfl

end Turn

/-! ## The loop -/

/-- The loop makes no more requests than there are chunks to go, ends if it has the fuel for
them, computes exactly, and reports percentages that ascend up to 100. -/
structure LoopBounds (total : UInt32) (cursor : Cursor) (fuel : Nat)
    (run : Run boardCalls (Except BoardError Unit × Settings)) : Prop where
  requests : (turns total cursor run.events).length ≤ total.toNat - cursor.chunkIdx.toNat
  ends : total.toNat - cursor.chunkIdx.toNat < fuel → run.outcome ≠ .spinning
  exact : ∀ turn ∈ turns total cursor run.events, turn.Exact total
  ascending : List.IsChain (· ≤ ·) (cursor.lastPct.toNat :: percentages run.events)
  hundred : ∀ pct ∈ percentages run.events, pct ≤ 100

section Loop

variable {image : Bytes} {settings : Settings} {fuel : Nat} {cursor : Cursor}
  {events : History boardCalls} {outcome : Outcome (Except BoardError Unit × Settings)}

/-- A loop that makes no answered turn is within its bounds, unless it was cut off early. -/
theorem loopBounds_of_unanswered {total : UInt32}
    (ends : total.toNat - cursor.chunkIdx.toNat < fuel → outcome ≠ .spinning)
    (none : turns total cursor events = []) (silent : percentages events = []) :
    LoopBounds total cursor fuel ⟨events, outcome⟩ := by
  constructor
  · rw [none]
    exact Nat.zero_le _
  · exact ends
  · rw [none]
    exact List.forall_mem_nil _
  · rw [silent]
    exact .singleton _
  · rw [silent]
    exact List.forall_mem_nil _

/-- A turn that is answered, in front of the bounds for what comes after it. -/
theorem loopBounds_turn {total : UInt32} {retries subtype : UInt8} {payload reply : Bytes}
    (inside : cursor.chunkIdx < total) (small : total.toNat ≤ 8192)
    (reportedSoFar : cursor.lastPct.toNat ≤ 100) (tame : Turn.Tame total ⟨cursor, reply⟩)
    (rest : LoopBounds total (Turn.advance total ⟨cursor, reply⟩) fuel ⟨events, outcome⟩) :
    LoopBounds total cursor (fuel + 1)
      ⟨⟨.request retries subtype payload, .ok reply⟩ ::
        (Turn.report total ⟨cursor, reply⟩ ++ events), outcome⟩ := by
  have near := Turn.Tame.share_cases inside tame
  have exact : Turn.Exact total ⟨cursor, reply⟩ :=
    Turn.exact_of_share inside small reportedSoFar near
  have below := UInt32.lt_iff_toNat_lt.mp inside
  have index : (Turn.advance total ⟨cursor, reply⟩).chunkIdx.toNat =
      Turn.position ⟨cursor, reply⟩ := by
    rw [Turn.chunkIdx_advance]
    exact Turn.toNat_chunkIdx inside exact.succ
  have forward : cursor.chunkIdx.toNat < Turn.position ⟨cursor, reply⟩ :=
    Turn.lt_position ⟨cursor, reply⟩
  have fewer := rest.requests
  have ends := rest.ends
  rw [index] at fewer ends
  constructor
  · rw [turns, Turn.turns_report, List.length_cons]
    dsimp only at fewer
    omega
  · intro enough
    exact ends (by omega)
  · rw [turns, Turn.turns_report, List.forall_mem_cons]
    exact ⟨exact, rest.exact⟩
  · show List.IsChain _ (_ :: percentages (Turn.report total ⟨cursor, reply⟩ ++ events))
    rw [Turn.percentages_report]
    exact Turn.isChain_reported inside small reportedSoFar near rest.ascending
  · show ∀ pct ∈ percentages (Turn.report total ⟨cursor, reply⟩ ++ events), pct ≤ 100
    rw [Turn.percentages_report, List.forall_mem_append]
    exact ⟨Turn.reported_le_hundred inside small reportedSoFar near, rest.hundred⟩

/-- Tame replies keep the loop within its bounds. -/
theorem Streams.bounds (streams : Streams image settings fuel cursor events outcome)
    (small : (totalChunks image).toNat ≤ 8192) (reportedSoFar : cursor.lastPct.toNat ≤ 100)
    (tame : ∀ turn ∈ turns (totalChunks image) cursor events, turn.Tame (totalChunks image)) :
    LoopBounds (totalChunks image) cursor fuel ⟨events, outcome⟩ := by
  induction streams with
  | cut => exact loopBounds_of_unanswered (fun few => absurd few (Nat.not_lt_zero _)) rfl rfl
  | done past => exact loopBounds_of_unanswered (fun _ => fun h => by cases h) rfl rfl
  | failed inside found error =>
      exact loopBounds_of_unanswered (fun _ => fun h => by cases h) rfl rfl
  | @turn fuel cursor chunk reply events outcome inside found rest ih =>
      rw [turns, Turn.turns_report, List.forall_mem_cons] at tame
      apply loopBounds_turn inside small reportedSoFar tame.1
      apply ih _ tame.2
      have near := Turn.Tame.share_cases inside tame.1
      rcases Turn.reported_cases inside small reportedSoFar near with ⟨_, same⟩ | ⟨_, _, most⟩
      · rw [same]
        exact reportedSoFar
      · exact most

/-- A loop that computes exactly, and reports at most 100, has tame replies only. -/
theorem Streams.tame (streams : Streams image settings fuel cursor events outcome)
    (exact : ∀ turn ∈ turns (totalChunks image) cursor events, turn.Exact (totalChunks image))
    (hundred : ∀ pct ∈ percentages events, pct ≤ 100) :
    ∀ turn ∈ turns (totalChunks image) cursor events, turn.Tame (totalChunks image) := by
  induction streams with
  | cut => exact List.forall_mem_nil _
  | done past => exact List.forall_mem_nil _
  | failed inside found error => exact List.forall_mem_nil _
  | @turn fuel cursor chunk reply events outcome inside found rest ih =>
      have split : percentages (⟨.request settings.retries 8
          (streamPayload cursor.chunkIdx chunk), .ok reply⟩ ::
            (Turn.report (totalChunks image) ⟨cursor, reply⟩ ++ events)) =
          Turn.reported (totalChunks image) ⟨cursor, reply⟩ ++ percentages events :=
        Turn.percentages_report _ _ _
      rw [split, List.forall_mem_append] at hundred
      rw [turns, Turn.turns_report, List.forall_mem_cons] at exact ⊢
      refine ⟨exact.1.tame inside fun reports => hundred.1 _ ?_, ih exact.2 hundred.2⟩
      rw [Turn.reported, if_pos reports]
      exact List.mem_singleton_self _

end Loop

/-- The stream loop of an accepted image computes exactly, reports percentages that ascend up to
100 and ends within as many requests as there are chunks, exactly if every reply is tame. -/
theorem loopBounds_iff {image : Bytes} {hdr : FwHeader} (valid : validateImage image = .ok hdr)
    (fuel : Nat) (settings : Settings) (oracle : Oracle boardCalls)
    (history : History boardCalls) :
    LoopBounds (totalChunks image) ⟨0, 0⟩ fuel
        ((streamStage fuel image settings).exec oracle history) ↔
      ∀ turn ∈ turns (totalChunks image) ⟨0, 0⟩
          ((streamStage fuel image settings).exec oracle history).events,
        turn.Tame (totalChunks image) := by
  have bounded := (size_of_validateImage valid).2
  have small : (totalChunks image).toNat ≤ 8192 := by
    rw [toNat_totalChunks bounded]
    simp only [maxImageSize, contentStart, chunkSize] at bounded ⊢
    omega
  have streams := streams_of_performs
    (Performs.of_exec oracle (streamLoop image fuel ⟨0, 0⟩ ⟨timeoutStreamMs, retriesStream⟩)
      history)
  constructor
  · intro bounds
    exact streams.tame bounds.exact bounds.hundred
  · exact streams.bounds small (Nat.zero_le _)

/-- With the board that acknowledges chunk 5000 of 2048, 244 percent are reported. -/
theorem percentages_aheadBoard {image chunk : Bytes} (total : totalChunks image = 2048)
    (found : chunkAt? image 0 = some chunk) :
    percentages ((streamStage 2 image ⟨defaultTimeout, defaultRetries⟩).exec aheadBoard
      []).events = [244] := by
  simp only [streamStage, Method.iterate, streamPass, total, found]
  rfl

theorem not_loopBounds_aheadBoard :
    ¬ ∀ (image : Bytes) (hdr : FwHeader) (fuel : Nat) (settings : Settings)
        (oracle : Oracle boardCalls) (history : History boardCalls),
      validateImage image = .ok hdr →
      LoopBounds (totalChunks image) ⟨0, 0⟩ fuel
        ((streamStage fuel image settings).exec oracle history) := by
  intro claim
  obtain ⟨image, hdr, chunk, valid, total, found⟩ := exists_image_of_2048_chunks
  have bounds := claim image hdr 2 ⟨defaultTimeout, defaultRetries⟩ aheadBoard [] valid
  have limited := bounds.hundred 244
    (by rw [percentages_aheadBoard total found]; exact List.mem_singleton_self _)
  exact absurd limited (by decide)

theorem loopBounds_iff_aheadBoard :
    LoopBounds (totalChunks (blankImage 0x200000)) ⟨0, 0⟩ 2
        ((streamStage 2 (blankImage 0x200000) ⟨defaultTimeout, defaultRetries⟩).exec aheadBoard
          []) ↔
      ∀ turn ∈ turns (totalChunks (blankImage 0x200000)) ⟨0, 0⟩
          ((streamStage 2 (blankImage 0x200000) ⟨defaultTimeout, defaultRetries⟩).exec aheadBoard
            []).events,
        turn.Tame (totalChunks (blankImage 0x200000)) := by
  obtain ⟨hdr, valid⟩ := validateImage_smallest
  exact loopBounds_iff valid 2 ⟨defaultTimeout, defaultRetries⟩ aheadBoard []

end RbctlDsl.Dsl
