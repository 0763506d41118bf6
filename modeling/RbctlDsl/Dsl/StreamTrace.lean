import RbctlDsl.Dsl.Upgrade
import RbctlDsl.Lib.Traces

/-!
# Traces of the stream loop

What the stream loop of an upgrade does for the replies that it gets: one STREAM request a
turn, and after a reply the move of the cursor and sometimes a call of the progress callback.
-/

namespace RbctlDsl.Dsl

open RbctlDsl.Lib RbctlDsl.Proto

/-- The stream loop calls the progress callback when the cursor has come to this index. -/
abbrev Reports (total : UInt32) (lastPct : UInt8) (chunkIdx : UInt32) : Prop :=
  percent chunkIdx total ≥ lastPct + 10 ∨ chunkIdx = total

/-- A turn of the stream loop that was answered: the cursor before it, and the reply. -/
structure Turn where
  cursor : Cursor
  reply : Bytes

namespace Turn

/-- The index that the cursor moves to. -/
def chunkIdx (turn : Turn) : UInt32 := nextChunk turn.cursor.chunkIdx (stripEcho turn.reply 0x08)

/-- The cursor after the turn. -/
def advance (total : UInt32) (turn : Turn) : Cursor :=
  if Reports total turn.cursor.lastPct turn.chunkIdx then
    ⟨turn.chunkIdx, percent turn.chunkIdx total⟩
  else
    ⟨turn.chunkIdx, turn.cursor.lastPct⟩

theorem chunkIdx_advance (total : UInt32) (turn : Turn) :
    (turn.advance total).chunkIdx = turn.chunkIdx := by
  rw [advance]
  split
  · rfl
  · rfl

/-- The call of the progress callback, if the turn makes one. -/
def report (total : UInt32) (turn : Turn) : History boardCalls :=
  if Reports total turn.cursor.lastPct turn.chunkIdx then
    [⟨.progress (.streaming (percent turn.chunkIdx total)), ()⟩]
  else
    []

theorem reportChunk_eq (total : UInt32) (turn : Turn) (settings : Settings) :
    reportChunk total turn.cursor.lastPct turn.chunkIdx settings =
      if Reports total turn.cursor.lastPct turn.chunkIdx then
        .perform (.progress (.streaming (percent turn.chunkIdx total))) fun _ =>
          .pure (.ok (.inl (turn.advance total)), settings)
      else
        .pure (.ok (.inl (turn.advance total)), settings) := by
  by_cases reports : Reports total turn.cursor.lastPct turn.chunkIdx
  · rw [reportChunk, if_pos reports, if_pos reports, advance, if_pos reports]
    rfl
  · rw [reportChunk, if_neg reports, if_neg reports, advance, if_neg reports]
    rfl

end Turn

/-- The traces of the stream loop from a cursor on, with its fuel. -/
inductive Streams (image : Bytes) (settings : Settings) :
    Nat → Cursor → History boardCalls → Outcome (Except BoardError Unit × Settings) → Prop where
  | cut {cursor : Cursor} : Streams image settings 0 cursor [] .spinning
  | done {fuel : Nat} {cursor : Cursor} (past : ¬ cursor.chunkIdx < totalChunks image) :
      Streams image settings (fuel + 1) cursor [] (.returned (.ok (), settings))
  | failed {fuel : Nat} {cursor : Cursor} {chunk : Bytes}
      (inside : cursor.chunkIdx < totalChunks image)
      (found : chunkAt? image cursor.chunkIdx = some chunk) (error : BoardError) :
      Streams image settings (fuel + 1) cursor
        [⟨.request settings.retries 8 (streamPayload cursor.chunkIdx chunk), .error error⟩]
        (.returned (.error error, settings))
  | turn {fuel : Nat} {cursor : Cursor} {chunk reply : Bytes} {events : History boardCalls}
      {outcome : Outcome (Except BoardError Unit × Settings)}
      (inside : cursor.chunkIdx < totalChunks image)
      (found : chunkAt? image cursor.chunkIdx = some chunk)
      (rest : Streams image settings fuel (Turn.advance (totalChunks image) ⟨cursor, reply⟩)
        events outcome) :
      Streams image settings (fuel + 1) cursor
        (⟨.request settings.retries 8 (streamPayload cursor.chunkIdx chunk), .ok reply⟩ ::
          (Turn.report (totalChunks image) ⟨cursor, reply⟩ ++ events)) outcome

section Trace

variable {image : Bytes} {settings : Settings} {fuel : Nat} {cursor : Cursor}
  {events : History boardCalls} {outcome : Outcome (Except BoardError Unit × Settings)}

abbrev streamLoop (image : Bytes) (fuel : Nat) (cursor : Cursor) : Typed Unit :=
  Method.iterate (streamPass image (totalChunks image)) fuel cursor

/-- The rest of the stream loop, after an answer to a STREAM request. -/
def afterAnswer (image : Bytes) (fuel : Nat) (cursor : Cursor) (settings : Settings) :
    Except BoardError Bytes → Program boardCalls (Except BoardError Unit × Settings)
  | .error error => .pure (.error error, settings)
  | .ok reply =>
      let turn : Turn := ⟨cursor, reply⟩
      if Reports (totalChunks image) cursor.lastPct turn.chunkIdx then
        .perform (.progress (.streaming (percent turn.chunkIdx (totalChunks image)))) fun _ =>
          streamLoop image fuel (turn.advance (totalChunks image)) settings
      else
        streamLoop image fuel (turn.advance (totalChunks image)) settings

theorem streamLoop_succ {chunk : Bytes} (inside : cursor.chunkIdx < totalChunks image)
    (found : chunkAt? image cursor.chunkIdx = some chunk) :
    streamLoop image (fuel + 1) cursor settings =
      .perform (.request settings.retries 8 (streamPayload cursor.chunkIdx chunk))
        (afterAnswer image fuel cursor settings) := by
  rw [streamLoop, Method.iterate, Method.bind_apply, streamPass, if_pos inside, found,
    Method.bind_apply, Method.orPanic_some, Program.pure_bind, Method.resume_ok,
    Method.bind_apply, ask_apply, Program.perform_bind, Program.perform_bind]
  congr 1
  funext answer
  cases answer with
  | error error => rfl
  | ok reply =>
      have reported : reportChunk (totalChunks image) cursor.lastPct
          (nextChunk cursor.chunkIdx (stripEcho reply 0x08)) settings = _ :=
        Turn.reportChunk_eq (totalChunks image) ⟨cursor, reply⟩ settings
      rw [afterAnswer, Program.pure_bind, Method.resume_ok, reported]
      split
      · rfl
      · rfl

theorem streamLoop_past (past : ¬ cursor.chunkIdx < totalChunks image) :
    streamLoop image (fuel + 1) cursor settings = .pure (.ok (), settings) := by
  rw [streamLoop, Method.iterate, Method.bind_apply, streamPass, if_neg past]
  rfl

/-- Every trace of the stream loop is one of these. -/
theorem streams_of_performs
    (performs : Performs (streamLoop image fuel cursor settings) events outcome) :
    Streams image settings fuel cursor events outcome := by
  induction fuel generalizing cursor events with
  | zero =>
      cases performs
      exact .cut
  | succ fuel ih =>
      by_cases inside : cursor.chunkIdx < totalChunks image
      · obtain ⟨chunk, found⟩ := chunkAt?_isSome inside
        rw [streamLoop_succ inside found] at performs
        obtain ⟨answer, rest, rfl, later⟩ := Performs.perform_iff.mp performs
        cases answer with
        | error error =>
            cases later
            exact .failed inside found error
        | ok reply =>
            by_cases reports : Reports (totalChunks image) cursor.lastPct
                (Turn.chunkIdx ⟨cursor, reply⟩)
            · rw [afterAnswer, if_pos reports] at later
              obtain ⟨_, rest, rfl, after⟩ := Performs.perform_iff.mp later
              have turn := Streams.turn inside found (ih after)
              rw [Turn.report, if_pos reports] at turn
              exact turn
            · rw [afterAnswer, if_neg reports] at later
              have turn := Streams.turn inside found (ih later)
              rw [Turn.report, if_neg reports] at turn
              exact turn
      · rw [streamLoop_past inside] at performs
        cases performs
        exact .done inside

end Trace

end RbctlDsl.Dsl
