import RbctlDsl.Dsl.Upgrade
import RbctlDsl.Lib.Cursor

/-!
# Coverage of the stream stage

Which chunks an upgrade has sent by the time it asks the board to verify.  The STREAM
requests of a run form the log of a cursor; the loop contract says so at every turn, and
the theory of cursors says when such a log covers the image.
-/

namespace RbctlDsl.Dsl

open RbctlDsl.Lib RbctlDsl.Proto

/-- The index and the reply of an answered STREAM request that carries the bytes of the
chunk it names. -/
def streamed (image : Bytes) : Event boardCalls → Option (Nat × Bytes)
  | ⟨.request _ subtype (stage :: high :: low :: chunk), .ok reply⟩ =>
      let index := (be16 high low).toNat
      if subtype = 8 ∧ stage = stageStream ∧ chunkAt? image (UInt32.ofNat index) = some chunk then
        some (index, reply)
      else
        none
  | _ => none

/-- The STREAM requests of a run with their replies, oldest first. -/
def streamLog (image : Bytes) (events : History boardCalls) : List (Nat × Bytes) :=
  events.filterMap (streamed image)

/-- `last_good` of a STREAM reply, where it is long enough to hold one. -/
def lastGood (reply : Bytes) : Option UInt32 := replyWord (stripEcho reply 0x08)

/-- `last_good` as the index it names. -/
def acknowledged (reply : Bytes) : Option Nat := (lastGood reply).map UInt32.toNat

/-- The cursor's next position. -/
def nextPosition (index : Nat) (reply : Bytes) : Nat :=
  (nextChunk (UInt32.ofNat index) (stripEcho reply 0x08)).toNat

/-- The stream loop has left the cursor at or past the end. -/
def StreamFinished (image : Bytes) (history : History boardCalls) : Prop :=
  ∃ finish, (totalChunks image).toNat ≤ finish ∧
    Walk nextPosition (totalChunks image).toNat 0 (streamLog image history) finish

/-- VERIFY is only asked after the stream has finished. -/
def streamContract (image : Bytes) : Contract boardCalls where
  may history
    | .request _ _ payload => payload = verifyPayload → StreamFinished image history
    | .progress _ => True

section Log

variable {image : Bytes} {history : History boardCalls}

theorem streamLog_append (later : History boardCalls) :
    streamLog image (history ++ later) = streamLog image history ++ streamLog image later :=
  List.filterMap_append

@[simp] theorem streamLog_snoc (event : Event boardCalls) :
    streamLog image (history ++ [event]) =
      streamLog image history ++ (streamed image event).toList := by
  rw [streamLog_append]
  simp only [streamLog, List.filterMap_cons, List.filterMap_nil]
  cases streamed image event <;> rfl

@[simp] theorem streamed_progress (update : FwProgress) (answer : Unit) :
    streamed image ⟨.progress update, answer⟩ = none := rfl

/-- A request whose payload starts with another stage byte is not a STREAM request. -/
theorem streamed_other {retries subtype stage : UInt8} {rest : Bytes}
    {answer : Except BoardError Bytes} (other : stage ≠ stageStream) :
    streamed image ⟨.request retries subtype (stage :: rest), answer⟩ = none := by
  unfold streamed
  split
  next equal =>
      cases equal
      exact if_neg fun found => other found.2.1
  next => rfl

theorem streamed_stream {retries : UInt8} {chunkIdx : UInt32} {chunk reply : Bytes}
    (small : chunkIdx.toNat < 65536) (found : chunkAt? image chunkIdx = some chunk) :
    streamed image ⟨.request retries 8 (streamPayload chunkIdx chunk), .ok reply⟩ =
      some (chunkIdx.toNat, reply) := by
  have index : (be16 (UInt8.ofNat (chunkIdx.toUInt16.toNat / 256))
      chunkIdx.toUInt16.toUInt8).toNat = chunkIdx.toNat := by
    rw [be16_beBytes16, UInt32.toNat_toUInt16, Nat.mod_eq_of_lt small]
  have back : UInt32.ofNat chunkIdx.toNat = chunkIdx := UInt32.ofNat_toNat
  simp only [streamed, streamPayload, beBytes16, List.cons_append, List.nil_append, index, back,
    found, and_self, if_true]

end Log

section Stages

variable {image : Bytes} {settings : Settings} {history : History boardCalls}

theorem safe_announceStage (saved : Settings) :
    Safe (streamContract image) (fun later _ => streamLog image later = [])
      (announceStage saved image settings) [] := by
  have silent (answer : Except BoardError Bytes) :
      streamed image ⟨.request retriesAnnounce 8 (announcePayload image.length.toUInt32),
        answer⟩ = none := streamed_other (by decide)
  apply safe_statusStage
  · intro equal
    exact absurd (List.cons.inj equal).1 (by decide)
  · exact fun _ => trivial
  · intro reply _ _
    rw [streamLog_snoc, streamLog_snoc, silent]
    rfl
  · intro reply _ _
    rw [streamLog_snoc, silent]
    rfl
  · intro error _
    rw [streamLog_snoc, silent]
    rfl

/-- What the stream loop maintains: the log is the walk of its cursor. -/
def CursorWalks (image : Bytes) (later : History boardCalls) (cursor : Cursor)
    (_ : Settings) : Prop :=
  Walk nextPosition (totalChunks image).toNat 0 (streamLog image later) cursor.chunkIdx.toNat

theorem safe_streamPass (bounded : image.length ≤ maxImageSize) (cursor : Cursor)
    (walks : CursorWalks image history cursor settings) :
    Safe (streamContract image)
      (Method.passOwes (CursorWalks image) fun later result =>
        ∀ value after, result = (.ok value, after) → StreamFinished image later)
      (streamPass image (totalChunks image) cursor settings) history := by
  by_cases inside : cursor.chunkIdx < totalChunks image
  · obtain ⟨chunk, found⟩ := chunkAt?_isSome inside
    have notVerify : streamPayload cursor.chunkIdx chunk ≠ verifyPayload := by
      intro equal
      exact absurd (List.cons.inj equal).1 (by decide)
    rw [streamPass, if_pos inside, found]
    refine safe_ask (fun equal => absurd equal notVerify) ?_ ?_
    · intro reply _
      -- the log grows by this chunk, and the walk by its step
      have grown : Walk nextPosition (totalChunks image).toNat 0
          (streamLog image (history ++
            [⟨.request settings.retries 8 (streamPayload cursor.chunkIdx chunk), .ok reply⟩]))
          (nextChunk cursor.chunkIdx (stripEcho reply 0x08)).toNat := by
        rw [streamLog_snoc, streamed_stream (lt_of_lt_totalChunks bounded inside) found]
        have step : Walk nextPosition (totalChunks image).toNat 0
            (streamLog image history ++ [(cursor.chunkIdx.toNat, reply)])
            (nextPosition cursor.chunkIdx.toNat reply) :=
          walks.snoc (UInt32.lt_iff_toNat_lt.mp inside)
        rw [nextPosition, UInt32.ofNat_toNat] at step
        exact step
      refine safe_reportChunk (fun _ => trivial) grown fun update pct => ?_
      show Walk _ _ _ (streamLog image _) _
      rw [streamLog_snoc, streamed_progress]
      simpa using grown
    · intro error _ value after equal
      cases equal
  · rw [streamPass, if_neg inside]
    intro value after _
    exact ⟨_, UInt32.le_iff_toNat_le.mp (UInt32.not_lt.mp inside), walks⟩

theorem safe_streamStage (bounded : image.length ≤ maxImageSize) (fuel : Nat)
    (empty : streamLog image history = []) :
    Safe (streamContract image)
      (fun later result => ∀ value after, result = (.ok value, after) →
        StreamFinished image later)
      (streamStage fuel image settings) history := by
  have start : CursorWalks image history ⟨0, 0⟩ ⟨timeoutStreamMs, retriesStream⟩ := by
    show Walk _ _ _ (streamLog image history) _
    rw [empty]
    rfl
  rw [streamStage, enterStage_bind]
  exact Method.safe_iterate (fun _ cursor _ walks => safe_streamPass bounded cursor walks)
    fuel _ start

theorem safe_verifyStage {saved : Settings} (finished : StreamFinished image history) :
    Safe (streamContract image) (fun _ _ => True) (verifyStage saved settings) history :=
  safe_statusStage (fun _ => finished) (fun _ => trivial) (fun _ _ _ => trivial)
    (fun _ _ _ => trivial) fun _ _ => trivial

theorem safe_completeStage {saved : Settings} :
    Safe (streamContract image) (fun _ _ => True) (completeStage saved settings) history := by
  have notVerify : completePayload ≠ verifyPayload := by decide
  rw [completeStage, enterStage_bind]
  refine safe_ask (fun equal => absurd equal notVerify) ?_ (fun _ _ => trivial)
  intro reply _
  exact ⟨trivial, fun _ _ => trivial⟩

/-- Every upgrade keeps the stream contract. -/
theorem safe_firmwareUpgrade (bounded : image.length ≤ maxImageSize) (fuel : Nat) :
    Safe (streamContract image) (fun _ _ => True) (firmwareUpgrade fuel image settings) [] := by
  rw [firmwareUpgrade, Method.bind_apply, Method.read_apply, Program.pure_bind,
    Method.resume_ok]
  refine Method.safe_bind (safe_announceStage settings) ?_ fun _ _ _ _ => trivial
  intro announced _ settings empty
  refine Method.safe_bind (safe_streamStage bounded fuel empty) ?_ fun _ _ _ _ => trivial
  intro finished _ settings ended
  refine Method.safe_bind (safe_verifyStage (ended _ _ rfl)) ?_ fun _ _ _ _ => trivial
  intro verified _ settings _
  exact safe_completeStage

end Stages

/-! ## Coverage at VERIFY -/

section Coverage

variable {image : Bytes}

theorem nextPosition_of_acknowledged {total : UInt32} (index : Nat) (reply : Bytes)
    (inside : index < total.toNat)
    (acked : ∀ good, acknowledged reply = some good → good = index) :
    nextPosition index reply = index + 1 := by
  have small : index + 1 < 4294967296 := Nat.lt_of_le_of_lt inside total.toNat_lt
  have back : (UInt32.ofNat index).toNat = index := by
    rw [UInt32.toNat_ofNat', Nat.mod_eq_of_lt (Nat.lt_of_succ_lt small)]
  have plusOne : (UInt32.ofNat index + 1).toNat = index + 1 := by
    rw [UInt32.toNat_add, back]
    exact Nat.mod_eq_of_lt small
  unfold nextPosition nextChunk
  cases word : replyWord (stripEcho reply 0x08) with
  | none => exact plusOne
  | some good =>
      have equal : good.toNat = index := acked _ (by rw [acknowledged, lastGood, word]; rfl)
      have same : good = UInt32.ofNat index := UInt32.toNat_inj.mp (equal.trans back.symm)
      simp only [same, gt_iff_lt, UInt32.lt_irrefl, if_false, plusOne]

/-- A `last_good` other than the largest word moves the cursor past both indices. -/
theorem nextPosition_eq_pastBoth {total : UInt32} (index : Nat) (reply : Bytes)
    (inside : index < total.toNat) (noWrap : lastGood reply ≠ some 0xffffffff) :
    nextPosition index reply = pastBoth acknowledged index reply := by
  have small : index + 1 < 4294967296 := Nat.lt_of_le_of_lt inside total.toNat_lt
  have back : (UInt32.ofNat index).toNat = index := by
    rw [UInt32.toNat_ofNat', Nat.mod_eq_of_lt (Nat.lt_of_succ_lt small)]
  have plusOne (word : UInt32) (bounded : word.toNat + 1 < 4294967296) :
      (word + 1).toNat = word.toNat + 1 := by
    rw [UInt32.toNat_add]
    exact Nat.mod_eq_of_lt bounded
  unfold nextPosition nextChunk pastBoth
  simp only [acknowledged, lastGood] at noWrap ⊢
  cases word : replyWord (stripEcho reply 0x08) with
  | none =>
      simp only [Option.map_none]
      rw [plusOne _ (by rw [back]; exact small), back]
  | some good =>
      have notLast : good.toNat + 1 < 4294967296 := by
        have bound := good.toNat_lt
        have differs : good.toNat ≠ 4294967295 := by
          intro equal
          exact noWrap (word.trans (congrArg some (UInt32.toNat_inj.mp equal)))
        omega
      simp only [Option.map_some]
      by_cases ahead : good > UInt32.ofNat index
      · have above : index ≤ good.toNat := by
          have := UInt32.lt_iff_toNat_lt.mp ahead
          rw [back] at this
          exact Nat.le_of_lt this
        rw [if_pos ahead, plusOne _ notLast, Nat.max_eq_right above]
      · have below : good.toNat ≤ index := by
          have := UInt32.le_iff_toNat_le.mp (UInt32.not_lt.mp ahead)
          rwa [back] at this
        rw [if_neg ahead, plusOne _ (by rw [back]; exact small), back, Nat.max_eq_left below]

/-- Every chunk of the image has been sent. -/
def Covered (image : Bytes) (events : History boardCalls) : Prop :=
  CoversFrom (totalChunks image).toNat 0 (streamLog image events)

/-- Every chunk above a late `last_good` has been sent again. -/
def Resent (image : Bytes) (events : History boardCalls) : Prop :=
  Resends acknowledged (totalChunks image).toNat (streamLog image events)

/-- Every STREAM reply with a `last_good` names the chunk it answers; the one to the last
chunk may also name a later index. -/
def RepliesInStep (image : Bytes) (events : History boardCalls) : Prop :=
  ∀ entry ∈ streamLog image events, InStep acknowledged (totalChunks image).toNat entry

/-- No STREAM reply carries the index at which the cursor's addition wraps. -/
def NoReplyWraps (image : Bytes) (events : History boardCalls) : Prop :=
  ∀ entry ∈ streamLog image events, lastGood entry.2 ≠ some 0xffffffff

/-- What an upgrade has sent when it asks for VERIFY: all of the image, and again what the
board asked for, if every reply is in step.  A reply out of step makes it miss a chunk or a
repetition, unless a wrapped index starts the stream over. -/
theorem covered_iff_repliesInStep {hdr : FwHeader} (valid : validateImage image = .ok hdr)
    (fuel : Nat) (settings : Settings) (oracle : Oracle boardCalls)
    (before after : History boardCalls) (retries : UInt8) (answer : Except BoardError Bytes)
    (reached : ((firmwareUpgrade fuel image settings).exec oracle []).events =
      before ++ ⟨.request retries 8 verifyPayload, answer⟩ :: after) :
    (RepliesInStep image before → Covered image before ∧ Resent image before) ∧
      (NoReplyWraps image before → Covered image before ∧ Resent image before →
        RepliesInStep image before) := by
  have bounded := (size_of_validateImage valid).2
  have asked : Along (fun earlier event => (streamContract image).may earlier event.op) []
      ((firmwareUpgrade fuel image settings).exec oracle []).events :=
    ((safe_firmwareUpgrade bounded fuel).exec (along_true _ _)).1
  rw [reached] at asked
  obtain ⟨finish, ended, walk⟩ : StreamFinished image before := asked.at rfl
  constructor
  · intro inStep
    exact ⟨walk.covers nextPosition_of_acknowledged ended inStep, resends_of_inStep inStep⟩
  · intro noWrap ⟨covered, resent⟩
    refine walk.inStep (fun entry member => ?_) covered resent
    exact nextPosition_eq_pastBoth entry.1 entry.2 (walk.inside entry member)
      (noWrap entry member)

/-- A board that acknowledges chunk 5000 in every STREAM reply. -/
def aheadBoard : Oracle boardCalls
  | _, .request _ _ [] => .ok []
  | _, .request _ _ (stage :: _) =>
      .ok (stage :: beBytes32 (if stage = stageStream then 5000 else 0))
  | _, .progress _ => ()

/-- What has happened before VERIFY with such a board: one chunk was sent. -/
def aheadEvents (image chunk : Bytes) : History boardCalls :=
  [⟨.request retriesAnnounce 8 (announcePayload image.length.toUInt32),
      .ok (stageAnnounce :: beBytes32 0)⟩,
    ⟨.progress (.ofStage stageAnnounce), ()⟩,
    ⟨.request retriesStream 8 (streamPayload 0 chunk), .ok (stageStream :: beBytes32 5000)⟩,
    ⟨.progress (.streaming 244), ()⟩]

theorem aheadBoard_events {chunk : Bytes} (total : totalChunks image = 2048)
    (found : chunkAt? image 0 = some chunk) :
    ((firmwareUpgrade 2 image ⟨defaultTimeout, defaultRetries⟩).exec aheadBoard []).events =
      aheadEvents image chunk ++
        ⟨.request retriesVerify 8 verifyPayload, .ok (stageVerify :: beBytes32 0)⟩ ::
          [⟨.progress (.ofStage stageVerify), ()⟩,
            ⟨.request retriesComplete 8 completePayload, .ok (stageComplete :: beBytes32 0)⟩,
            ⟨.progress (.ofStage stageComplete), ()⟩] := by
  simp only [firmwareUpgrade, announceStage, statusStage, streamStage, Method.iterate,
    streamPass, total, found]
  rfl

theorem aheadEvents_log {chunk : Bytes} (found : chunkAt? image 0 = some chunk) :
    streamLog image (aheadEvents image chunk) = [(0, stageStream :: beBytes32 5000)] := by
  have announced : streamed image ⟨.request retriesAnnounce 8
      (announcePayload image.length.toUInt32), .ok (stageAnnounce :: beBytes32 0)⟩ =
      none := streamed_other (by decide)
  have sent : streamed image ⟨.request retriesStream 8 (streamPayload 0 chunk),
      .ok (stageStream :: beBytes32 5000)⟩ = some (0, stageStream :: beBytes32 5000) :=
    streamed_stream (by decide) found
  simp only [streamLog, aheadEvents, List.filterMap_cons, announced, sent, streamed_progress,
    List.filterMap_nil]

/-- There is an accepted image of 2048 chunks. -/
theorem exists_image_of_2048_chunks : ∃ image hdr chunk, validateImage image = .ok hdr ∧
    totalChunks image = 2048 ∧ chunkAt? image 0 = some chunk := by
  obtain ⟨hdr, valid⟩ := validateImage_smallest
  have length : (blankImage 0x200000).length = 0x200000 := length_blankImage (by decide)
  have total : totalChunks (blankImage 0x200000) = 2048 := by
    rw [totalChunks, length]
    rfl
  obtain ⟨chunk, found⟩ : ∃ chunk, chunkAt? (blankImage 0x200000) 0 = some chunk :=
    chunkAt?_isSome (by rw [total]; decide)
  exact ⟨_, hdr, chunk, valid, total, found⟩

/-- An acknowledgment ahead of the cursor makes the upgrade skip to VERIFY. -/
theorem not_covered_ahead :
    ¬ ∀ (image : Bytes) (hdr : FwHeader) (fuel : Nat) (settings : Settings)
        (oracle : Oracle boardCalls) (before after : History boardCalls) (retries : UInt8)
        (answer : Except BoardError Bytes),
      validateImage image = .ok hdr →
      ((firmwareUpgrade fuel image settings).exec oracle []).events =
        before ++ ⟨.request retries 8 verifyPayload, answer⟩ :: after →
      Covered image before ∧ Resent image before := by
  intro claim
  obtain ⟨image, hdr, chunk, valid, total, found⟩ := exists_image_of_2048_chunks
  have covered := (claim _ _ 2 ⟨defaultTimeout, defaultRetries⟩ aheadBoard _ _ _ _ valid
    (aheadBoard_events total found)).1
  rw [Covered, aheadEvents_log found, total] at covered
  obtain ⟨entry, member, equal⟩ := covered 1 (Nat.zero_le _) (by decide)
  rw [List.mem_singleton] at member
  rw [member] at equal
  exact absurd equal (by decide)

end Coverage

end RbctlDsl.Dsl
