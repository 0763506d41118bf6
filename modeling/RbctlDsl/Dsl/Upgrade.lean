import RbctlDsl.Dsl.Board

/-!
# `Board::firmware_upgrade`

The four stages of the opcode-8 upload: announce, stream, verify, complete.  The stream
loop keeps a chunk cursor that every reply may move, so it carries fuel.  The arithmetic is
the release build's, which wraps.
-/

namespace RbctlDsl.Dsl

open RbctlDsl.Lib RbctlDsl.Proto

/-- Result of a successful firmware upgrade. -/
structure FwUpgradeResult where
  version : UInt32
  status : UInt8
  deriving DecidableEq, Repr

/-- Where the content starts, after the `2RDH` header. -/
def contentStart : Nat := 0x100

def totalChunks (image : Bytes) : UInt32 :=
  UInt32.ofNat ((image.length - contentStart + chunkSize - 1) / chunkSize)

/-- `&image[offset..end]` for the chunk at an index. -/
def chunkAt? (image : Bytes) (chunkIdx : UInt32) : Option Bytes :=
  let offset := contentStart + chunkIdx.toNat * chunkSize
  slice? image offset (min (offset + chunkSize) image.length)

/-- `[stage=1, chunk_idx_be_u16, data...]`. -/
def streamPayload (chunkIdx : UInt32) (chunk : Bytes) : Bytes :=
  stageStream :: (beBytes16 chunkIdx.toUInt16 ++ chunk)

/-- The big-endian word after the stage byte, where the reply is at least 5 bytes long. -/
def replyWord (data : Bytes) : Option UInt32 := be32At? data 1

/-- The variables of the stream loop. -/
structure Cursor where
  chunkIdx : UInt32
  lastPct : UInt8
  deriving DecidableEq, Repr

/-- The cursor after a reply to the chunk it points at. -/
def nextChunk (chunkIdx : UInt32) (data : Bytes) : UInt32 :=
  match replyWord data with
  | some lastGood => (if lastGood > chunkIdx then lastGood else chunkIdx) + 1
  | none => chunkIdx + 1

/-- Switch the timeout and the retry budget to those of a stage. -/
def enterStage (timeout : Nat) (retries : UInt8) : Typed Unit :=
  Method.update fun _ => ⟨timeout, retries⟩

/-- Restore the settings and fail if a reply carries a non-zero status. -/
def rejectStatus (saved : Settings) (reason : String) (data : Bytes) : Typed Unit :=
  match replyWord data with
  | none => pure ()
  | some status =>
    if status ≠ 0 then do
      Method.update fun _ => saved
      Method.fail (.badResponse reason)
    else
      pure ()

/-- A stage whose reply carries a status: announce and verify. -/
def statusStage (saved : Settings) (timeout : Nat) (retries : UInt8) (payload : Bytes)
    (reason : String) (stage : UInt8) : Typed Unit := do
  enterStage timeout retries
  let resp ← ask 8 payload
  rejectStatus saved reason (stripEcho resp 0x08)
  notify (.ofStage stage)

def announceStage (saved : Settings) (image : Bytes) : Typed Unit :=
  statusStage saved timeoutAnnounceMs retriesAnnounce
    (announcePayload image.length.toUInt32) "announce rejected by board" stageAnnounce

/-- Percentage of the chunks before an index. -/
def percent (chunkIdx total : UInt32) : UInt8 := (chunkIdx * 100 / max total 1).toUInt8

/-- Notify about every tenth of the image, and go on at the new index. -/
def reportChunk (total : UInt32) (lastPct : UInt8) (chunkIdx : UInt32) : Typed (Cursor ⊕ Unit) :=
  if percent chunkIdx total ≥ lastPct + 10 ∨ chunkIdx = total then do
    notify (.streaming (percent chunkIdx total))
    pure (.inl ⟨chunkIdx, percent chunkIdx total⟩)
  else
    pure (.inl ⟨chunkIdx, lastPct⟩)

/-- One turn of the stream loop. -/
def streamPass (image : Bytes) (total : UInt32) (cursor : Cursor) : Typed (Cursor ⊕ Unit) :=
  if cursor.chunkIdx < total then do
    let chunk ← Method.orPanic "chunk out of range" (chunkAt? image cursor.chunkIdx)
    let resp ← ask 8 (streamPayload cursor.chunkIdx chunk)
    reportChunk total cursor.lastPct (nextChunk cursor.chunkIdx (stripEcho resp 0x08))
  else
    pure (.inr ())

def streamStage (fuel : Nat) (image : Bytes) : Typed Unit := do
  enterStage timeoutStreamMs retriesStream
  Method.iterate (streamPass image (totalChunks image)) fuel ⟨0, 0⟩

def verifyStage (saved : Settings) : Typed Unit :=
  statusStage saved timeoutVerifyMs retriesVerify verifyPayload
    "board firmware verification failed" stageVerify

def completeStage (saved : Settings) : Typed FwUpgradeResult := do
  enterStage timeoutCompleteMs retriesComplete
  let resp ← ask 8 completePayload
  let data := stripEcho resp 0x08
  let version := (replyWord data).getD 0
  let status := data[5]?.getD 0
  notify (.ofStage stageComplete)
  Method.update fun _ => saved
  return ⟨version, status⟩

def firmwareUpgrade (fuel : Nat) (image : Bytes) : Typed FwUpgradeResult := do
  let saved ← Method.read
  announceStage saved image
  streamStage fuel image
  verifyStage saved
  completeStage saved

/-! ## Contracts of the parts -/

section Contracts

variable {contract : Contract boardCalls} {history : History boardCalls}
  {settings : Settings}

theorem enterStage_bind {α : Type} (timeout : Nat) (retries : UInt8) (next : Unit → Typed α) :
    (enterStage timeout retries >>= next) settings = next () ⟨timeout, retries⟩ := rfl

/-- The status word of a reply, if it has one, is zero. -/
def StatusZero (reply : Bytes) : Prop :=
  ∀ status, replyWord (stripEcho reply 0x08) = some status → status = 0

theorem exists_status_of_nonzero {reply : Bytes} (nonzero : ¬ StatusZero reply) :
    ∃ status, replyWord (stripEcho reply 0x08) = some status ∧ status ≠ 0 := by
  by_contra none
  apply nonzero
  intro status read
  by_contra differs
  exact none ⟨status, read, differs⟩

theorem rejectStatus_of_zero {reply : Bytes} (saved : Settings) (reason : String)
    (zero : StatusZero reply) :
    rejectStatus saved reason (stripEcho reply 0x08) = (pure () : Typed Unit) := by
  unfold rejectStatus
  cases word : replyWord (stripEcho reply 0x08) with
  | none => rfl
  | some status => simp [zero status word]

theorem rejectStatus_of_nonzero {reply : Bytes} (saved : Settings) (reason : String)
    (nonzero : ¬ StatusZero reply) :
    rejectStatus saved reason (stripEcho reply 0x08) settings =
      .pure (.error (.badResponse reason), saved) := by
  obtain ⟨status, word, differs⟩ := exists_status_of_nonzero nonzero
  rw [rejectStatus, word]
  simp only [if_pos differs]
  rfl

/-- The three ways in which a status stage ends. -/
theorem safe_statusStage {saved : Settings} {timeout : Nat} {retries stage : UInt8}
    {payload : Bytes} {reason : String}
    {post : History boardCalls → Except BoardError Unit × Settings → Prop}
    (allowed : contract.may history (.request retries 8 payload))
    (notifies : ∀ later, contract.may later (.progress (.ofStage stage)))
    (accepted : ∀ reply, contract.answers history ⟨.request retries 8 payload, .ok reply⟩ →
      StatusZero reply →
      post (history ++ [⟨.request retries 8 payload, .ok reply⟩] ++
        [⟨.progress (.ofStage stage), ()⟩]) (.ok (), ⟨timeout, retries⟩))
    (rejected : ∀ reply, contract.answers history ⟨.request retries 8 payload, .ok reply⟩ →
      ¬ StatusZero reply →
      post (history ++ [⟨.request retries 8 payload, .ok reply⟩])
        (.error (.badResponse reason), saved))
    (failed : ∀ error, contract.answers history ⟨.request retries 8 payload, .error error⟩ →
      post (history ++ [⟨.request retries 8 payload, .error error⟩])
        (.error error, ⟨timeout, retries⟩)) :
    Safe contract post (statusStage saved timeout retries payload reason stage settings)
      history := by
  rw [statusStage, enterStage_bind]
  refine safe_ask allowed ?_ failed
  intro reply promised
  rw [Method.bind_apply]
  by_cases zero : StatusZero reply
  · rw [rejectStatus_of_zero saved reason zero, Method.pure_apply, Program.pure_bind,
      Method.resume_ok]
    exact ⟨notifies _, fun _ _ => accepted reply promised zero⟩
  · rw [rejectStatus_of_nonzero saved reason zero]
    exact rejected reply promised zero

/-- A report calls at most the callback and always goes on at the index it is given. -/
theorem safe_reportChunk {total chunkIdx : UInt32} {lastPct : UInt8}
    {post : History boardCalls → Except BoardError (Cursor ⊕ Unit) × Settings → Prop}
    (allowed : ∀ update, contract.may history (.progress update))
    (silent : post history (.ok (.inl ⟨chunkIdx, lastPct⟩), settings))
    (spoken : ∀ update pct, post (history ++ [⟨.progress update, ()⟩])
      (.ok (.inl ⟨chunkIdx, pct⟩), settings)) :
    Safe contract post (reportChunk total lastPct chunkIdx settings) history := by
  unfold reportChunk
  split
  · exact ⟨allowed _, fun answer _ => spoken _ _⟩
  · exact silent

end Contracts

/-! ## Sizes -/

/-- The chunks of an accepted image: their number, and that each of them lies inside. -/
theorem toNat_totalChunks {image : Bytes} (bounded : image.length ≤ maxImageSize) :
    (totalChunks image).toNat = (image.length - contentStart + chunkSize - 1) / chunkSize := by
  rw [totalChunks, UInt32.toNat_ofNat', Nat.mod_eq_of_lt]
  simp only [maxImageSize, contentStart, chunkSize] at bounded ⊢
  omega

theorem chunkAt?_eq_some {image : Bytes} {chunkIdx : UInt32}
    (inside : contentStart + chunkIdx.toNat * chunkSize ≤ image.length) :
    chunkAt? image chunkIdx =
      some ((image.drop (contentStart + chunkIdx.toNat * chunkSize)).take
        (min (contentStart + chunkIdx.toNat * chunkSize + chunkSize) image.length -
          (contentStart + chunkIdx.toNat * chunkSize))) := by
  apply slice?_eq_some
  · exact Nat.le_min.mpr ⟨Nat.le_add_right .., inside⟩
  · exact Nat.min_le_right ..

/-- The cursor never points outside of the wire's 16-bit index. -/
theorem lt_of_lt_totalChunks {image : Bytes} {chunkIdx : UInt32}
    (bounded : image.length ≤ maxImageSize) (inside : chunkIdx < totalChunks image) :
    chunkIdx.toNat < 65536 := by
  have below : chunkIdx.toNat < (totalChunks image).toNat := UInt32.lt_iff_toNat_lt.mp inside
  rw [toNat_totalChunks bounded] at below
  refine Nat.lt_trans below ?_
  simp only [maxImageSize, contentStart, chunkSize] at bounded ⊢
  omega

/-- Every index below the total starts a chunk, also where the total was truncated. -/
theorem start_lt_length {image : Bytes} {chunkIdx : UInt32}
    (inside : chunkIdx < totalChunks image) :
    contentStart + chunkIdx.toNat * chunkSize < image.length := by
  have below : chunkIdx.toNat < (totalChunks image).toNat := UInt32.lt_iff_toNat_lt.mp inside
  have counted : (totalChunks image).toNat ≤
      (image.length - contentStart + chunkSize - 1) / chunkSize := by
    rw [totalChunks, UInt32.toNat_ofNat']
    exact Nat.mod_le _ _
  simp only [contentStart, chunkSize] at counted ⊢
  omega

theorem chunkAt?_isSome {image : Bytes} {chunkIdx : UInt32}
    (inside : chunkIdx < totalChunks image) : ∃ chunk, chunkAt? image chunkIdx = some chunk :=
  ⟨_, chunkAt?_eq_some (Nat.le_of_lt (start_lt_length inside))⟩

/-! ## Complete runs -/

section Runs

variable {oracle : Oracle boardCalls} {history : History boardCalls} {settings : Settings}

/-- The run of a status stage that the board accepts. -/
theorem exec_statusStage {saved : Settings} {timeout : Nat} {retries stage : UInt8}
    {payload reply : Bytes} {reason : String}
    (answered : oracle history (.request retries 8 payload) = .ok reply)
    (zero : StatusZero reply) :
    ((statusStage saved timeout retries payload reason stage settings).exec oracle history) =
      ⟨[⟨.request retries 8 payload, .ok reply⟩,
          ⟨.progress (.ofStage stage), oracle (history ++ [⟨.request retries 8 payload, .ok reply⟩])
            (.progress (.ofStage stage))⟩],
        .returned (.ok (), ⟨timeout, retries⟩)⟩ := by
  rw [statusStage, enterStage_bind, Method.bind_apply, ask_apply, Program.perform_bind,
    Program.exec_perform]
  simp only [answered, Program.pure_bind, Method.resume_ok, rejectStatus_of_zero saved reason zero]
  rfl

theorem exec_reportChunk (oracle : Oracle boardCalls) (history : History boardCalls)
    (settings : Settings) (total chunkIdx : UInt32) (lastPct : UInt8) : ∃ pct,
    ((reportChunk total lastPct chunkIdx settings).exec oracle history).outcome =
      .returned (.ok (.inl ⟨chunkIdx, pct⟩), settings) := by
  unfold reportChunk
  split
  · exact ⟨_, rfl⟩
  · exact ⟨_, rfl⟩

/-- Below the largest word, the cursor moves forward. -/
theorem lt_nextChunk {chunkIdx : UInt32} {data : Bytes}
    (room : chunkIdx.toNat + 1 < 4294967296) (noWrap : replyWord data ≠ some 0xffffffff) :
    chunkIdx.toNat < (nextChunk chunkIdx data).toNat := by
  have plusOne (word : UInt32) (bounded : word.toNat + 1 < 4294967296) :
      (word + 1).toNat = word.toNat + 1 := by
    rw [UInt32.toNat_add]
    exact Nat.mod_eq_of_lt bounded
  unfold nextChunk
  cases read : replyWord data with
  | none => exact (plusOne chunkIdx room).symm ▸ Nat.lt_succ_self _
  | some lastGood =>
      by_cases ahead : lastGood > chunkIdx
      · have notLast : lastGood.toNat + 1 < 4294967296 := by
          have differs : lastGood.toNat ≠ 4294967295 := fun equal =>
            noWrap (read.trans (congrArg some (UInt32.toNat_inj.mp equal)))
          have bound := lastGood.toNat_lt
          omega
        simp only [if_pos ahead, plusOne _ notLast]
        exact Nat.lt_succ_of_lt (UInt32.lt_iff_toNat_lt.mp ahead)
      · simp only [if_neg ahead, plusOne _ room]
        exact Nat.lt_succ_self _

/-- A board that answers every request, with no reply that wraps the cursor. -/
def AnswersAll (oracle : Oracle boardCalls) : Prop :=
  ∀ history retries payload, ∃ reply,
    oracle history (.request retries 8 payload) = .ok reply ∧
      replyWord (stripEcho reply 0x08) ≠ some 0xffffffff

/-- With such a board the stream stage returns: the cursor moves at every turn. -/
theorem returns_streamStage {image : Bytes} (answers : AnswersAll oracle) (fuel : Nat)
    (enough : (totalChunks image).toNat < fuel) :
    Method.Returns oracle (streamStage fuel image) settings := by
  have pass : Method.PassRuns oracle (streamPass image (totalChunks image))
      (fun cursor => (totalChunks image).toNat - cursor.chunkIdx.toNat) := by
    intro before cursor current
    by_cases inside : cursor.chunkIdx < totalChunks image
    · obtain ⟨chunk, found⟩ := chunkAt?_isSome inside
      obtain ⟨reply, answered, noWrap⟩ := answers before current.retries
        (streamPayload cursor.chunkIdx chunk)
      have below := UInt32.lt_iff_toNat_lt.mp inside
      have forward := lt_nextChunk (Nat.lt_of_le_of_lt below (totalChunks image).toNat_lt) noWrap
      obtain ⟨pct, reported⟩ := exec_reportChunk oracle
        (before ++ [⟨.request current.retries 8 (streamPayload cursor.chunkIdx chunk),
          .ok reply⟩]) current (totalChunks image)
        (nextChunk cursor.chunkIdx (stripEcho reply 0x08)) cursor.lastPct
      refine ⟨.inl ⟨nextChunk cursor.chunkIdx (stripEcho reply 0x08), pct⟩, current, ?_, ?_⟩
      · rw [streamPass, if_pos inside, found, Method.bind_apply, Method.orPanic_some,
          Program.pure_bind, Method.resume_ok, Method.bind_apply, ask_apply,
          Program.perform_bind, Program.exec_perform, answered]
        exact reported
      · intro next equal
        cases equal
        exact Nat.sub_lt_sub_left below forward
    · refine ⟨.inr (), current, ?_, fun next equal => by cases equal⟩
      rw [streamPass, if_neg inside]
      rfl
  exact Method.returns_bind (fun _ => ⟨(), _, rfl⟩) fun _ _ =>
    Method.returns_iterate pass fuel ⟨0, 0⟩ (Nat.lt_of_le_of_lt (Nat.sub_le _ _) enough)

theorem returns_statusStage {saved : Settings} {timeout : Nat} {retries stage : UInt8}
    {payload : Bytes} {reason : String} (answers : AnswersAll oracle)
    (accepts : ∀ history reply,
      oracle history (.request retries 8 payload) = .ok reply → StatusZero reply) :
    Method.Returns oracle (statusStage saved timeout retries payload reason stage)
      settings := by
  intro history
  obtain ⟨reply, answered, _⟩ := answers history retries payload
  exact ⟨(), _, congrArg Run.outcome (exec_statusStage answered (accepts _ _ answered))⟩

theorem returns_completeStage {saved : Settings} (answers : AnswersAll oracle) :
    Method.Returns oracle (completeStage saved) settings := by
  intro history
  obtain ⟨reply, answered, _⟩ := answers history retriesComplete completePayload
  rw [completeStage, enterStage_bind, Method.bind_apply, ask_apply, Program.perform_bind,
    Program.exec_perform, answered]
  exact ⟨_, _, rfl⟩

/-- With such a board, an upgrade whose status replies are acceptable returns `Ok`. -/
theorem returns_firmwareUpgrade {image : Bytes} (answers : AnswersAll oracle) (fuel : Nat)
    (enough : (totalChunks image).toNat < fuel)
    (accepts : ∀ history retries payload reply,
      payload = announcePayload image.length.toUInt32 ∨ payload = verifyPayload →
      oracle history (.request retries 8 payload) = .ok reply → StatusZero reply) :
    Method.Returns oracle (firmwareUpgrade fuel image) settings := by
  apply Method.returns_bind (fun _ => ⟨settings, _, rfl⟩)
  intro saved _
  apply Method.returns_bind
    (returns_statusStage answers fun _ _ => accepts _ _ _ _ (.inl rfl))
  intro _ _
  apply Method.returns_bind (returns_streamStage answers fuel enough)
  intro _ _
  apply Method.returns_bind
    (returns_statusStage answers fun _ _ => accepts _ _ _ _ (.inr rfl))
  intro _ _
  exact returns_completeStage answers

end Runs

end RbctlDsl.Dsl
