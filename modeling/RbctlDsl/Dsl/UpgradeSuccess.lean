import RbctlDsl.Dsl.Upgrade

/-!
# What a successful upgrade has seen

The replies to ANNOUNCE, VERIFY and COMPLETE in a run of `firmware_upgrade`, and what they
are known to be when it returns `Ok`: present, and without a non-zero status word where the
reply is long enough to have one.
-/

namespace RbctlDsl.Dsl

open RbctlDsl.Lib RbctlDsl.Proto

/-- The answer to a request with this payload. -/
def answerTo (payload : Bytes) : Event boardCalls → Option (Except BoardError Bytes)
  | ⟨.request _ _ sent, answer⟩ => if sent = payload then some answer else none
  | ⟨.progress _, _⟩ => none

/-- The answers to the requests with this payload, oldest first. -/
def answersTo (payload : Bytes) (events : History boardCalls) :
    List (Except BoardError Bytes) :=
  events.filterMap (answerTo payload)

/-- A request without a reply. -/
def failedRequest : Event boardCalls → Bool
  | ⟨.request .., .error _⟩ => true
  | _ => false

/-- Some request of the run got no reply. -/
def RequestFailed (events : History boardCalls) : Prop :=
  ∃ event ∈ events, failedRequest event = true

/-- A status reply as documented: long enough, of the requested stage, status zero. -/
def GenuineStatus (stage : UInt8) (reply : Bytes) : Prop :=
  5 ≤ (stripEcho reply 0x08).length ∧ (stripEcho reply 0x08).head? = some stage ∧
    replyWord (stripEcho reply 0x08) = some 0

/-- A COMPLETE reply as documented. -/
def GenuineComplete (reply : Bytes) : Prop :=
  6 ≤ (stripEcho reply 0x08).length ∧ (stripEcho reply 0x08).head? = some stageComplete ∧
    (stripEcho reply 0x08)[5]? = some 0

/-- The three replies of the run are as documented. -/
def GenuineReplies (image : Bytes) (events : History boardCalls) : Prop :=
  (∃ reply, answersTo (announcePayload image.length.toUInt32) events = [.ok reply] ∧
    GenuineStatus stageAnnounce reply) ∧
  (∃ reply, answersTo verifyPayload events = [.ok reply] ∧ GenuineStatus stageVerify reply) ∧
  ∃ reply, answersTo completePayload events = [.ok reply] ∧ GenuineComplete reply

/-- The reply to this payload carries a status word that is not zero. -/
def Rejected (payload : Bytes) (events : History boardCalls) : Prop :=
  ∃ reply, answersTo payload events = [.ok reply] ∧ ¬ StatusZero reply

/-- The reply to this payload came, and carries no other status word than zero. -/
def Passed (payload : Bytes) (events : History boardCalls) : Prop :=
  ∃ reply, answersTo payload events = [.ok reply] ∧ StatusZero reply

/-- A reply of this stage that is long enough. -/
def OfStage (stage : UInt8) (size : Nat) (reply : Bytes) : Prop :=
  size ≤ (stripEcho reply 0x08).length ∧ (stripEcho reply 0x08).head? = some stage

/-- What is not checked is as documented: the lengths and the stage bytes of the three replies,
and the status byte of the one to COMPLETE. -/
structure UncheckedRight (image : Bytes) (events : History boardCalls) : Prop where
  announce : ∀ reply, .ok reply ∈ answersTo (announcePayload image.length.toUInt32) events →
    OfStage stageAnnounce 5 reply
  verify : ∀ reply, .ok reply ∈ answersTo verifyPayload events → OfStage stageVerify 5 reply
  complete : ∀ reply, .ok reply ∈ answersTo completePayload events →
    OfStage stageComplete 6 reply ∧ (stripEcho reply 0x08)[5]? = some 0

/-- Why an upgrade stops early. -/
def Stopped (image : Bytes) (events : History boardCalls) : Prop :=
  RequestFailed events ∨ Rejected (announcePayload image.length.toUInt32) events ∨
    Rejected verifyPayload events

section Answers

variable {payload : Bytes} {history : History boardCalls}

@[simp] theorem answersTo_nil : answersTo payload [] = [] := rfl

theorem answersTo_snoc (event : Event boardCalls) :
    answersTo payload (history ++ [event]) =
      answersTo payload history ++ (answerTo payload event).toList := by
  simp only [answersTo, List.filterMap_append, List.filterMap_cons, List.filterMap_nil]
  cases answerTo payload event <;> rfl

@[simp] theorem answersTo_same (retries subtype : UInt8) (answer : Except BoardError Bytes) :
    answersTo payload (history ++ [⟨.request retries subtype payload, answer⟩]) =
      answersTo payload history ++ [answer] := by
  rw [answersTo_snoc]
  simp [answerTo]

theorem answersTo_other {sent : Bytes} (differs : sent ≠ payload) (retries subtype : UInt8)
    (answer : Except BoardError Bytes) :
    answersTo payload (history ++ [⟨.request retries subtype sent, answer⟩]) =
      answersTo payload history := by
  rw [answersTo_snoc]
  simp [answerTo, differs]

@[simp] theorem answersTo_progress (update : FwProgress) (answer : Unit) :
    answersTo payload (history ++ [⟨.progress update, answer⟩]) =
      answersTo payload history := by
  rw [answersTo_snoc]
  simp [answerTo]

theorem requestFailed_snoc (event : Event boardCalls) :
    RequestFailed (history ++ [event]) ↔
      RequestFailed history ∨ failedRequest event = true := by
  simp [RequestFailed, or_and_right, exists_or]

end Answers

/-! ## The replies at each stage -/

/-- The requests that an upgrade makes once. -/
def singleRequests (image : Bytes) : List Bytes :=
  [announcePayload image.length.toUInt32, verifyPayload, completePayload]

/-- What holds between two stages: no request has failed, and of the requests made once
those in `passed` got an acceptable reply and the others were not made yet. -/
def Reached (image : Bytes) (passed : List Bytes) (events : History boardCalls) : Prop :=
  ¬ RequestFailed events ∧ ∀ payload ∈ singleRequests image,
    if payload ∈ passed then Passed payload events else answersTo payload events = []

section Stages

variable {image : Bytes} {passed : List Bytes} {history : History boardCalls}
  {settings : Settings}

/-- A request of the stream stage is none of those made once. -/
theorem streamPayload_not_single (chunkIdx : UInt32) (chunk : Bytes) :
    streamPayload chunkIdx chunk ∉ singleRequests image := by
  have differs {stage : UInt8} (rest : Bytes) (other : stageStream ≠ stage) :
      streamPayload chunkIdx chunk ≠ stage :: rest :=
    fun equal => other (List.cons.inj equal).1
  intro member
  simp only [singleRequests, List.mem_cons, List.not_mem_nil, or_false] at member
  rcases member with announce | verify | complete
  · exact differs _ (by decide) announce
  · exact differs _ (by decide) verify
  · exact differs _ (by decide) complete

theorem Reached.progress (reached : Reached image passed history) (update : FwProgress)
    (answer : Unit) : Reached image passed (history ++ [⟨.progress update, answer⟩]) := by
  refine ⟨?_, fun payload single => ?_⟩
  · rw [requestFailed_snoc]
    exact fun failed => failed.elim reached.1 (by simp [failedRequest])
  · simpa only [Passed, answersTo_progress] using reached.2 payload single

/-- A reply to a request that is not among those made once. -/
theorem Reached.other (reached : Reached image passed history) {sent : Bytes}
    (differs : sent ∉ singleRequests image) (retries subtype : UInt8) (reply : Bytes) :
    Reached image passed (history ++ [⟨.request retries subtype sent, .ok reply⟩]) := by
  refine ⟨?_, fun payload single => ?_⟩
  · rw [requestFailed_snoc]
    exact fun failed => failed.elim reached.1 (by simp [failedRequest])
  · have apart : sent ≠ payload := fun equal => differs (equal ▸ single)
    simpa only [Passed, answersTo_other apart] using reached.2 payload single

/-- An acceptable reply to one of them. -/
theorem Reached.pass (reached : Reached image passed history) {sent : Bytes}
    (single : sent ∈ singleRequests image) (fresh : sent ∉ passed) (retries subtype : UInt8)
    {reply : Bytes} (zero : StatusZero reply) :
    Reached image (sent :: passed)
      (history ++ [⟨.request retries subtype sent, .ok reply⟩]) := by
  refine ⟨?_, fun payload isSingle => ?_⟩
  · rw [requestFailed_snoc]
    exact fun failed => failed.elim reached.1 (by simp [failedRequest])
  · by_cases same : sent = payload
    · subst same
      have none := reached.2 sent single
      rw [if_neg fresh] at none
      rw [if_pos (.head _)]
      exact ⟨reply, by rw [answersTo_same, none]; rfl, zero⟩
    · have before := reached.2 payload isSingle
      by_cases earlier : payload ∈ passed
      · rw [if_pos earlier] at before
        rw [if_pos (.tail _ earlier)]
        simpa only [Passed, answersTo_other same] using before
      · rw [if_neg earlier] at before
        rw [if_neg (by simp [earlier, Ne.symm same]), answersTo_other same, before]

theorem Reached.answers (reached : Reached image passed history) {sent : Bytes}
    (single : sent ∈ singleRequests image) (fresh : sent ∉ passed) (retries subtype : UInt8)
    (answer : Except BoardError Bytes) :
    answersTo sent (history ++ [⟨.request retries subtype sent, answer⟩]) = [answer] := by
  have none := reached.2 sent single
  rw [if_neg fresh] at none
  rw [answersTo_same, none]
  rfl

theorem requestFailed_error (retries subtype : UInt8) (payload : Bytes) (error : BoardError) :
    RequestFailed (history ++ [⟨.request retries subtype payload, .error error⟩]) :=
  requestFailed_snoc _ |>.mpr (.inr rfl)

/-- The environment of an upgrade is not restricted. -/
def anyBoard : Contract boardCalls where
  may _ _ := True

/-- How a stage ends that goes from `Reached` to `Reached`. -/
def StageEnds {α : Type} (image : Bytes) (passed : List Bytes) (later : History boardCalls) :
    Except BoardError α × Settings → Prop
  | (.ok _, _) => Reached image passed later
  | (.error _, _) => Stopped image later

theorem safe_statusStage_reached {saved : Settings} {timeout : Nat} {retries stage : UInt8}
    {payload : Bytes} {reason : String} (reached : Reached image passed history)
    (single : payload ∈ singleRequests image) (fresh : payload ∉ passed)
    (stops : ∀ later, Rejected payload later → Stopped image later) :
    Safe anyBoard (StageEnds image (payload :: passed))
      (statusStage saved timeout retries payload reason stage settings) history := by
  apply safe_statusStage
  · trivial
  · exact fun _ => trivial
  · intro reply _ zero
    exact (reached.pass single fresh retries 8 zero).progress _ _
  · intro reply _ rejected
    exact stops _ ⟨reply, reached.answers single fresh retries 8 _, rejected⟩
  · intro error _
    exact .inl (requestFailed_error _ _ _ _)

theorem safe_streamStage_reached (fuel : Nat) (reached : Reached image passed history) :
    Safe anyBoard (StageEnds image passed) (streamStage fuel image settings) history := by
  have turn (before : History boardCalls) (cursor : Cursor) (current : Settings)
      (holds : Reached image passed before) :
      Safe anyBoard
        (Method.passOwes (fun later _ _ => Reached image passed later)
          (StageEnds image passed))
        (streamPass image (totalChunks image) cursor current) before := by
    by_cases inside : cursor.chunkIdx < totalChunks image
    · rw [streamPass, if_pos inside]
      cases chunkAt? image cursor.chunkIdx with
      | none => trivial
      | some chunk =>
          refine safe_ask trivial ?_ ?_
          · intro reply _
            have streamed := holds.other (streamPayload_not_single cursor.chunkIdx chunk)
              current.retries 8 reply
            exact safe_reportChunk (fun _ => trivial) streamed
              fun update _ => streamed.progress update ()
          · intro error _
            exact .inl (requestFailed_error _ _ _ _)
    · rw [streamPass, if_neg inside]
      exact holds
  rw [streamStage, enterStage_bind]
  exact Method.safe_iterate turn fuel _ reached

/-- What a run that returns `Ok` has heard, and why another one stopped. -/
def UpgradeEnds (image : Bytes) (later : History boardCalls) :
    Except BoardError FwUpgradeResult × Settings → Prop
  | (.ok _, _) => ¬ RequestFailed later ∧
      Passed (announcePayload image.length.toUInt32) later ∧ Passed verifyPayload later ∧
      ∃ reply, answersTo completePayload later = [.ok reply]
  | (.error _, _) => Stopped image later

theorem safe_completeStage_reached {saved : Settings}
    (reached : Reached image [verifyPayload, announcePayload image.length.toUInt32] history) :
    Safe anyBoard (UpgradeEnds image) (completeStage saved settings) history := by
  have single : completePayload ∈ singleRequests image := by simp [singleRequests]
  rw [completeStage, enterStage_bind]
  refine safe_ask trivial ?_ ?_
  · intro reply _
    refine ⟨trivial, fun answer _ => ?_⟩
    have announced := reached.2 (announcePayload image.length.toUInt32)
      (by simp [singleRequests])
    have verified := reached.2 verifyPayload (by simp [singleRequests])
    have differs : completePayload ≠ announcePayload image.length.toUInt32 :=
      fun equal => absurd (List.cons.inj equal).1 (by decide)
    rw [if_pos (by simp)] at announced verified
    have fresh : completePayload ∉ [verifyPayload, announcePayload image.length.toUInt32] := by
      simpa using ⟨(by decide : completePayload ≠ verifyPayload), differs⟩
    refine ⟨?_, ?_, ?_, reply, ?_⟩
    · rw [requestFailed_snoc, requestFailed_snoc]
      simp [failedRequest, reached.1]
    · simpa only [Passed, answersTo_progress, answersTo_other differs] using announced
    · simpa only [Passed, answersTo_progress,
        answersTo_other (by decide : completePayload ≠ verifyPayload)] using verified
    · rw [answersTo_progress]
      exact reached.answers single fresh _ _ _
  · intro error _
    exact .inl (requestFailed_error _ _ _ _)

/-- The spec of an upgrade: how it ends. -/
theorem safe_firmwareUpgrade_ends (fuel : Nat) :
    Safe anyBoard (UpgradeEnds image) (firmwareUpgrade fuel image settings) [] := by
  have differs : verifyPayload ≠ announcePayload image.length.toUInt32 :=
    fun equal => absurd (List.cons.inj equal).1 (by decide)
  have start : Reached image [] [] :=
    ⟨by simp [RequestFailed], fun payload _ => by simp⟩
  rw [firmwareUpgrade, Method.bind_apply, Method.read_apply, Program.pure_bind,
    Method.resume_ok]
  refine Method.safe_bind (safe_statusStage_reached start (by simp [singleRequests]) (by simp)
    fun _ rejected => .inr (.inl rejected)) ?_ fun _ _ _ stopped => stopped
  intro _ _ _ announced
  refine Method.safe_bind (safe_streamStage_reached fuel announced) ?_
    fun _ _ _ stopped => stopped
  intro _ _ _ streamed
  refine Method.safe_bind (safe_statusStage_reached streamed (by simp [singleRequests])
    (by simpa using differs) fun _ rejected => .inr (.inr rejected)) ?_
    fun _ _ _ stopped => stopped
  intro _ _ _ verified
  exact safe_completeStage_reached verified

end Stages

/-- A reply that is long enough to have a status, and has none but zero. -/
theorem replyWord_eq_zero {reply : Bytes} (long : 5 ≤ (stripEcho reply 0x08).length)
    (zero : StatusZero reply) : replyWord (stripEcho reply 0x08) = some 0 := by
  have present : (replyWord (stripEcho reply 0x08)).isSome :=
    (be32At?_isSome_iff (stripEcho reply 0x08) 1).mpr long
  obtain ⟨word, read⟩ := Option.isSome_iff_exists.mp present
  rw [read, zero word read]

/-- The status that a stage has checked makes a reply genuine that is right in the rest. -/
theorem Passed.genuine {payload : Bytes} {stage : UInt8} {events : History boardCalls}
    (passed : Passed payload events)
    (right : ∀ reply, .ok reply ∈ answersTo payload events → OfStage stage 5 reply) :
    ∃ reply, answersTo payload events = [.ok reply] ∧ GenuineStatus stage reply := by
  obtain ⟨reply, answered, zero⟩ := passed
  have ofStage := right reply (by rw [answered]; exact List.mem_singleton_self _)
  exact ⟨reply, answered, ofStage.1, ofStage.2, replyWord_eq_zero ofStage.1 zero⟩

theorem GenuineReplies.uncheckedRight {image : Bytes} {events : History boardCalls}
    (genuine : GenuineReplies image events) : UncheckedRight image events := by
  obtain ⟨⟨announced, isAnnounced, announce⟩, ⟨verified, isVerified, verify⟩,
    completed, isCompleted, complete⟩ := genuine
  have only {reply other : Bytes} {answers : List (Except BoardError Bytes)}
      (single : answers = [.ok other]) (member : .ok reply ∈ answers) : reply = other := by
    rw [single, List.mem_singleton] at member
    exact Except.ok.inj member
  constructor
  · intro reply member
    rw [only isAnnounced member]
    exact ⟨announce.1, announce.2.1⟩
  · intro reply member
    rw [only isVerified member]
    exact ⟨verify.1, verify.2.1⟩
  · intro reply member
    rw [only isCompleted member]
    exact ⟨⟨complete.1, complete.2.1⟩, complete.2.2⟩

/-- An upgrade's `Ok` is genuine exactly where it has stopped early, or where the replies are
right in all that the code does not look at. -/
theorem ok_genuine_iff (image : Bytes) (fuel : Nat) (settings : Settings)
    (oracle : Oracle boardCalls) (result : Except BoardError FwUpgradeResult)
    (after : Settings)
    (returned : ((firmwareUpgrade fuel image settings).exec oracle []).outcome =
      .returned (result, after)) :
    ((∃ success, result = .ok success) →
        GenuineReplies image ((firmwareUpgrade fuel image settings).exec oracle []).events) ↔
      RequestFailed ((firmwareUpgrade fuel image settings).exec oracle []).events ∨
        Rejected (announcePayload image.length.toUInt32)
          ((firmwareUpgrade fuel image settings).exec oracle []).events ∨
        Rejected verifyPayload
          ((firmwareUpgrade fuel image settings).exec oracle []).events ∨
        UncheckedRight image ((firmwareUpgrade fuel image settings).exec oracle []).events := by
  have ended := ((safe_firmwareUpgrade_ends fuel).exec
    (along_true [] ((firmwareUpgrade fuel image settings).exec oracle []).events)).2
  rw [returned, List.nil_append] at ended
  generalize ((firmwareUpgrade fuel image settings).exec oracle []).events = events at ended ⊢
  -- a request is answered once, so it is not both passed and rejected
  have exclusive (payload : Bytes) (passed : Passed payload events) :
      ¬ Rejected payload events := by
    rintro ⟨reply, answered, nonzero⟩
    obtain ⟨other, same, zero⟩ := passed
    rw [same] at answered
    cases answered
    exact nonzero zero
  cases result with
  | error error =>
      refine iff_of_true (fun ⟨_, equal⟩ => by cases equal) ?_
      rcases ended with failed | announce | verify
      · exact .inl failed
      · exact .inr (.inl announce)
      · exact .inr (.inr (.inl verify))
  | ok success =>
      obtain ⟨answered, announced, verified, reply, completed⟩ := ended
      constructor
      · intro genuine
        exact .inr (.inr (.inr (genuine ⟨success, rfl⟩).uncheckedRight))
      · rintro (failed | announce | verify | right) _
        · exact absurd failed answered
        · exact absurd announce (exclusive _ announced)
        · exact absurd verify (exclusive _ verified)
        · obtain ⟨⟨long, stage⟩, zero⟩ :=
            right.complete reply (by rw [completed]; exact List.mem_singleton_self _)
          exact ⟨announced.genuine right.announce, verified.genuine right.verify,
            reply, completed, long, stage, zero⟩

/-! ## A refused COMPLETE -/

/-- A board that answers each stage as documented, and COMPLETE with this status. -/
def answeringBoard (status : UInt8) : Oracle boardCalls
  | _, .progress _ => ()
  | _, .request _ _ [] => .ok []
  | _, .request _ _ (stage :: _) =>
      .ok (if stage = stageComplete then [stage, 0, 0, 0, 0, status] else [stage, 0, 0, 0, 0])

/-- All that happens in the upgrade of an image without content: no chunk is streamed. -/
def contentlessEvents (status : UInt8) : History boardCalls :=
  [⟨.request retriesAnnounce 8 (announcePayload 0), .ok [stageAnnounce, 0, 0, 0, 0]⟩,
    ⟨.progress (.ofStage stageAnnounce), ()⟩,
    ⟨.request retriesVerify 8 verifyPayload, .ok [stageVerify, 0, 0, 0, 0]⟩,
    ⟨.progress (.ofStage stageVerify), ()⟩,
    ⟨.request retriesComplete 8 completePayload, .ok [stageComplete, 0, 0, 0, 0, status]⟩,
    ⟨.progress (.ofStage stageComplete), ()⟩]

theorem exec_answeringBoard (status : UInt8) (settings : Settings) :
    (firmwareUpgrade 1 [] settings).exec (answeringBoard status) [] =
      ⟨contentlessEvents status, .returned (.ok ⟨0, status⟩, settings)⟩ := rfl

theorem answersTo_contentless (status : UInt8) :
    answersTo completePayload (contentlessEvents status) =
      [.ok [stageComplete, 0, 0, 0, 0, status]] := rfl

theorem uncheckedRight_contentless : UncheckedRight [] (contentlessEvents 0) := by
  have announced : answersTo (announcePayload ([] : Bytes).length.toUInt32) (contentlessEvents 0) =
      [.ok [stageAnnounce, 0, 0, 0, 0]] := rfl
  have verified : answersTo verifyPayload (contentlessEvents 0) =
      [.ok [stageVerify, 0, 0, 0, 0]] := rfl
  constructor
  · intro reply member
    rw [announced, List.mem_singleton] at member
    obtain rfl := Except.ok.inj member
    exact ⟨by decide, rfl⟩
  · intro reply member
    rw [verified, List.mem_singleton] at member
    obtain rfl := Except.ok.inj member
    exact ⟨by decide, rfl⟩
  · intro reply member
    rw [answersTo_contentless, List.mem_singleton] at member
    obtain rfl := Except.ok.inj member
    exact ⟨⟨by decide, rfl⟩, rfl⟩

/-- An upgrade that succeeds genuinely. -/
theorem ok_genuine_iff_answering : ∃ success after,
    ((firmwareUpgrade 1 [] ⟨defaultTimeout, defaultRetries⟩).exec (answeringBoard 0) []).outcome =
      .returned (.ok success, after) ∧
    GenuineReplies []
      ((firmwareUpgrade 1 [] ⟨defaultTimeout, defaultRetries⟩).exec (answeringBoard 0) []).events :=
  ⟨_, _, rfl, (ok_genuine_iff [] 1 ⟨defaultTimeout, defaultRetries⟩ (answeringBoard 0) _ _ rfl).mpr
    (.inr (.inr (.inr uncheckedRight_contentless))) ⟨_, rfl⟩⟩

/-- A COMPLETE reply that reports a failure is returned as `Ok`. -/
theorem ok_not_genuine_refused :
    ¬ ∀ (image : Bytes) (fuel : Nat) (settings : Settings) (oracle : Oracle boardCalls)
        (success : FwUpgradeResult) (after : Settings),
      ((firmwareUpgrade fuel image settings).exec oracle []).outcome =
        .returned (.ok success, after) →
      GenuineReplies image ((firmwareUpgrade fuel image settings).exec oracle []).events := by
  intro claim
  have genuine := claim [] 1 ⟨defaultTimeout, defaultRetries⟩ (answeringBoard 1) _ _ rfl
  rw [exec_answeringBoard] at genuine
  obtain ⟨reply, answered, _, _, zero⟩ := genuine.2.2
  rw [answersTo_contentless] at answered
  cases answered
  exact absurd zero (by decide)

end RbctlDsl.Dsl
