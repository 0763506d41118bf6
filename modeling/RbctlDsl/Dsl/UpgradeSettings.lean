import RbctlDsl.Dsl.UpgradeTrace

/-!
# Settings after an upgrade

An upgrade changes the timeout and the retry budget of the board for each of its stages.  It
restores them when it succeeds and when the board rejects it.  A request that fails ends the
upgrade at once, with the settings of its stage in force.
-/

namespace RbctlDsl.Dsl

open RbctlDsl.Lib RbctlDsl.Proto

/-- The settings of the stage that a payload belongs to. -/
def settingsOf : Bytes → Settings
  | [] => completeSettings
  | stage :: _ =>
    if stage = stageAnnounce then announceSettings
    else if stage = stageStream then streamSettings
    else if stage = stageVerify then verifySettings
    else completeSettings

/-- The payloads of the requests that failed. -/
def failures (events : History boardCalls) : List Bytes :=
  events.filterMap fun
    | ⟨.request _ _ payload, .error _⟩ => some payload
    | _ => none

@[simp] theorem failures_append (earlier later : History boardCalls) :
    failures (earlier ++ later) = failures earlier ++ failures later :=
  List.filterMap_append

section Traces

variable {image : Bytes} {fuel : Nat} {saved after : Settings} {events : History boardCalls}

/-- How a part of an upgrade that ends with a result leaves the settings: as they were saved, or
as the stage of its only failing request has them. -/
def Leaves (saved : Settings) (events : History boardCalls) (after : Settings) : Prop :=
  (failures events = [] ∧ after = saved) ∨
    ∃ payload, failures events = [payload] ∧ after = settingsOf payload

theorem Leaves.append {first : History boardCalls} (leaves : Leaves saved events after)
    (none : failures first = []) : Leaves saved (first ++ events) after := by
  rw [Leaves, failures_append, none, List.nil_append]
  exact leaves

theorem StatusTrace.failures_ok {stageSettings : Settings} {payload : Bytes} {reason : String}
    {stage : UInt8} (trace : StatusTrace saved stageSettings payload reason stage events (.ok ())
      after) : failures events = [] := by
  cases trace with
  | accepted reply zero => rfl

theorem StatusTrace.leaves {stageSettings : Settings} {payload : Bytes} {reason : String}
    {stage : UInt8} {error : BoardError}
    (trace : StatusTrace saved stageSettings payload reason stage events (.error error) after)
    (own : settingsOf payload = stageSettings) : Leaves saved events after := by
  cases trace with
  | rejected reply nonzero => exact .inl ⟨rfl, rfl⟩
  | failed error => exact .inr ⟨payload, rfl, own.symm⟩

theorem CompleteTrace.leaves {result : Except BoardError FwUpgradeResult}
    (trace : CompleteTrace saved events result after) : Leaves saved events after := by
  cases trace with
  | done reply value => exact .inl ⟨rfl, rfl⟩
  | failed error => exact .inr ⟨completePayload, rfl, rfl⟩

theorem failures_report (total : UInt32) (turn : Turn) : failures (turn.report total) = [] := by
  rw [Turn.report]
  split
  · rfl
  · rfl

theorem failures_turn {settings : Settings} {cursor : Cursor} {chunk reply : Bytes}
    (total : UInt32) :
    failures (⟨.request settings.retries 8 (streamPayload cursor.chunkIdx chunk), .ok reply⟩ ::
      (Turn.report total ⟨cursor, reply⟩ ++ events)) = failures events := by
  show failures (Turn.report total ⟨cursor, reply⟩ ++ events) = failures events
  rw [failures_append, failures_report, List.nil_append]

theorem Streams.failures_ok {settings : Settings} {cursor : Cursor}
    (streams : Streams image settings fuel cursor events (.returned (.ok (), after))) :
    failures events = [] := by
  generalize ended : Outcome.returned (Except.ok (), after) = outcome at streams
  induction streams with
  | turn inside found rest ih =>
      rw [failures_turn]
      exact ih ended
  | done past => rfl
  | cut => cases ended
  | failed inside found error => cases ended

/-- The stream loop ends with an error at its only failing request. -/
theorem Streams.failures_error {settings : Settings} {cursor : Cursor} {error : BoardError}
    (streams : Streams image settings fuel cursor events (.returned (.error error, after))) :
    after = settings ∧ ∃ chunkIdx chunk, failures events = [streamPayload chunkIdx chunk] := by
  generalize ended : Outcome.returned (Except.error error, after) = outcome at streams
  induction streams with
  | turn inside found rest ih =>
      rw [failures_turn]
      exact ih ended
  | failed inside found error =>
      cases ended
      exact ⟨rfl, _, _, rfl⟩
  | cut => cases ended
  | done past => cases ended

theorem Upgrades.leaves {result : Except BoardError FwUpgradeResult}
    (trace : Upgrades fuel image saved events (.returned (result, after))) :
    Leaves saved events after := by
  cases trace with
  | unannounced announce => exact announce.leaves rfl
  | unstreamed announce stream =>
      obtain ⟨rfl, chunkIdx, chunk, one⟩ := stream.failures_error
      apply Leaves.append _ announce.failures_ok
      exact .inr ⟨_, one, rfl⟩
  | unverified announce stream verify =>
      apply Leaves.append _ announce.failures_ok
      apply Leaves.append _ stream.failures_ok
      exact verify.leaves rfl
  | verified announce stream verify complete =>
      apply Leaves.append _ announce.failures_ok
      apply Leaves.append _ stream.failures_ok
      apply Leaves.append _ verify.failures_ok
      exact complete.leaves

end Traces

/-- An upgrade that returns has restored the settings, exactly if every request that failed was
made in a stage whose own settings are the ones to restore. -/
theorem restored_iff (fuel : Nat) (image : Bytes) (settings after : Settings)
    (oracle : Oracle boardCalls) (history : History boardCalls)
    (result : Except BoardError FwUpgradeResult)
    (returned : ((firmwareUpgrade fuel image settings).exec oracle history).outcome =
      .returned (result, after)) :
    after = settings ↔
      ∀ payload ∈ failures ((firmwareUpgrade fuel image settings).exec oracle history).events,
        settingsOf payload = settings := by
  have performs := Performs.of_exec oracle (firmwareUpgrade fuel image settings) history
  rw [returned] at performs
  rcases (upgrades_of_performs performs).leaves with ⟨none, rfl⟩ | ⟨payload, one, rfl⟩
  · rw [none]
    exact iff_of_true rfl (List.forall_mem_nil _)
  · rw [one, List.forall_mem_singleton]

/-- A board that answers nothing. -/
def silentBoard : Oracle boardCalls
  | _, .request .. => .error .timeout
  | _, .progress _ => ()

theorem returned_silentBoard :
    ((firmwareUpgrade 0 [] ⟨defaultTimeout, defaultRetries⟩).exec silentBoard []).outcome =
      .returned (.error .timeout, announceSettings) := rfl

theorem restored_iff_silentBoard :
    announceSettings = ⟨defaultTimeout, defaultRetries⟩ ↔
      ∀ payload ∈ failures ((firmwareUpgrade 0 [] ⟨defaultTimeout, defaultRetries⟩).exec
          silentBoard []).events, settingsOf payload = ⟨defaultTimeout, defaultRetries⟩ :=
  restored_iff 0 [] ⟨defaultTimeout, defaultRetries⟩ announceSettings silentBoard [] _
    returned_silentBoard

/-- After an announcement that is not answered, its timeout and retry budget stay in force. -/
theorem not_restored_silentBoard :
    ¬ ∀ (fuel : Nat) (image : Bytes) (settings after : Settings) (oracle : Oracle boardCalls)
      (history : History boardCalls) (result : Except BoardError FwUpgradeResult),
      ((firmwareUpgrade fuel image settings).exec oracle history).outcome =
        .returned (result, after) → after = settings := by
  intro restored
  have same := restored 0 [] ⟨defaultTimeout, defaultRetries⟩ announceSettings silentBoard [] _
    returned_silentBoard
  exact absurd same (by decide)

end RbctlDsl.Dsl
