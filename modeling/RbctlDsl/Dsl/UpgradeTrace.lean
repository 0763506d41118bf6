import RbctlDsl.Dsl.StreamTrace

/-!
# Traces of an upgrade

The stages of `Board::firmware_upgrade` with their exits: a stage that asks for a status is
accepted, rejected or fails, the stream is sent to its end or fails, and each exit leaves the
board's settings as that exit leaves them.
-/

namespace RbctlDsl.Dsl

open RbctlDsl.Lib RbctlDsl.Proto

/-- The timeout and the retry budget of a stage. -/
def announceSettings : Settings := ⟨timeoutAnnounceMs, retriesAnnounce⟩
def streamSettings : Settings := ⟨timeoutStreamMs, retriesStream⟩
def verifySettings : Settings := ⟨timeoutVerifyMs, retriesVerify⟩
def completeSettings : Settings := ⟨timeoutCompleteMs, retriesComplete⟩

/-- The traces of a stage that asks for a status, with its result and the settings it leaves. -/
inductive StatusTrace (saved stageSettings : Settings) (payload : Bytes) (reason : String)
    (stage : UInt8) : History boardCalls → Except BoardError Unit → Settings → Prop where
  | accepted (reply : Bytes) (zero : StatusZero reply) :
      StatusTrace saved stageSettings payload reason stage
        [⟨.request stageSettings.retries 8 payload, .ok reply⟩, ⟨.progress (.ofStage stage), ()⟩]
        (.ok ()) stageSettings
  | rejected (reply : Bytes) (nonzero : ¬ StatusZero reply) :
      StatusTrace saved stageSettings payload reason stage
        [⟨.request stageSettings.retries 8 payload, .ok reply⟩]
        (.error (.badResponse reason)) saved
  | failed (error : BoardError) :
      StatusTrace saved stageSettings payload reason stage
        [⟨.request stageSettings.retries 8 payload, .error error⟩] (.error error) stageSettings

abbrev AnnounceTrace (saved : Settings) (image : Bytes) :
    History boardCalls → Except BoardError Unit → Settings → Prop :=
  StatusTrace saved announceSettings (announcePayload image.length.toUInt32)
    "announce rejected by board" stageAnnounce

abbrev VerifyTrace (saved : Settings) :
    History boardCalls → Except BoardError Unit → Settings → Prop :=
  StatusTrace saved verifySettings verifyPayload "board firmware verification failed" stageVerify

/-- The traces of the last stage. -/
inductive CompleteTrace (saved : Settings) :
    History boardCalls → Except BoardError FwUpgradeResult → Settings → Prop where
  | done (reply : Bytes) (value : FwUpgradeResult) :
      CompleteTrace saved
        [⟨.request completeSettings.retries 8 completePayload, .ok reply⟩,
          ⟨.progress (.ofStage stageComplete), ()⟩] (.ok value) saved
  | failed (error : BoardError) :
      CompleteTrace saved
        [⟨.request completeSettings.retries 8 completePayload, .error error⟩] (.error error)
        completeSettings

/-- The traces of an upgrade. -/
inductive Upgrades (fuel : Nat) (image : Bytes) (saved : Settings) :
    History boardCalls → Outcome (Except BoardError FwUpgradeResult × Settings) → Prop where
  | unannounced {events : History boardCalls} {error : BoardError} {after : Settings}
      (announce : AnnounceTrace saved image events (.error error) after) :
      Upgrades fuel image saved events (.returned (.error error, after))
  | unstreamed {first events : History boardCalls} {error : BoardError} {after : Settings}
      (announce : AnnounceTrace saved image first (.ok ()) announceSettings)
      (stream : Streams image streamSettings fuel ⟨0, 0⟩ events
        (.returned (.error error, after))) :
      Upgrades fuel image saved (first ++ events) (.returned (.error error, after))
  | cut {first events : History boardCalls}
      (announce : AnnounceTrace saved image first (.ok ()) announceSettings)
      (stream : Streams image streamSettings fuel ⟨0, 0⟩ events .spinning) :
      Upgrades fuel image saved (first ++ events) .spinning
  | unverified {first second events : History boardCalls} {error : BoardError} {after : Settings}
      (announce : AnnounceTrace saved image first (.ok ()) announceSettings)
      (stream : Streams image streamSettings fuel ⟨0, 0⟩ second
        (.returned (.ok (), streamSettings)))
      (verify : VerifyTrace saved events (.error error) after) :
      Upgrades fuel image saved (first ++ (second ++ events)) (.returned (.error error, after))
  | verified {first second third events : History boardCalls}
      {result : Except BoardError FwUpgradeResult} {after : Settings}
      (announce : AnnounceTrace saved image first (.ok ()) announceSettings)
      (stream : Streams image streamSettings fuel ⟨0, 0⟩ second
        (.returned (.ok (), streamSettings)))
      (verify : VerifyTrace saved third (.ok ()) verifySettings)
      (complete : CompleteTrace saved events result after) :
      Upgrades fuel image saved (first ++ (second ++ (third ++ events)))
        (.returned (result, after))

section Stages

variable {saved stageSettings settings : Settings} {payload : Bytes} {reason : String}
  {stage : UInt8} {events : History boardCalls}

/-- A status stage returns, by one of its traces. -/
theorem statusTrace_of_performs {outcome : Outcome (Except BoardError Unit × Settings)}
    (performs : Performs (statusStage saved stageSettings.timeout stageSettings.retries payload
      reason stage settings) events outcome) :
    ∃ result after, outcome = .returned (result, after) ∧
      StatusTrace saved stageSettings payload reason stage events result after := by
  rw [statusStage, enterStage_bind, Method.bind_apply, ask_apply, Program.perform_bind] at performs
  obtain ⟨answer, rest, rfl, later⟩ := Performs.perform_iff.mp performs
  cases answer with
  | error error =>
      obtain ⟨rfl, rfl⟩ := Performs.pure_iff.mp later
      exact ⟨_, _, rfl, .failed error⟩
  | ok reply =>
      rw [Program.pure_bind, Method.resume_ok, Method.bind_apply] at later
      by_cases zero : StatusZero reply
      · rw [rejectStatus_of_zero saved reason zero] at later
        obtain ⟨_, rest, rfl, after⟩ := Performs.perform_iff.mp later
        obtain ⟨rfl, rfl⟩ := Performs.pure_iff.mp after
        exact ⟨_, _, rfl, .accepted reply zero⟩
      · rw [rejectStatus_of_nonzero saved reason zero] at later
        obtain ⟨rfl, rfl⟩ := Performs.pure_iff.mp later
        exact ⟨_, _, rfl, .rejected reply zero⟩

/-- The last stage returns, by one of its traces. -/
theorem completeTrace_of_performs
    {outcome : Outcome (Except BoardError FwUpgradeResult × Settings)}
    (performs : Performs (completeStage saved settings) events outcome) :
    ∃ result after, outcome = .returned (result, after) ∧
      CompleteTrace saved events result after := by
  rw [completeStage, enterStage_bind, Method.bind_apply, ask_apply,
    Program.perform_bind] at performs
  obtain ⟨answer, rest, rfl, later⟩ := Performs.perform_iff.mp performs
  cases answer with
  | error error =>
      obtain ⟨rfl, rfl⟩ := Performs.pure_iff.mp later
      exact ⟨_, _, rfl, .failed error⟩
  | ok reply =>
      obtain ⟨_, rest, rfl, after⟩ := Performs.perform_iff.mp later
      obtain ⟨rfl, rfl⟩ := Performs.pure_iff.mp after
      exact ⟨_, _, rfl, .done reply _⟩

theorem announceTrace_of_performs {image : Bytes}
    {outcome : Outcome (Except BoardError Unit × Settings)}
    (performs : Performs (announceStage saved image settings) events outcome) :
    ∃ result after, outcome = .returned (result, after) ∧
      AnnounceTrace saved image events result after :=
  statusTrace_of_performs performs

theorem verifyTrace_of_performs {outcome : Outcome (Except BoardError Unit × Settings)}
    (performs : Performs (verifyStage saved settings) events outcome) :
    ∃ result after, outcome = .returned (result, after) ∧ VerifyTrace saved events result after :=
  statusTrace_of_performs performs

/-- A stage that is accepted leaves its own settings. -/
theorem StatusTrace.after_ok {after : Settings}
    (trace : StatusTrace saved stageSettings payload reason stage events (.ok ()) after) :
    after = stageSettings := by
  cases trace with
  | accepted reply zero => rfl

end Stages

/-- The stream loop ends within its stage's settings, or is cut off. -/
theorem Streams.ends {image : Bytes} {settings : Settings} {fuel : Nat} {cursor : Cursor}
    {events : History boardCalls} {outcome : Outcome (Except BoardError Unit × Settings)}
    (streams : Streams image settings fuel cursor events outcome) :
    outcome = .spinning ∨ ∃ result, outcome = .returned (result, settings) := by
  induction streams with
  | turn inside found rest ih => exact ih
  | cut => exact .inl rfl
  | done past => exact .inr ⟨_, rfl⟩
  | failed inside found error => exact .inr ⟨_, rfl⟩

/-- The traces of an upgrade after its stream has been sent. -/
theorem upgrades_streamed {image : Bytes} {fuel : Nat} {saved : Settings}
    {first second events : History boardCalls}
    {outcome : Outcome (Except BoardError FwUpgradeResult × Settings)}
    (announce : AnnounceTrace saved image first (.ok ()) announceSettings)
    (stream : Streams image streamSettings fuel ⟨0, 0⟩ second (.returned (.ok (), streamSettings)))
    (performs : Performs ((verifyStage saved >>= fun _ => completeStage saved) streamSettings)
      events outcome) :
    Upgrades fuel image saved (first ++ (second ++ events)) outcome := by
  rcases performs.method_cases with ⟨_, after, third, rest, rfl, before, later⟩ |
    ⟨error, after, rfl, before⟩ | ⟨message, rfl, before⟩ | ⟨rfl, before⟩
  · obtain ⟨_, _, same, verify⟩ := verifyTrace_of_performs before
    cases same
    obtain rfl := verify.after_ok
    obtain ⟨result, _, rfl, complete⟩ := completeTrace_of_performs later
    exact .verified announce stream verify complete
  · obtain ⟨_, _, same, verify⟩ := verifyTrace_of_performs before
    cases same
    exact .unverified announce stream verify
  · obtain ⟨_, _, same, _⟩ := verifyTrace_of_performs before
    cases same
  · obtain ⟨_, _, same, _⟩ := verifyTrace_of_performs before
    cases same

/-- The traces of an upgrade after its announcement has been accepted. -/
theorem upgrades_announced {image : Bytes} {fuel : Nat} {saved : Settings}
    {first events : History boardCalls}
    {outcome : Outcome (Except BoardError FwUpgradeResult × Settings)}
    (announce : AnnounceTrace saved image first (.ok ()) announceSettings)
    (performs : Performs ((streamStage fuel image >>= fun _ => verifyStage saved >>= fun _ =>
      completeStage saved) announceSettings) events outcome) :
    Upgrades fuel image saved (first ++ events) outcome := by
  rcases performs.method_cases with ⟨_, after, second, rest, rfl, before, later⟩ |
    ⟨error, after, rfl, before⟩ | ⟨message, rfl, before⟩ | ⟨rfl, before⟩
  · rw [streamStage, enterStage_bind] at before
    have stream := streams_of_performs before
    rcases stream.ends with spins | ⟨_, same⟩
    · cases spins
    · cases same
      exact upgrades_streamed announce stream later
  · rw [streamStage, enterStage_bind] at before
    exact .unstreamed announce (streams_of_performs before)
  · rw [streamStage, enterStage_bind] at before
    rcases (streams_of_performs before).ends with spins | ⟨_, same⟩
    · cases spins
    · cases same
  · rw [streamStage, enterStage_bind] at before
    exact .cut announce (streams_of_performs before)

/-- Every trace of an upgrade is one of these. -/
theorem upgrades_of_performs {image : Bytes} {fuel : Nat} {saved : Settings}
    {events : History boardCalls}
    {outcome : Outcome (Except BoardError FwUpgradeResult × Settings)}
    (performs : Performs (firmwareUpgrade fuel image saved) events outcome) :
    Upgrades fuel image saved events outcome := by
  rw [firmwareUpgrade, Method.bind_apply, Method.read_apply, Program.pure_bind,
    Method.resume_ok] at performs
  rcases performs.method_cases with ⟨_, after, first, rest, rfl, before, later⟩ |
    ⟨error, after, rfl, before⟩ | ⟨message, rfl, before⟩ | ⟨rfl, before⟩
  · obtain ⟨_, _, same, announce⟩ := announceTrace_of_performs before
    cases same
    obtain rfl := announce.after_ok
    exact upgrades_announced announce later
  · obtain ⟨_, _, same, announce⟩ := announceTrace_of_performs before
    cases same
    exact .unannounced announce
  · obtain ⟨_, _, same, _⟩ := announceTrace_of_performs before
    cases same
  · obtain ⟨_, _, same, _⟩ := announceTrace_of_performs before
    cases same

end RbctlDsl.Dsl
