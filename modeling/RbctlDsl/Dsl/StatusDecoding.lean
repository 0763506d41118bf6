import RbctlDsl.Dsl.FrameCapacity

/-!
# Status replies

The status-only commands against the 4-byte status word that the board answers them with.
A line command looks at one byte of the word, and a link command at none.
-/

namespace RbctlDsl.Dsl

open RbctlDsl.Lib RbctlDsl.Proto

/-- The commands that the board answers with a status word. -/
inductive StatusCommand where
  | lineConfigUp (modulation : Modulation) (annex : Annex) (profiles : Vdsl2Profiles)
      (bitswap sra : Bool)
  | lineConfigDown
  | atmLinkAdd (params : AtmLinkParams)
  | atmLinkDel (vlanId : UInt16)
  | ptmLinkAdd (tagEnable : UInt8) (tagVid tagPri vlanId : UInt16)
  | ptmLinkDel (vlanId : UInt16)

namespace StatusCommand

def call : StatusCommand → TypedCall
  | .lineConfigUp modulation annex profiles bitswap sra =>
      .lineConfigUp modulation annex profiles bitswap sra
  | .lineConfigDown => .lineConfigDown
  | .atmLinkAdd params => .atmLinkAdd params
  | .atmLinkDel vlanId => .atmLinkDel vlanId
  | .ptmLinkAdd tagEnable tagVid tagPri vlanId => .ptmLinkAdd tagEnable tagVid tagPri vlanId
  | .ptmLinkDel vlanId => .ptmLinkDel vlanId

/-- The opcode of a line command; a link command has none here. -/
def lineOpcode? : StatusCommand → Option UInt8
  | .lineConfigUp .. => some 1
  | .lineConfigDown => some 3
  | _ => none

end StatusCommand

/-- A board that answers every request with one reply. -/
def replying (reply : Bytes) : Oracle boardCalls
  | _, .request .. => .ok reply
  | _, .progress _ => ()

def ReturnsOk (run : Run boardCalls (Except BoardError Unit × Settings)) : Prop :=
  ∃ after, run.outcome = .returned (.ok (), after)

/-- The byte of a status word that a line command looks at: the first one, or the second one
where the first equals the opcode and passes for its echo. -/
def inspectedByte (opcode : UInt8) (status : UInt32) : UInt8 :=
  if UInt8.ofNat (status.toNat / 16777216) = opcode then
    UInt8.ofNat (status.toNat / 65536)
  else
    UInt8.ofNat (status.toNat / 16777216)

/-- The status of this command is a byte of the word that is not zero. -/
def SeesFailure (command : StatusCommand) (status : UInt32) : Prop :=
  ∃ opcode, command.lineOpcode? = some opcode ∧ inspectedByte opcode status ≠ 0

theorem inspectedByte_zero {opcode : UInt8} (positive : opcode ≠ 0) :
    inspectedByte opcode 0 = 0 := by
  rw [inspectedByte, if_neg]
  · rfl
  · exact fun equal => positive equal.symm

/-- A line command accepts a status word exactly if the byte it looks at is zero. -/
theorem lineStatusByte_isOk_iff (opcode : UInt8) (status : UInt32) :
    lineStatusByte (stripEcho (beBytes32 status) opcode) = .ok () ↔
      inspectedByte opcode status = 0 := by
  have decided (byte : UInt8) (rest : Bytes) :
      lineStatusByte (byte :: rest) = .ok () ↔ byte = 0 := by
    by_cases zero : byte = 0 <;> simp [lineStatusByte, zero]
  rw [stripEcho, inspectedByte, beBytes32]
  by_cases echoed : UInt8.ofNat (status.toNat / 16777216) = opcode
  · rw [if_pos (by rw [echoed]; rfl), if_pos echoed]
    exact decided _ _
  · rw [if_neg (by simpa using echoed), if_neg echoed]
    exact decided _ _

/-- An exchange with such a board returns what it decodes from the reply. -/
theorem exec_exchange {α : Type} (opcode : UInt8) (payload reply : Bytes)
    (decode : Bytes → Except BoardError α) (settings : Settings) (history : History boardCalls) :
    ((exchange opcode payload decode settings).exec (replying reply) history).outcome =
      .returned (decode (stripEcho reply opcode), settings) := by
  rw [exchange_apply, Program.exec_perform]
  rfl

theorem returnsOk_exchange {opcode : UInt8} {payload reply : Bytes}
    {decode : Bytes → Except BoardError Unit} {settings : Settings} :
    ReturnsOk ((exchange opcode payload decode settings).exec (replying reply) []) ↔
      decode (stripEcho reply opcode) = .ok () := by
  rw [ReturnsOk, exec_exchange]
  constructor
  · rintro ⟨after, equal⟩
    exact (Prod.mk.inj (Outcome.returned.inj equal)).1
  · intro accepted
    exact ⟨settings, by rw [accepted]⟩

theorem returnsOk_discardResult {α : Type} {opcode : UInt8} {payload reply : Bytes}
    {decode : Bytes → α} {settings : Settings} :
    ReturnsOk ((discardResult (exchange opcode payload fun data => .ok (decode data))
      settings).exec (replying reply) []) := by
  rw [ReturnsOk, discardResult, Method.bind_apply, Program.exec_bind, exec_exchange]
  exact ⟨settings, rfl⟩

/-- A line command returns `Ok` exactly if the byte it looks at is zero, and a link command
always does. -/
theorem returnsOk_iff (command : StatusCommand) (fuel : Nat) (settings : Settings)
    (status : UInt32) :
    ReturnsOk ((command.call.run fuel settings).exec (replying (beBytes32 status)) []) ↔
      ¬ SeesFailure command status := by
  have line {opcode : UInt8} (isLine : command.lineOpcode? = some opcode) :
      inspectedByte opcode status = 0 ↔ ¬ SeesFailure command status := by
    simp [SeesFailure, isLine]
  have link (isLink : command.lineOpcode? = none) : ¬ SeesFailure command status := by
    simp [SeesFailure, isLink]
  cases command with
  | lineConfigUp | lineConfigDown =>
      exact returnsOk_exchange.trans ((lineStatusByte_isOk_iff _ status).trans (line rfl))
  | atmLinkAdd | ptmLinkAdd => exact iff_of_true returnsOk_discardResult (link rfl)
  | atmLinkDel vlanId =>
      have deleted : ReturnsOk ((atmLinkDel vlanId settings).exec
          (replying (beBytes32 status)) []) := returnsOk_exchange.mpr rfl
      exact iff_of_true deleted (link rfl)
  | ptmLinkDel vlanId =>
      have deleted : ReturnsOk ((ptmLinkDel vlanId settings).exec
          (replying (beBytes32 status)) []) := returnsOk_exchange.mpr rfl
      exact iff_of_true deleted (link rfl)

/-- A status command decodes its status word right in two cases only: the word is zero, or
the command is a line command and the byte it looks at is not. -/
theorem returnsOk_iff_zero_iff (command : StatusCommand) (fuel : Nat) (settings : Settings)
    (status : UInt32) :
    (ReturnsOk ((command.call.run fuel settings).exec (replying (beBytes32 status)) []) ↔
        status = 0) ↔
      status = 0 ∨ SeesFailure command status := by
  rw [returnsOk_iff]
  by_cases zero : status = 0
  · have unseen : ¬ SeesFailure command status := by
      rintro ⟨opcode, isLine, differs⟩
      subst zero
      refine differs (inspectedByte_zero ?_)
      rintro rfl
      cases command <;> simp [StatusCommand.lineOpcode?] at isLine
    simp [zero, zero ▸ unseen]
  · simp [zero]

/-- Status 5 in the last byte, as a big-endian word carries it, passes for success. -/
theorem lineConfigUp_accepts_status_five :
    ¬ ∀ (command : StatusCommand) (fuel : Nat) (settings : Settings) (status : UInt32),
      ReturnsOk ((command.call.run fuel settings).exec (replying (beBytes32 status)) []) ↔
        status = 0 := by
  intro claim
  have accepted := (claim (.lineConfigUp .vdsl2 .b .none true true) 0
    ⟨defaultTimeout, defaultRetries⟩ 5).mp ⟨⟨defaultTimeout, defaultRetries⟩, rfl⟩
  exact absurd accepted (by decide)

end RbctlDsl.Dsl
