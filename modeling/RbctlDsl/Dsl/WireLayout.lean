import RbctlDsl.Dsl.FrameCapacity
import RbctlDsl.Proto.Descriptor

/-!
# Command wire layout

What a board-side decoder recovers from the frames of the commands that carry a descriptor,
from the typed method down to the bytes handed to the transport.
-/

namespace RbctlDsl.Dsl

open RbctlDsl.Lib RbctlDsl.Proto Board

/-- The typed method of a command. -/
def methodOf : ConfigCommand → TypedCall
  | .lineConfigUp modulation annex profiles bitswap sra =>
      .lineConfigUp modulation annex profiles bitswap sra
  | .atmLinkAdd params => .atmLinkAdd params
  | .atmLinkDel vlanId => .atmLinkDel vlanId
  | .ptmLinkAdd tagEnable tagVid tagPri vlanId => .ptmLinkAdd tagEnable tagVid tagPri vlanId
  | .ptmLinkDel vlanId => .ptmLinkDel vlanId

/-- The events on the transport of one command. -/
def commandEvents (fuel : Nat) (oracle : Oracle transport) (settings : Settings)
    (board : Board) (command : ConfigCommand) : History transport :=
  ((((methodOf command).run fuel settings).interp (onTransport fuel) board).exec oracle
    []).events

/-- Something was sent, and a decoder makes this command of everything that was. -/
structure Recovers (decode : Bytes → Option ConfigCommand) (command : ConfigCommand)
    (events : History transport) : Prop where
  sends : ∃ data answer, (⟨.send data, answer⟩ : Event transport) ∈ events
  decodes : ∀ data answer, (⟨.send data, answer⟩ : Event transport) ∈ events →
    decode data = some command

/-- The decoder of the documentation: the descriptor begins at frame offset `0x18`, and
`payload_len` is its length. -/
def documentedDecoder : Bytes → Option ConfigCommand := decodeCommand 0

/-- The decoder for what is sent: the opcode is at frame offset `0x18`, the descriptor
begins at `0x19`, and `payload_len` counts both. -/
def opcodeFirstDecoder : Bytes → Option ConfigCommand := decodeCommand 1

section Layout

variable {fuel : Nat} {oracle : Oracle transport} {settings : Settings} {board : Board}
  {command : ConfigCommand}

theorem discardResult_apply {α : Type} (opcode : UInt8) (payload : Bytes)
    (decode : Bytes → Except BoardError α) :
    discardResult (exchange opcode payload decode) settings =
      .perform (.request settings.retries opcode payload) fun reply =>
        .pure ((reply.bind fun r => decode (stripEcho r opcode)).map fun _ => (), settings) := by
  rw [discardResult, Method.bind_apply, exchange_apply, Program.perform_bind]
  congr
  funext reply
  rw [Program.pure_bind]
  cases reply.bind fun r => decode (stripEcho r opcode) <;> rfl

/-- Each command is one request, for its opcode followed by its descriptor. -/
theorem run_methodOf (command : ConfigCommand) (fuel : Nat) (settings : Settings) :
    ∃ finish : Except BoardError Bytes → Except BoardError Unit × Settings,
      (methodOf command).run fuel settings =
      .perform (.request settings.retries command.opcode
          (command.opcode :: command.descriptor)) fun reply =>
        .pure (finish reply) := by
  cases command with
  | lineConfigUp => exact ⟨_, exchange_apply _ _ _⟩
  | atmLinkDel | ptmLinkDel =>
      rw [methodOf, TypedCall.run]
      exact ⟨_, exchange_apply _ _ _⟩
  | atmLinkAdd | ptmLinkAdd => exact ⟨_, discardResult_apply _ _ _⟩

theorem length_descriptor (command : ConfigCommand) : command.descriptor.length ≤ 24 := by
  cases command <;> simp [ConfigCommand.descriptor]

theorem fitsTxBuf_command (command : ConfigCommand) :
    fitsTxBuf (command.opcode :: command.descriptor) := by
  apply fitsTxBuf_of_length_le
  rw [List.length_cons]
  exact Nat.le_trans (Nat.succ_le_succ (length_descriptor command)) (by decide)

/-- The events of a command are those of its call of `request`. -/
theorem commandEvents_eq : commandEvents fuel oracle settings board command =
    ((request fuel command.opcode (command.opcode :: command.descriptor)
      { board with retries := settings.retries }).exec oracle []).events := by
  obtain ⟨finish, single⟩ := run_methodOf command fuel settings
  rw [commandEvents, single, Program.interp_perform, onTransport, Method.bind_apply,
    setRetries, Method.update_apply, Program.pure_bind, Method.resume_ok, Method.attempt_apply]
  rw [Program.exec_bind_events, Program.exec_bind_events]
  · rintro ⟨result, after⟩
    exact ⟨_, rfl⟩
  · rintro ⟨answer, after⟩
    cases answer with
    | ok answer => exact ⟨_, rfl⟩
    | error never => exact never.elim

/-- What a command sends. -/
def sentFrame (board : Board) (command : ConfigCommand) : WireFrame :=
  transmitted command.opcode board.seq.next.last board.mac
    (command.opcode :: command.descriptor) (fitsTxBuf_command command)

/-- A decoder is right about a command exactly if it is right about its frame. -/
theorem recovers_iff {decode : Bytes → Option ConfigCommand} {expected : ConfigCommand} :
    Recovers decode expected (commandEvents fuel oracle settings board command) ↔
      decode (sentFrame board command).bytes = some expected := by
  rw [commandEvents_eq]
  obtain ⟨answer, sent⟩ := sends_transmitted fuel oracle (fitsTxBuf_command command)
  constructor
  · intro recovers
    exact recovers.decodes _ _ sent
  · intro decoded
    refine ⟨⟨_, _, sent⟩, fun data answer member => ?_⟩
    rw [eq_transmitted (fitsTxBuf_command command) member]
    exact decoded

/-- A decoder that expects the descriptor at `0x18` refuses every frame of every command. -/
theorem documentedDecoder_sentFrame :
    documentedDecoder (sentFrame board command).bytes = none := by
  have isSubtype : (sentFrame board command).subtype = command.opcode := rfl
  refine decodeCommand_eq_none isSubtype fun equal => ?_
  have longer : (sentFrame board command).payload.length = command.descriptor.length + 1 := rfl
  omega

/-- A decoder that expects the opcode at `0x18` and the descriptor behind it recovers the
parameters of every command, from every transmission. -/
theorem opcodeFirstDecoder_recovers (command : ConfigCommand) (fuel : Nat)
    (oracle : Oracle transport) (settings : Settings) (board : Board) :
    Recovers opcodeFirstDecoder command.canonical
      (commandEvents fuel oracle settings board command) :=
  recovers_iff.mpr (decodeCommand_bytes rfl rfl rfl rfl)

/-- The documented decoder recovers no command from any transmission: the opcode in front of the
descriptor is one byte too many, and without it every parameter would be recovered. -/
theorem documentedDecoder_never_recovers (command : ConfigCommand) (fuel : Nat)
    (oracle : Oracle transport) (settings : Settings) (board : Board) :
    ¬ Recovers documentedDecoder command.canonical
        (commandEvents fuel oracle settings board command) ∧
      Recovers opcodeFirstDecoder command.canonical
        (commandEvents fuel oracle settings board command) := by
  refine ⟨fun recovers => ?_, opcodeFirstDecoder_recovers command fuel oracle settings board⟩
  have recovered := recovers_iff.mp recovers
  rw [documentedDecoder_sentFrame] at recovered
  cases recovered

/-- The documented decoder makes nothing of the deletion of link 2001. -/
theorem not_documentedDecoder_recovers :
    ¬ ∀ (command : ConfigCommand) (fuel : Nat) (oracle : Oracle transport)
      (settings : Settings) (board : Board),
      Recovers documentedDecoder command.canonical
        (commandEvents fuel oracle settings board command) := by
  intro claim
  have recovered := recovers_iff.mp (claim (.atmLinkDel 2001) 0
    (fun _ op =>
      match op with
      | .send _ => .ok ()
      | .recvInto _ => .error .wouldBlock
      | .setTimeout _ => .ok ())
    ⟨defaultTimeout, defaultRetries⟩ (Board.new broadcastMac))
  rw [documentedDecoder_sentFrame] at recovered
  cases recovered

end Layout

end RbctlDsl.Dsl
