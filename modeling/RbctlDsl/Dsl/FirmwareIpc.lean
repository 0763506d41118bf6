import RbctlDsl.Dsl.BoardWorker
import RbctlDsl.Lib.Phases

/-!
# Firmware clients

`handle_firmware_ipc` of `daemon.rs`: the thread that serves one `FIRMWARE` request.  It looks
at the shared upgrade status, reads and checks the image, answers `OK`, sends the image to the
worker, and passes the worker's events on to the client.
-/

namespace RbctlDsl.Dsl

open RbctlDsl.Lib RbctlDsl.Proto

/-! ## What a client reads -/

/-- `{:08X}`. -/
def hex08 (word : UInt32) : String :=
  String.ofList (((Nat.toDigits 16 word.toNat).map Char.toUpper).leftpad 8 '0')

/-- The replies of the handler. -/
inductive IpcReply where
  | ok
  | image (version : String) (size : Nat)
  | progress (update : FwProgress)
  | done (result : FwUpgradeResult)
  | err (message : String)
  deriving DecidableEq

def IpcReply.text : IpcReply → String
  | .ok => "OK\n"
  | .image version size => "IMAGE version=" ++ s!"{version} size={size}\n"
  | .progress update =>
    "PROGRESS stage=" ++
      (if update.pct > 0 then s!"{update.stage} pct={update.pct}\n" else s!"{update.stage}\n")
  | .done result => "DONE version=0x" ++ s!"{hex08 result.version} status={result.status}\n.\n"
  | .err message => "ERR: " ++ s!"{message}\n.\n"

/-! The text of each reply, so that no proof goes through the equations of `text`. -/

section Text

theorem IpcReply.text_image (version : String) (size : Nat) :
    (IpcReply.image version size).text =
      "IMAGE version=" ++ (version ++ " size=" ++ toString size ++ "\n") := rfl

theorem IpcReply.text_progress (update : FwProgress) :
    (IpcReply.progress update).text =
      "PROGRESS stage=" ++ (if update.pct > 0 then s!"{update.stage} pct={update.pct}\n"
        else s!"{update.stage}\n") := rfl

theorem IpcReply.text_done (result : FwUpgradeResult) :
    (IpcReply.done result).text =
      "DONE version=0x" ++ s!"{hex08 result.version} status={result.status}\n.\n" := rfl

theorem IpcReply.text_err (message : String) :
    (IpcReply.err message).text = "ERR: " ++ (message ++ "\n.\n") := rfl

end Text

/-- A text that begins with a given character. -/
def StartsWith (first : Char) (text : String) : Prop := text.toList.head? = some first

theorem StartsWith.append {first : Char} {text : String} (starts : StartsWith first text)
    (rest : String) : StartsWith first (text ++ rest) := by
  rw [StartsWith, String.toList_append, List.head?_append, starts]
  rfl

/-- The first letter of a reply. -/
def IpcReply.letter : IpcReply → Char
  | .ok => 'O'
  | .image .. => 'I'
  | .progress _ => 'P'
  | .done _ => 'D'
  | .err _ => 'E'

theorem IpcReply.startsWith_text (reply : IpcReply) : StartsWith reply.letter reply.text := by
  cases reply with
  | ok => exact rfl
  | image version size =>
      have starts : StartsWith 'I' "IMAGE version=" := rfl
      exact starts.append _
  | progress update =>
      have starts : StartsWith 'P' "PROGRESS stage=" := rfl
      exact starts.append _
  | done result =>
      have starts : StartsWith 'D' "DONE version=0x" := rfl
      exact starts.append _
  | err message =>
      have starts : StartsWith 'E' "ERR: " := rfl
      exact starts.append _

/-- No other reply reads like the acknowledgment. -/
theorem IpcReply.text_eq_ok_iff (reply : IpcReply) : reply.text = "OK\n" ↔ reply = .ok := by
  constructor
  · intro same
    have starts := reply.startsWith_text
    rw [same] at starts
    have letter : 'O' = reply.letter := Option.some.inj starts
    cases reply with
    | ok => rfl
    | image version size => exact absurd letter (by decide : 'O' ≠ 'I')
    | progress update => exact absurd letter (by decide : 'O' ≠ 'P')
    | done result => exact absurd letter (by decide : 'O' ≠ 'D')
    | err message => exact absurd letter (by decide : 'O' ≠ 'E')
  · rintro rfl
    rfl

/-! ## The handler -/

inductive IpcOp where
  | fwStatus
  | readFile (path : String)
  | write (text : String)
  | flush
  | sendCmd (cmd : WorkerCmd)
  | setWriteTimeout (secs : Nat)
  | recv
  deriving DecidableEq

/-- A write and a send tell whether they have succeeded.  A receive ends with nothing when the
worker has dropped its end of the channel. -/
abbrev ipcCalls : Signature where
  Op := IpcOp
  Answer
    | .fwStatus => FwStatus
    | .readFile _ => Except String Bytes
    | .write _ | .sendCmd _ => Bool
    | .recv => Option FwEvent
    | _ => Unit

/-- The handler has no state of its own.  An early return is an error. -/
abbrev IpcHandler (α : Type) := Method ipcCalls Unit Unit α

/-- The states of an upgrade in which the next one may begin. -/
def FwStatus.allowsUpgrade : FwStatus → Bool
  | .idle | .done | .failed _ => true
  | .upgrading | .upgradingProgress .. => false

namespace IpcHandler

abbrev onIpc (op : ipcCalls.Op) : IpcHandler (ipcCalls.Answer op) := Method.perform op

def write (reply : IpcReply) : IpcHandler Bool := onIpc (.write reply.text)

def refuse {α : Type} (message : String) : IpcHandler α := do
  let _ ← write (.err message)
  Method.fail ()

/-- Check if an upgrade is already running. -/
def checkStatus : IpcHandler Unit := do
  if (← onIpc .fwStatus).allowsUpgrade then pure ()
  else refuse "upgrade already in progress"

/-- Read and validate the file. -/
def readImage (path : String) : IpcHandler Bytes := do
  match ← onIpc (.readFile path) with
  | .error e => refuse s!"cannot read {path}: {e}"
  | .ok image =>
    match validateImage image with
    | .error e => refuse e
    | .ok _ => pure image

/-- Send acknowledgment. -/
def acknowledge (image : Bytes) : IpcHandler Unit := do
  let _ ← write .ok
  match (parseHeader image).toOption with
  | some hdr => do
    let _ ← write (.image (versionStr hdr) image.length)
    onIpc .flush
  | none => onIpc .flush

/-- Send to worker. -/
def submit (image : Bytes) (stream : Nat) : IpcHandler Unit := do
  if ← onIpc (.sendCmd (.firmwareUpgrade image stream)) then onIpc (.setWriteTimeout 10)
  else refuse "worker thread unavailable"

/-- Pass one event on to the client. -/
def relayPass (_ : Unit) : IpcHandler (Unit ⊕ Unit) := do
  match ← onIpc .recv with
  | none => pure (.inr ())
  | some (.progress update) => do
    if ← write (.progress update) then do
      onIpc .flush
      pure (.inl ())
    else
      pure (.inr ())
  | some (.done (.ok result)) => do
    let _ ← write (.done result)
    pure (.inr ())
  | some (.done (.error message)) => do
    let _ ← write (.err message)
    pure (.inr ())

end IpcHandler

open IpcHandler in
/-- Serve a `FIRMWARE` request.  The reply channel has the number of the client's stream. -/
def handleFirmwareIpc (fuel : Nat) (path : String) (stream : Nat) : IpcHandler Unit := do
  checkStatus
  let image ← readImage path
  acknowledge image
  submit image stream
  Method.iterate relayPass fuel ()

/-- The calls of a handler up to its first answer, if it finds the slot open and a valid image. -/
theorem handleFirmwareIpc_valid {image : Bytes} {hdr : FwHeader} (fuel : Nat) (path : String)
    (stream : Nat) (valid : validateImage image = .ok hdr) :
    ∃ checked read written, handleFirmwareIpc fuel path stream () = .perform .fwStatus checked ∧
      checked .idle = .perform (.readFile path) read ∧
      read (.ok image) = .perform (.write "OK\n") written := by
  obtain ⟨written, answers⟩ : ∃ written : Bool → Program ipcCalls (Except Unit Unit × Unit),
      (((match validateImage image with
        | .error e => (IpcHandler.refuse e : IpcHandler Bytes)
        | .ok _ => pure image) >>= fun image => IpcHandler.acknowledge image >>= fun _ =>
          IpcHandler.submit image stream >>= fun _ =>
            Method.iterate IpcHandler.relayPass fuel ()) : IpcHandler Unit) () =
        .perform (.write "OK\n") written := by
    rw [valid]
    exact ⟨_, rfl⟩
  exact ⟨_, _, written, rfl, rfl, answers⟩

/-! ## The protocol of a client -/

/-- How far the request of a client has come: not checked, past the check of the status,
answered `OK`, sent to the worker, or dropped. -/
inductive ClientPhase where
  | fresh | checked | accepted | sent | dropped
  deriving DecidableEq, Repr

namespace ClientPhase

def after : ClientPhase → Event ipcCalls → ClientPhase
  | .fresh, ⟨.fwStatus, status⟩ => if status.allowsUpgrade then .checked else .dropped
  | .checked, ⟨.readFile _, .error _⟩ => .dropped
  | .checked, ⟨.readFile _, .ok image⟩ =>
    match validateImage image with
    | .ok _ => .checked
    | .error _ => .dropped
  | .checked, ⟨.write _, _⟩ => .accepted
  | .accepted, ⟨.sendCmd _, taken⟩ => if taken then .sent else .dropped
  | phase, _ => phase

/-- One check, one file, one `OK`, and one command, in this order. -/
def Permits (stream : Nat) (phase : ClientPhase) : IpcOp → Prop
  | .fwStatus => phase = .fresh
  | .readFile _ => phase = .checked
  | .write text => text = "OK\n" ↔ phase = .checked
  | .sendCmd cmd => phase = .accepted ∧ ∃ image, cmd = .firmwareUpgrade image stream
  | _ => True

end ClientPhase

def clientProtocol (stream : Nat) : Protocol ipcCalls ClientPhase where
  initial := .fresh
  after := ClientPhase.after
  permits := ClientPhase.Permits stream

open Protocol IpcHandler

section Follows

variable {α : Type} {stream : Nat} {phase target : ClientPhase}

theorem leads_write {reply : IpcReply} (other : reply ≠ .ok) (past : phase ≠ .checked) :
    (clientProtocol stream).Leads (write reply) phase phase := by
  refine leads_perform (iff_of_false (fun isOk => other (reply.text_eq_ok_iff.mp isOk)) past) ?_
  intro answer
  cases phase with
  | checked => exact absurd rfl past
  | fresh | accepted | sent | dropped => rfl

/-- A refusal writes an error and returns. -/
theorem leads_refuse (message : String) (past : phase ≠ .checked) :
    (clientProtocol stream).Leads (refuse message : IpcHandler α) phase target := by
  have written : (clientProtocol stream).Leads (write (.err message)) phase phase :=
    leads_write (fun equal => by cases equal) past
  exact leads_bind written fun _ => leads_fail ()

theorem leads_checkStatus : (clientProtocol stream).Leads checkStatus .fresh .checked := by
  refine leads_perform_bind rfl fun status => ?_
  have reached : (clientProtocol stream).after .fresh ⟨.fwStatus, status⟩ =
      if status.allowsUpgrade then .checked else .dropped := rfl
  rw [reached]
  cases status.allowsUpgrade with
  | true => exact leads_pure ()
  | false => exact leads_refuse _ fun equal => by cases equal

theorem leads_readImage (path : String) :
    (clientProtocol stream).Leads (readImage path) .checked .checked := by
  refine leads_perform_bind rfl fun contents => ?_
  cases contents with
  | error error => exact leads_refuse _ fun equal => by cases equal
  | ok image =>
      have reached : (clientProtocol stream).after .checked ⟨.readFile path, .ok image⟩ =
          match validateImage image with
          | .ok _ => .checked
          | .error _ => .dropped := rfl
      rw [reached]
      dsimp only
      cases validateImage image with
      | ok hdr => exact leads_pure image
      | error message => exact leads_refuse _ fun equal => by cases equal

theorem leads_acknowledge (image : Bytes) :
    (clientProtocol stream).Leads (acknowledge image) .checked .accepted := by
  have answered : (clientProtocol stream).Leads (write .ok) .checked .accepted :=
    leads_perform (iff_of_true rfl rfl) fun _ => rfl
  have flushed : (clientProtocol stream).Leads (onIpc .flush) .accepted .accepted :=
    leads_perform trivial fun _ => rfl
  refine leads_bind answered fun _ => ?_
  cases (parseHeader image).toOption with
  | none => exact flushed
  | some hdr =>
      have told : (clientProtocol stream).Leads (write (.image (versionStr hdr) image.length))
          .accepted .accepted := leads_write (fun equal => by cases equal) (by decide)
      exact leads_bind told fun _ => flushed

theorem leads_submit (image : Bytes) :
    (clientProtocol stream).Leads (submit image stream) .accepted .sent := by
  refine leads_perform_bind ⟨rfl, image, rfl⟩ fun taken => ?_
  cases taken with
  | true => exact leads_perform trivial fun _ => rfl
  | false => exact leads_refuse _ fun equal => by cases equal

theorem leads_relayPass (locals : Unit) :
    (clientProtocol stream).Leads (relayPass locals) .sent .sent := by
  have flushed : (clientProtocol stream).Leads (onIpc .flush) .sent .sent :=
    leads_perform trivial fun _ => rfl
  have told (reply : IpcReply) (other : reply ≠ .ok) :
      (clientProtocol stream).Leads (write reply) .sent .sent := leads_write other (by decide)
  refine leads_perform_bind trivial fun event => ?_
  match event with
  | none => exact leads_pure _
  | some (.progress update) =>
      refine leads_bind (told _ (fun equal => by cases equal)) fun written => ?_
      cases written with
      | true => exact leads_bind flushed fun _ => leads_pure _
      | false => exact leads_pure _
  | some (.done (.ok result)) =>
      exact leads_bind (told _ (fun equal => by cases equal)) fun _ => leads_pure _
  | some (.done (.error message)) =>
      exact leads_bind (told _ (fun equal => by cases equal)) fun _ => leads_pure _

/-- The handler of a client follows its protocol. -/
theorem leads_handleFirmwareIpc (fuel : Nat) (path : String) (stream : Nat) :
    (clientProtocol stream).Leads (handleFirmwareIpc fuel path stream) .fresh .sent := by
  refine leads_bind leads_checkStatus fun _ => ?_
  refine leads_bind (leads_readImage path) fun image => ?_
  refine leads_bind (leads_acknowledge image) fun _ => ?_
  refine leads_bind (leads_submit image) fun _ => ?_
  exact leads_iterate (fun locals _ => passEnds_of_leads (leads_relayPass locals)) fuel ()

end Follows

end RbctlDsl.Dsl
