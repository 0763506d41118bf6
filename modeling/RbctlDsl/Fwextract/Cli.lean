import RbctlDsl.Fwextract.CbcDecrypt
import RbctlDsl.Fwextract.CommandLine
import RbctlDsl.Lib.Interp

/-!
# The program

`main` of `fwextract`, from the words of the command line to the exit code, with the decryption in
front of the split phase.  What is printed is left out, but for the version of the remote image.
-/

namespace RbctlDsl.Fwextract

open RbctlDsl.Lib

inductive CliOp where
  | readFile (path : String)
  | onFw (op : FwOp)
  deriving DecidableEq

abbrev cliCalls : Signature where
  Op := CliOp
  Answer
    | .readFile _ => Except String Bytes
    | .onFw op => fwCalls.Answer op

/-- An early return is an error with the exit code. -/
abbrev Cli (α : Type) := Method cliCalls Unit Nat α

abbrev onCli (op : cliCalls.Op) : Cli (cliCalls.Answer op) := Method.perform op

/-- An error is printed, and the exit code is 1. -/
def orExit {ε α : Type} : Except ε α → Cli α
  | .ok value => pure value
  | .error _ => Method.fail 1

def readFile (path : String) : Cli Bytes := do
  orExit (← onCli (.readFile path))

def onDisk : Handler fwCalls cliCalls Unit Nat := fun op => onCli (.onFw op)

/-- The split phase, which ends the program. -/
def finish (program : Program fwCalls (Except Nat Nat × Unit)) : Cli Nat := do
  let (result, _) ← program.interp onDisk
  Method.ofExcept result

section Main

variable (sha : Sha256) (cipher : BlockCipher)

/-- The buffer with its encrypted part decrypted in place. -/
def decryptFile (keyPath : String) (data : Bytes) (tagLen : Nat) (signature : Bytes) :
    Cli Bytes := do
  let keyBlob ← readFile keyPath
  let rsaKey ← orExit (← Method.orPanic "index out of bounds" (parseRsaPubkeyBlob keyBlob))
  if signature.isEmpty then
    Method.fail 1
  else do
    let (aesKey, aesIv) ←
      orExit (← Method.orPanic "capacity overflow" (extractAesKey sha signature rsaKey))
    let key ← Method.orPanic "source slice length does not match" (Block.ofBytes? aesKey)
    let iv ← Method.orPanic "source slice length does not match" (Block.ofBytes? aesIv)
    Method.orPanic "range end index out of range" (decryptImage cipher tagLen data key iv)

/-- The buffer that is split: the file, or what the decryption makes of it. -/
def decryptIfAsked (options : Options) (file : Bytes) (tagLen : Nat) (signature : Bytes) :
    Cli Bytes :=
  if decrypts : options.decrypt = true then
    decryptFile sha cipher (options.rsaKey.get (options.keyed decrypts)) file tagLen signature
  else
    pure file

def main (options : Options) : Cli Nat := do
  let file ← readFile options.fwPath
  let tag ← orExit (TagHeader.parse file)
  let (tagLen, signature) ← Method.orPanic "index out of bounds" (parseChunks file)
  if tag.totalImageLen.toNat + tagLen > file.length then
    Method.fail 1
  else do
    let data ← decryptIfAsked sha cipher options file tagLen signature
    finish (split options.toArgs tagLen tag.totalImageLen.toNat data ())

/-- The program, from the words behind its name on. -/
def cli (withDecrypt : Bool) (words : List String) : Cli Nat :=
  match parseArgs withDecrypt words with
  | .ok options => main sha cipher options
  | .error refusal => Method.fail refusal.code

end Main

/-! ## Runs -/

/-- The files that have been written, with their contents. -/
def diskWrites (events : History cliCalls) : List (OutFile × Bytes) :=
  events.filterMap fun event => match event.op with
    | .onFw (.writeFile file contents) => some (file, contents)
    | _ => none

/-- A run unpacks two images: it stays in bounds, and what is written are these images, all that
the options ask for if the run succeeds. -/
structure Unpacks (args : Args) (hostPart remotePart : Bytes)
    (run : Run cliCalls (Except Nat Nat × Unit)) : Prop where
  inBounds : ∀ message, run.outcome ≠ .panicked message
  images : ∀ file contents, (file, contents) ∈ diskWrites run.events →
    contents = if file.isHost then hostPart else remotePart
  complete : run.outcome = .returned (.ok 0, ()) → diskWrites run.events =
    (filesOf args).map fun file => (file, if file.isHost then hostPart else remotePart)

/-- Files that can be read. -/
def Reads (oracle : Oracle cliCalls) (path : String) (contents : Bytes) : Prop :=
  ∀ history, oracle history (.readFile path) = .ok contents

/-- Every file can be written. -/
def Writes (oracle : Oracle cliCalls) : Prop :=
  ∀ history file contents, oracle history (.onFw (.writeFile file contents)) = .ok ()

/-! ## The split phase in a run -/

section Finish

variable {oracle : Oracle cliCalls} {before : History cliCalls}

def onFwEvent (event : Event fwCalls) : Event cliCalls := ⟨.onFw event.op, event.answer⟩

/-- What the split phase is answered behind some events. -/
def answersAfter (oracle : Oracle cliCalls) (before : History cliCalls) : Oracle fwCalls :=
  fun history op => oracle (before ++ history.map onFwEvent) (.onFw op)

theorem diskWrites_onFwEvent (events : History fwCalls) :
    diskWrites (events.map onFwEvent) = writtenFiles events := by
  rw [diskWrites, writtenFiles, List.filterMap_map]
  refine List.filterMap_congr fun event _ => ?_
  obtain ⟨op, answer⟩ := event
  cases op <;> rfl

/-- The split phase runs as it does on its own. -/
theorem exec_finish (program : Program fwCalls (Except Nat Nat × Unit)) (asked : History fwCalls) :
    (finish program ()).exec oracle (before ++ asked.map onFwEvent) =
      ⟨(program.exec (answersAfter oracle before) asked).events.map onFwEvent,
        (program.exec (answersAfter oracle before) asked).outcome⟩ := by
  induction program generalizing asked with
  | pure value =>
      obtain ⟨result, _⟩ := value
      cases result <;> rfl
  | perform op next ih =>
      have rest := ih (answersAfter oracle before asked op)
        (asked ++ [⟨op, answersAfter oracle before asked op⟩])
      rw [List.map_append, ← List.append_assoc] at rest
      have first : (finish (.perform op next) ()).exec oracle (before ++ asked.map onFwEvent) =
          ⟨⟨.onFw op, answersAfter oracle before asked op⟩ ::
            ((finish (next (answersAfter oracle before asked op)) ()).exec oracle
              (before ++ asked.map onFwEvent ++
                [onFwEvent ⟨op, answersAfter oracle before asked op⟩])).events,
            ((finish (next (answersAfter oracle before asked op)) ()).exec oracle
              (before ++ asked.map onFwEvent ++
                [onFwEvent ⟨op, answersAfter oracle before asked op⟩])).outcome⟩ := rfl
      rw [first]
      rw [List.map_singleton] at rest
      rw [rest]
      rfl
  | panic message => rfl
  | spin => rfl

end Finish

section Steps

variable {α β ε : Type}

theorem orPanic_some_bind (message : String) (value : α) (next : α → Cli β) :
    (Method.orPanic message (some value) >>= next) = next value := rfl

theorem orExit_ok_bind (value : α) (next : α → Cli β) :
    (orExit (.ok value : Except ε α) >>= next) = next value := rfl

theorem exec_readFile {oracle : Oracle cliCalls} {path : String} {contents : Bytes}
    (reads : Reads oracle path contents) (history : History cliCalls) :
    (readFile path ()).exec oracle history =
      ⟨[⟨.readFile path, .ok contents⟩], .returned (.ok contents, ())⟩ := by
  rw [readFile, Method.exec_perform_bind _ (reads history)]
  rfl

end Steps

/-! ## The split phase where nothing fails -/

section Succeeds

variable {oracle : Oracle fwCalls} {args : Args} {tagLen hostLen : Nat} {data : Bytes}

theorem returns_writeFile {file : OutFile} {contents : Bytes}
    (writes : ∀ history, oracle history (.writeFile file contents) = .ok ()) :
    Method.Returns oracle (writeFile file contents) () := by
  intro history
  refine ⟨(), (), ?_⟩
  rw [writeFile, Method.exec_perform_bind _ (writes history)]
  rfl

theorem returns_showVersion {remoteData : Bytes} (terminated : ¬ UnterminatedVersion remoteData) :
    Method.Returns oracle (showVersion remoteData) () := by
  intro history
  rw [showVersion]
  split
  · next header =>
      have inside : verEnd remoteData ≤ remoteData.length :=
        (verEnd_le_iff header.1).mpr fun ends => terminated ⟨header.2, header.1, ends⟩
      rw [part, slice?_eq_some (le_verEnd _) inside]
      exact ⟨(), (), rfl⟩
  · exact ⟨(), (), rfl⟩

theorem returns_part {file : OutFile} (inOrder : tagLen + hostLen ≤ data.length)
    (isHost : file.isHost = true) :
    Method.Returns oracle (part data tagLen (tagLen + hostLen)) () := by
  rw [part_host inOrder isHost]
  exact fun _ => ⟨_, (), rfl⟩

variable (writes : ∀ history file contents, oracle history (.writeFile file contents) = .ok ())

include writes

theorem returns_writeOutput (inOrder : tagLen + hostLen ≤ data.length) (remoteData : Bytes) :
    Method.Returns oracle (writeOutput args tagLen hostLen data remoteData) () := by
  have each (file : OutFile) (contents : Bytes) :
      Method.Returns oracle (writeFile file contents) () :=
    returns_writeFile fun history => writes history file contents
  rw [writeOutput]
  cases args.splitDir with
  | some dir =>
      have create : Method.Returns oracle (onFw (.createDirAll dir)) () := fun _ => ⟨(), (), rfl⟩
      have host : (OutFile.hostKernel dir).isHost = true := rfl
      refine Method.returns_bind create fun _ _ => ?_
      refine Method.returns_bind (returns_part inOrder host) fun _ _ => ?_
      exact Method.returns_bind (each _ _) fun _ _ => each _ _
  | none =>
      refine Method.returns_bind (each _ _) fun _ _ => ?_
      cases args.extractAll with
      | true =>
          have host : (OutFile.mainBeside args.fwPath).isHost = true := rfl
          exact Method.returns_bind (returns_part inOrder host) fun _ _ => each _ _
      | false => exact fun _ => ⟨(), (), rfl⟩

/-- Where every file can be written, the exit code is 0. -/
theorem outcome_split (inOrder : tagLen + hostLen ≤ data.length)
    (terminated : ¬ UnterminatedVersion (data.drop (tagLen + hostLen))) :
    ((split args tagLen hostLen data ()).exec oracle []).outcome = .returned (.ok 0, ()) := by
  have ends {α : Type} {method : Extract α} (returns : Method.Returns oracle method ())
      {next : α → Extract Nat} (rest : ∀ value history,
        ((next value ()).exec oracle history).outcome = .returned (.ok 0, ()))
      (history : History fwCalls) :
      (((method >>= next) ()).exec oracle history).outcome = .returned (.ok 0, ()) := by
    obtain ⟨value, _, returned⟩ := returns history
    rw [Method.bind_apply, Program.exec_bind, returned]
    exact rest value _
  rw [split, if_pos inOrder]
  change (((if data.length - (tagLen + hostLen) = 0 then _ else _ : Extract Nat) ()).exec
    oracle []).outcome = _
  split
  · rfl
  · rw [part_remote inOrder]
    refine ends (returns_showVersion terminated) (fun _ history => ?_) []
    exact ends (returns_writeOutput writes inOrder _) (fun _ _ => rfl) history

end Succeeds

end RbctlDsl.Fwextract
