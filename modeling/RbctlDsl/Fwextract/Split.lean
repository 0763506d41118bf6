import RbctlDsl.Fwextract.Container
import RbctlDsl.Lib.Method
import RbctlDsl.Proto.Firmware

/-!
# Splitting a container

The split phase of `fwextract`: the host image and the remote image behind it.  The buffer that
is split is the file, or what the decryption has made of it in place.  The display of the header
and of the layout is left out, but for the version of the remote image.
-/

namespace RbctlDsl.Fwextract

open RbctlDsl.Lib RbctlDsl.Proto

/-- The output options. -/
structure Args where
  fwPath : String
  output : Option String
  extractAll : Bool
  splitDir : Option String
  deriving DecidableEq

/-- The files that are written: two in a directory, a given one, or two beside the container. -/
inductive OutFile where
  | hostKernel (dir : String)
  | remoteBoard (dir : String)
  | given (path : String)
  | remoteBeside (fwPath : String)
  | mainBeside (fwPath : String)
  deriving DecidableEq

def OutFile.isHost : OutFile → Bool
  | .hostKernel _ | .mainBeside _ => true
  | .remoteBoard _ | .given _ | .remoteBeside _ => false

inductive FwOp where
  | showVersion (version : Bytes)
  | createDirAll (dir : String)
  | writeFile (file : OutFile) (contents : Bytes)
  deriving DecidableEq

abbrev fwCalls : Signature where
  Op := FwOp
  Answer
    | .writeFile .. => Except String Unit
    | _ => Unit

/-- An early return is an error with the exit code. -/
abbrev Extract (α : Type) := Method fwCalls Unit Nat α

abbrev onFw (op : fwCalls.Op) : Extract (fwCalls.Answer op) := Method.perform op

def writeFile (file : OutFile) (contents : Bytes) : Extract Unit := do
  match ← onFw (.writeFile file contents) with
  | .ok () => pure ()
  | .error _ => Method.fail 1

def part (data : Bytes) (start stop : Nat) : Extract Bytes :=
  Method.orPanic "range end index out of range" (slice? data start stop)

/-- Where the version of a remote image ends: at a zero byte, or after 16 bytes. -/
def verEnd (remoteData : Bytes) : Nat :=
  (((remoteData.drop 16).findIdx? (· == 0)).map (16 + ·)).getD 32

/-- Show the version of a remote image that has a header. -/
def showVersion (remoteData : Bytes) : Extract Unit :=
  if remoteData.length ≥ 16 ∧ remoteData.take 4 = magic2rdh then do
    onFw (.showVersion (← part remoteData 16 (verEnd remoteData)))
  else
    pure ()

/-- Write the images that the options ask for. -/
def writeOutput (args : Args) (tagLen hostLen : Nat) (data remoteData : Bytes) : Extract Unit :=
  match args.splitDir with
  | some dir => do
    onFw (.createDirAll dir)
    writeFile (.hostKernel dir) (← part data tagLen (tagLen + hostLen))
    writeFile (.remoteBoard dir) remoteData
  | none => do
    writeFile ((args.output.map .given).getD (.remoteBeside args.fwPath)) remoteData
    if args.extractAll then
      writeFile (.mainBeside args.fwPath) (← part data tagLen (tagLen + hostLen))
    else
      pure ()

/-- The split phase. -/
def split (args : Args) (tagLen hostLen : Nat) (data : Bytes) : Extract Nat := do
  let remoteStart := tagLen + hostLen
  let remoteLen ← Method.orPanic "attempt to subtract with overflow"
    (if remoteStart ≤ data.length then some (data.length - remoteStart) else none)
  if remoteLen = 0 then
    -- there is no remote image, which is only warned about
    pure 0
  else do
    let remoteData ← part data remoteStart data.length
    showVersion remoteData
    writeOutput args tagLen hostLen data remoteData
    return 0

/-- `main` on a file and the buffer that is split. -/
def fwextract (args : Args) (file data : Bytes) : Extract Nat :=
  match TagHeader.parse file with
  | .error _ => Method.fail 1
  | .ok tag => do
    let (tagLen, _) ← Method.orPanic "index out of bounds" (parseChunks file)
    if tag.totalImageLen.toNat + tagLen > file.length then
      Method.fail 1
    else
      split args tagLen tag.totalImageLen.toNat data

/-! ## What is written -/

/-- The image that belongs into a file. -/
def imageFor (tagLen hostLen : Nat) (data : Bytes) (file : OutFile) : Bytes :=
  if file.isHost then (data.drop tagLen).take hostLen else data.drop (tagLen + hostLen)

/-- The files that the options ask for, in the order in which they are written. -/
def filesOf (args : Args) : List OutFile :=
  match args.splitDir with
  | some dir => [.hostKernel dir, .remoteBoard dir]
  | none => (args.output.map .given).getD (.remoteBeside args.fwPath) ::
    if args.extractAll then [.mainBeside args.fwPath] else []

/-- The files that have been written, with their contents. -/
def writtenFiles (events : History fwCalls) : List (OutFile × Bytes) :=
  events.filterMap fun event => match event.op with
    | .writeFile file contents => some (file, contents)
    | _ => none

/-- A run splits a container exactly: it stays in bounds, the images are next to each other and
cover what is behind the header, and what is written are these images, all that the options ask
for if the run succeeds. -/
structure SplitsExactly (args : Args) (tagLen hostLen : Nat) (data : Bytes)
    (run : Run fwCalls (Except Nat Nat × Unit)) : Prop where
  inBounds : ∀ message, run.outcome ≠ .panicked message
  inOrder : tagLen + hostLen ≤ data.length
  covers : (data.drop tagLen).take hostLen ++ data.drop (tagLen + hostLen) = data.drop tagLen
  images : ∀ file contents, (file, contents) ∈ writtenFiles run.events →
    contents = imageFor tagLen hostLen data file
  complete : run.outcome = .returned (.ok 0, ()) → tagLen + hostLen < data.length →
    writtenFiles run.events =
      (filesOf args).map fun file => (file, imageFor tagLen hostLen data file)

/-- A remote image with a header that ends before its version does. -/
def UnterminatedVersion (remoteData : Bytes) : Prop :=
  remoteData.take 4 = magic2rdh ∧ 16 ≤ remoteData.length ∧ remoteData.length < 32 ∧
    0 ∉ remoteData.drop 16

section Parts

variable {data remoteData : Bytes} {tagLen hostLen : Nat}

/-- The version of an image without a zero byte behind its header has to be 16 bytes long. -/
theorem verEnd_le_iff (header : 16 ≤ remoteData.length) :
    verEnd remoteData ≤ remoteData.length ↔
      ¬ (remoteData.length < 32 ∧ 0 ∉ remoteData.drop 16) := by
  rw [verEnd]
  cases found : (remoteData.drop 16).findIdx? (· == 0) with
  | none =>
      have noZero : 0 ∉ remoteData.drop 16 := by
        intro member
        have differs := List.findIdx?_eq_none_iff.mp found 0 member
        cases differs
      simp only [Option.map_none, Option.getD_none, noZero, not_false_iff, and_true,
        Nat.not_lt]
  | some index =>
      obtain ⟨inside, isZero, -⟩ := List.findIdx?_eq_some_iff_getElem.mp found
      have zero : 0 ∈ remoteData.drop 16 := by
        rw [← eq_of_beq isZero]
        exact List.getElem_mem inside
      rw [List.length_drop] at inside
      refine iff_of_true ?_ fun unterminated => unterminated.2 zero
      simp only [Option.map_some, Option.getD_some]
      omega

theorem le_verEnd (remoteData : Bytes) : 16 ≤ verEnd remoteData := by
  rw [verEnd]
  cases (remoteData.drop 16).findIdx? (· == 0) with
  | none => decide
  | some index => exact Nat.le_add_right ..

theorem part_host {file : OutFile} (inOrder : tagLen + hostLen ≤ data.length)
    (isHost : file.isHost = true) :
    part data tagLen (tagLen + hostLen) = pure (imageFor tagLen hostLen data file) := by
  rw [part, slice?_eq_some (Nat.le_add_right ..) inOrder, imageFor, if_pos isHost,
    Nat.add_sub_cancel_left]
  rfl

theorem part_remote (inOrder : tagLen + hostLen ≤ data.length) :
    part data (tagLen + hostLen) data.length = pure (data.drop (tagLen + hostLen)) := by
  rw [part, slice?_eq_some inOrder (Nat.le_refl _), List.take_of_length_le (by simp)]
  rfl

end Parts

/-! ## The split phase -/

section Split

variable {α : Type} {args : Args} {tagLen hostLen : Nat} {data remoteData : Bytes}
  {history : History fwCalls} {files : List OutFile}

/-- Only the images are written, and nothing panics. -/
def writesImages (tagLen hostLen : Nat) (data : Bytes) : Contract fwCalls where
  may _ op := ∀ file contents, op = .writeFile file contents →
    contents = imageFor tagLen hostLen data file
  mayPanic _ := False

/-- The images that have been written so far, if nothing has failed. -/
def Wrote (tagLen hostLen : Nat) (data : Bytes) (files : List OutFile)
    (later : History fwCalls) (result : Except Nat α × Unit) : Prop :=
  ∀ value, result.1 = .ok value →
    writtenFiles later = files.map fun file => (file, imageFor tagLen hostLen data file)

theorem safe_writeFile {file : OutFile} {contents : Bytes}
    (image : contents = imageFor tagLen hostLen data file)
    (before : writtenFiles history =
      files.map fun file => (file, imageFor tagLen hostLen data file)) :
    Safe (writesImages tagLen hostLen data) (Wrote tagLen hostLen data (files ++ [file]))
      (writeFile file contents ()) history := by
  refine ⟨?_, fun answer _ => ?_⟩
  · rintro _ _ ⟨⟩
    exact image
  · cases answer with
    | error error => exact fun _ failed => by cases failed
    | ok written =>
        intro _ _
        rw [writtenFiles, List.filterMap_append, List.map_append, ← before, image]
        rfl

theorem safe_showVersion (terminated : ¬ UnterminatedVersion remoteData)
    (before : writtenFiles history = []) :
    Safe (writesImages tagLen hostLen data) (Wrote tagLen hostLen data [])
      (showVersion remoteData ()) history := by
  rw [showVersion]
  split
  · next header =>
      have inside : verEnd remoteData ≤ remoteData.length :=
        (verEnd_le_iff header.1).mpr fun ends => terminated ⟨header.2, header.1, ends⟩
      rw [part, slice?_eq_some (le_verEnd _) inside]
      refine ⟨?_, fun _ _ _ _ => ?_⟩
      · rintro _ _ ⟨⟩
      · rw [writtenFiles, List.filterMap_append]
        exact (List.append_nil _).trans before
  · exact fun _ _ => before

theorem safe_writeOutput (inOrder : tagLen + hostLen ≤ data.length)
    (before : writtenFiles history = []) :
    Safe (writesImages tagLen hostLen data) (Wrote tagLen hostLen data (filesOf args))
      (writeOutput args tagLen hostLen data (data.drop (tagLen + hostLen)) ()) history := by
  rw [writeOutput, filesOf]
  cases args.splitDir with
  | some dir =>
      have host : (OutFile.hostKernel dir).isHost = true := rfl
      rw [part_host inOrder host]
      refine ⟨(fun _ _ other => by cases other), fun _ _ => ?_⟩
      have created : writtenFiles (history ++ [⟨.createDirAll dir, ()⟩]) =
          [].map fun file => (file, imageFor tagLen hostLen data file) := by
        rw [writtenFiles, List.filterMap_append]
        exact (List.append_nil _).trans before
      change Safe _ _ ((writeFile (.hostKernel dir) _ >>= _ : Extract Unit) ()) _
      refine Method.safe_bind (safe_writeFile rfl created) ?_
        fun _ _ _ _ _ failed => by cases failed
      intro later _ _ wrote
      exact safe_writeFile rfl (wrote _ rfl)
  | none =>
      have nothing : writtenFiles history =
          [].map fun file => (file, imageFor tagLen hostLen data file) := before
      refine Method.safe_bind (safe_writeFile ?_ nothing) ?_ fun _ _ _ _ _ failed => by cases failed
      · cases args.output <;> rfl
      intro later _ _ wrote
      cases args.extractAll with
      | true =>
          have host : (OutFile.mainBeside args.fwPath).isHost = true := rfl
          rw [part_host inOrder host]
          exact safe_writeFile rfl (wrote _ rfl)
      | false => exact fun _ _ => wrote _ rfl

theorem safe_split (args : Args) (inOrder : tagLen + hostLen ≤ data.length)
    (terminated : ¬ UnterminatedVersion (data.drop (tagLen + hostLen))) :
    Safe (writesImages tagLen hostLen data)
      (fun later result => tagLen + hostLen < data.length →
        Wrote tagLen hostLen data (filesOf args) later result)
      (split args tagLen hostLen data ()) [] := by
  rw [split, if_pos inOrder]
  change Safe _ _ ((if data.length - (tagLen + hostLen) = 0 then _ else _ : Extract Nat) ()) []
  split
  · exact fun remains => by omega
  · rw [part_remote inOrder]
    change Safe _ _ ((showVersion (data.drop (tagLen + hostLen)) >>= _ : Extract Nat) ()) []
    refine Method.safe_bind (safe_showVersion terminated rfl) ?_
      fun _ _ _ _ _ _ failed => by cases failed
    intro later _ _ shown
    refine Method.safe_bind (safe_writeOutput inOrder (shown _ rfl)) ?_
      fun _ _ _ _ _ _ failed => by cases failed
    intro later _ _ wrote _ _ _
    exact wrote _ rfl

/-- A version that does not end is a panic. -/
theorem split_panics (args : Args) (inOrder : tagLen + hostLen ≤ data.length)
    (unterminated : UnterminatedVersion (data.drop (tagLen + hostLen))) :
    ∃ message, split args tagLen hostLen data () = .panic message := by
  obtain ⟨magic, header, short, noZero⟩ := unterminated
  have outside : ¬ verEnd (data.drop (tagLen + hostLen)) ≤ (data.drop (tagLen + hostLen)).length :=
    fun inside => (verEnd_le_iff header).mp inside ⟨short, noZero⟩
  have remains : data.length - (tagLen + hostLen) ≠ 0 := by
    rw [List.length_drop] at header
    omega
  refine ⟨"range end index out of range", ?_⟩
  rw [split, if_pos inOrder]
  change (if data.length - (tagLen + hostLen) = 0 then _ else _ : Extract Nat) () = _
  rw [if_neg remains, part_remote inOrder]
  change (showVersion (data.drop (tagLen + hostLen)) >>= _ : Extract Nat) () = _
  rw [Method.bind_apply, showVersion, if_pos ⟨header, magic⟩, part, slice?,
    if_neg fun inside => outside inside.2]
  rfl

end Split

/-- `main` splits a file that fits its header. -/
theorem fwextract_eq {args : Args} {file data : Bytes} {tag : TagHeader} {tagLen : Nat}
    {signature : Bytes} (parsed : TagHeader.parse file = .ok tag)
    (chunks : parseChunks file = some (tagLen, signature))
    (fits : tag.totalImageLen.toNat + tagLen ≤ file.length) :
    fwextract args file data = split args tagLen tag.totalImageLen.toNat data := by
  rw [fwextract, parsed]
  dsimp only
  rw [chunks]
  change (if tag.totalImageLen.toNat + tagLen > file.length then _ else _ : Extract Nat) = _
  rw [if_neg (Nat.not_lt.mpr fits)]

theorem splitsExactly_iff_of_fits {args : Args} {file data : Bytes} {tag : TagHeader} {tagLen : Nat}
    {signature : Bytes} (oracle : Oracle fwCalls) (parsed : TagHeader.parse file = .ok tag)
    (chunks : parseChunks file = some (tagLen, signature))
    (fits : tag.totalImageLen.toNat + tagLen ≤ file.length)
    (sameLength : data.length = file.length) :
    SplitsExactly args tagLen tag.totalImageLen.toNat data
        ((fwextract args file data ()).exec oracle []) ↔
      ¬ UnterminatedVersion (data.drop (tagLen + tag.totalImageLen.toNat)) := by
  have inOrder : tagLen + tag.totalImageLen.toNat ≤ data.length := by omega
  rw [fwextract_eq parsed chunks fits]
  constructor
  · intro splits unterminated
    obtain ⟨message, panics⟩ := split_panics args inOrder unterminated
    rw [panics] at splits
    exact splits.inBounds message rfl
  · intro terminated
    obtain ⟨asked, ended⟩ := (safe_split args inOrder terminated).exec (along_true [] _)
    refine ⟨?_, inOrder, ?_, ?_, ?_⟩
    · intro message panicked
      rw [panicked] at ended
      exact ended
    · rw [← List.drop_drop, List.take_append_drop]
    · intro file contents member
      obtain ⟨event, happened, isWrite⟩ := List.mem_filterMap.mp member
      have allowed := along_iff_forall_mem.mp asked event happened
      split at isWrite
      · next op =>
          cases isWrite
          exact allowed _ _ op
      · cases isWrite
    · intro succeeded remains
      rw [succeeded] at ended
      exact ended remains 0 rfl

/-- The chunk walk of a container returns, and a container that fits its header is split exactly
unless it ends within the version of its remote image. -/
theorem splitsExactly_iff (args : Args) (file data : Bytes) (tag : TagHeader)
    (oracle : Oracle fwCalls) (parsed : TagHeader.parse file = .ok tag)
    (sameLength : data.length = file.length) :
    ∃ tagLen signature, parseChunks file = some (tagLen, signature) ∧
      (tag.totalImageLen.toNat + tagLen ≤ file.length →
        (SplitsExactly args tagLen tag.totalImageLen.toNat data
            ((fwextract args file data ()).exec oracle []) ↔
          ¬ UnterminatedVersion (data.drop (tagLen + tag.totalImageLen.toNat)))) := by
  obtain ⟨tagLen, signature, chunks, -⟩ := parseChunks_inside (TagHeader.length_of_parse parsed)
  exact ⟨tagLen, signature, chunks, fun fits =>
    splitsExactly_iff_of_fits oracle parsed chunks fits sameLength⟩

/-! ## A container that ends with the header of its remote image -/

/-- A container without a host image and without metadata. -/
def bareContainer (remote : Bytes) : Bytes := List.replicate tagHeaderLen 0 ++ remote

/-- A remote header, all fields of which are zero. -/
def bareHeader : Bytes := magic2rdh ++ List.replicate 12 0

def bareTag : TagHeader := ⟨0, 0, 0, 0, List.replicate 16 0, 0, 0, 0⟩

/-- Nothing can be written to. -/
def readOnly : Oracle fwCalls
  | _, .writeFile .. => .error "read-only file system"
  | _, .showVersion _ | _, .createDirAll _ => ()

theorem parse_bareContainer (remote : Bytes) :
    TagHeader.parse (bareContainer remote) = .ok bareTag := by
  have long : tagHeaderLen ≤ (bareContainer remote).length := by
    rw [bareContainer, List.length_append, List.length_replicate]
    exact Nat.le_add_right ..
  rw [TagHeader.parse, dif_pos long]
  rfl

theorem drop_bareContainer (remote : Bytes) (extra : Nat) :
    (bareContainer remote).drop (tagHeaderLen + extra) = remote.drop extra := by
  have zeros : (List.replicate tagHeaderLen (0 : UInt8)).drop tagHeaderLen = [] := by
    rw [List.drop_replicate, Nat.sub_self, List.replicate_zero]
  rw [← List.drop_drop, bareContainer, List.drop_append, zeros, List.length_replicate,
    Nat.sub_self, List.nil_append, List.drop_zero]

theorem length_bareContainer (remote : Bytes) :
    (bareContainer remote).length = tagHeaderLen + remote.length := by
  rw [bareContainer, List.length_append, List.length_replicate]

theorem parseChunks_bareContainer :
    parseChunks (bareContainer bareHeader) = some (tagHeaderLen, []) := by
  have room : tagHeaderLen + 8 ≤ (bareContainer bareHeader).length := by
    rw [length_bareContainer]
    decide
  have chunkType : le32At? (bareContainer bareHeader) tagHeaderLen = some 0x48445232 := by
    rw [le32At?, ← Nat.add_zero tagHeaderLen, drop_bareContainer]
    rfl
  have chunkLen : le32At? (bareContainer bareHeader) (tagHeaderLen + 4) = some 0 := by
    rw [le32At?, drop_bareContainer]
    rfl
  rw [parseChunks, parseChunksFrom, if_pos room, chunkType, chunkLen]
  rfl

theorem bareContainer_fits :
    bareTag.totalImageLen.toNat + tagHeaderLen ≤ (bareContainer bareHeader).length := by
  rw [length_bareContainer]
  decide

/-- The chunk walk of a bare container returns, and it is split exactly if a version follows. -/
theorem splitsExactly_iff_bareContainer :
    ∃ tagLen signature, parseChunks (bareContainer bareHeader) = some (tagLen, signature) ∧
      (bareTag.totalImageLen.toNat + tagLen ≤ (bareContainer bareHeader).length →
        (SplitsExactly ⟨"fw.bin", none, true, none⟩ tagLen bareTag.totalImageLen.toNat
            (bareContainer bareHeader)
            ((fwextract ⟨"fw.bin", none, true, none⟩ (bareContainer bareHeader)
              (bareContainer bareHeader) ()).exec readOnly []) ↔
          ¬ UnterminatedVersion
            ((bareContainer bareHeader).drop (tagLen + bareTag.totalImageLen.toNat)))) :=
  splitsExactly_iff ⟨"fw.bin", none, true, none⟩ (bareContainer bareHeader)
    (bareContainer bareHeader) bareTag readOnly (parse_bareContainer _) rfl

/-- A container that ends with the header of its remote image is not split exactly. -/
theorem not_splitsExactly_bareContainer :
    ¬ ∀ (args : Args) (file data : Bytes) (tag : TagHeader) (oracle : Oracle fwCalls),
      TagHeader.parse file = .ok tag → data.length = file.length →
        ∃ tagLen signature, parseChunks file = some (tagLen, signature) ∧
          (tag.totalImageLen.toNat + tagLen ≤ file.length →
            SplitsExactly args tagLen tag.totalImageLen.toNat data
              ((fwextract args file data ()).exec oracle [])) := by
  intro claim
  obtain ⟨tagLen, signature, chunks, splits⟩ := claim ⟨"fw.bin", none, true, none⟩
    (bareContainer bareHeader) (bareContainer bareHeader) bareTag readOnly
    (parse_bareContainer _) rfl
  rw [parseChunks_bareContainer] at chunks
  cases chunks
  refine (splitsExactly_iff_of_fits readOnly (parse_bareContainer _) parseChunks_bareContainer
    bareContainer_fits rfl).mp (splits bareContainer_fits) ?_
  rw [drop_bareContainer]
  exact ⟨rfl, by decide, by decide, by decide⟩

end RbctlDsl.Fwextract
