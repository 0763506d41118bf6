import RbctlDsl.Fwextract.Chunks
import RbctlDsl.Fwextract.Cli
import RbctlDsl.Fwextract.SaltRecovery

/-!
# Releases

A release is packed as `docs/firmware_encryption.md` has it: metadata with a signature that carries
the key, and two encrypted images.  `fwextract` unpacks every release.
-/

namespace RbctlDsl.Fwextract

open RbctlDsl.Lib

/-- A key of 2048 bits, with both of its exponents. -/
structure SigningKey where
  n : Nat
  d : Nat
  e : UInt32
  large : 2 ^ 2047 ≤ n
  small : n < 2 ^ 2048
  inverts : ∀ m < n, (m ^ d) ^ e.toNat % n = m

/-- The blob of the public half. -/
def SigningKey.blob (signer : SigningKey) (alg : UInt32) : Bytes :=
  keyBlob alg 2048 signer.e (toBytesLe 256 signer.n)

/-- What a release is packed from: the metadata with the length of the host image and a signature
that carries the key and the initialisation vector, and the two images. -/
structure Release (sha : Sha256) (signer : SigningKey) where
  metadata : Metadata
  h : Bytes
  key : Block
  iv : Block
  host : Bytes
  remote : Bytes
  digest : h.length = 32
  signed : metadata.signature =
    sign signer.n signer.d (pssEncode sha h (key.bytes ++ iv.bytes))
  fits : host.length < 2 ^ 32
  stated : le32At? metadata.header 0x70 = some (.ofNat host.length)

namespace Release

variable {sha : Sha256} {signer : SigningKey}

/-- The encrypted images. -/
def encrypted (release : Release sha signer) (cipher : BlockCipher) : Bytes :=
  cbcEncrypt cipher release.key release.iv (release.host ++ release.remote)

/-- The file. -/
def container (release : Release sha signer) (cipher : BlockCipher) : Bytes :=
  release.metadata.bytes ++ release.encrypted cipher

/-- What stands behind the metadata once the file has been decrypted, or left as it is. -/
def body (release : Release sha signer) (cipher : BlockCipher) (decrypted : Bool) : Bytes :=
  if decrypted then release.host ++ release.remote else release.encrypted cipher

def hostPart (release : Release sha signer) (cipher : BlockCipher) (decrypted : Bool) : Bytes :=
  if decrypted then release.host else (release.encrypted cipher).take release.host.length

def remotePart (release : Release sha signer) (cipher : BlockCipher) (decrypted : Bool) : Bytes :=
  if decrypted then release.remote else (release.encrypted cipher).drop release.host.length

end Release

/-! ## The container of a release -/

theorem Metadata.length_bytes (metadata : Metadata) : metadata.bytes.length = metadata.tagLen := by
  simp [Metadata.bytes, Metadata.tagLen, metadata.isHeader, List.length_flatMap]

/-- The header states the length that the tag has. -/
theorem TagHeader.totalImageLen_of_parse {buf : Bytes} {tag : TagHeader}
    (parsed : TagHeader.parse buf = .ok tag) : le32At? buf 0x70 = some tag.totalImageLen := by
  unfold TagHeader.parse at parsed
  split at parsed
  · cases parsed
    exact (Option.some_get _).symm
  · cases parsed

theorem le32At?_append_right {buf : Bytes} {offset : Nat} {value : UInt32}
    (read : le32At? buf offset = some value) (after : Bytes) :
    le32At? (buf ++ after) offset = some value := by
  have inside : offset + 4 ≤ buf.length := by
    rw [← le32At?_isSome_iff, read]
    rfl
  rw [le32At?, List.drop_append_of_le_length (by omega)]
  rw [le32At?] at read
  split at read
  · next first second third fourth rest split =>
      rw [split]
      exact read
  · cases read

namespace Release

variable {sha : Sha256} {signer : SigningKey} (release : Release sha signer)
  (cipher : BlockCipher)

theorem parse_container :
    ∃ tag, TagHeader.parse (release.container cipher) = .ok tag ∧
      tag.totalImageLen.toNat = release.host.length := by
  have long : tagHeaderLen ≤ (release.container cipher).length := by
    rw [container, List.length_append, Metadata.bytes, List.length_append,
      release.metadata.isHeader, Nat.add_assoc]
    exact Nat.le_add_right _ _
  have parsed : ∃ tag, TagHeader.parse (release.container cipher) = .ok tag := by
    rw [TagHeader.parse, dif_pos long]
    exact ⟨_, rfl⟩
  obtain ⟨tag, parsed⟩ := parsed
  have stated : le32At? (release.container cipher) 0x70 = some (.ofNat release.host.length) := by
    rw [container, Metadata.bytes, List.append_assoc]
    exact le32At?_append_right release.stated _
  rw [TagHeader.totalImageLen_of_parse parsed, Option.some_inj] at stated
  refine ⟨tag, parsed, ?_⟩
  rw [stated]
  exact UInt32.toNat_ofNat_of_lt' release.fits

theorem length_encrypted : (release.encrypted cipher).length =
    release.host.length + release.remote.length := by
  have plain := congrArg List.length (joined_blocksOf (release.host ++ release.remote))
  rw [List.length_append, length_joined] at plain
  rw [encrypted, cbcEncrypt, List.length_append, length_joined, length_encryptChain, plain,
    List.length_append]

theorem length_salt : (release.key.bytes ++ release.iv.bytes).length = 32 := by
  rw [List.length_append, release.key.size, release.iv.size]

theorem short_salt : (release.key.bytes ++ release.iv.bytes).length ≤ 222 := by
  rw [release.length_salt]
  decide

/-- The signature verifies to the encoding of the salt. -/
theorem recoverEm_signature :
    release.metadata.signature.length = 256 ∧
      recoverEm release.metadata.signature ⟨signer.n, signer.e.toNat⟩ =
        some (pssEncode sha release.h (release.key.bytes ++ release.iv.bytes)) := by
  have below := (@fromBytesBe_pssEncode_lt sha _ _ release.digest release.short_salt).trans_le
    signer.large
  rw [release.signed]
  refine ⟨?_, recoverEm_sign (length_pssEncode release.digest release.short_salt) below
    signer.small signer.inverts⟩
  apply length_toBytesLe
  rw [bytes_pow]
  exact (Nat.mod_lt _ (Nat.zero_lt_of_lt below)).trans signer.small

/-- The salt is the key and the initialisation vector. -/
theorem readEm_salt :
    readEm sha (pssEncode sha release.h (release.key.bytes ++ release.iv.bytes)) =
      some (.ok (release.key.bytes, release.iv.bytes)) := by
  have front : (release.key.bytes ++ release.iv.bytes).take 16 = release.key.bytes := by
    rw [← release.key.size, List.take_left]
  have behind : ((release.key.bytes ++ release.iv.bytes).drop 16).take 16 = release.iv.bytes := by
    rw [← release.key.size, List.drop_left, release.key.size, ← release.iv.size, List.take_length]
  rw [readEm_pssEncode release.digest (Nat.le_of_eq release.length_salt.symm) release.short_salt,
    front, behind]

theorem extractAesKey_signature :
    extractAesKey sha release.metadata.signature ⟨signer.n, signer.e.toNat⟩ =
      some (.ok (release.key.bytes, release.iv.bytes)) := by
  obtain ⟨whole, recovered⟩ := release.recoverEm_signature
  rw [extractAesKey, if_neg (not_not_intro whole), recovered, Option.bind_eq_bind,
    Option.bind_some, release.readEm_salt]

theorem signature_ne_nil : release.metadata.signature.isEmpty = false := by
  have whole := release.recoverEm_signature.1
  cases found : release.metadata.signature with
  | nil =>
      rw [found] at whole
      cases whole
  | cons byte rest => rfl

theorem decryptImage_container :
    decryptImage cipher release.metadata.tagLen (release.container cipher) release.key release.iv =
      some (release.metadata.bytes ++ (release.host ++ release.remote)) := by
  rw [← release.metadata.length_bytes]
  exact decryptImage_cbcEncrypt ..

end Release

theorem SigningKey.parse_blob (signer : SigningKey) (alg : UInt32) :
    parseRsaPubkeyBlob (signer.blob alg) = some (.ok ⟨signer.n, signer.e.toNat⟩) := by
  have whole : (toBytesLe 256 signer.n).length = (2048 : UInt32).toNat / 8 :=
    length_toBytesLe (by rw [bytes_pow]; exact signer.small)
  rcases parseRsaPubkeyBlob_cases (signer.blob alg) with ⟨-, accepted⟩ | ⟨other, -⟩
  · rw [accepted, SigningKey.blob, declaredModulus_keyBlob alg signer.e whole,
      declaredExponent_keyBlob, fromBytesLe_toBytesLe]
  · exact absurd (isKeyBlob_keyBlob alg signer.e whole) other

theorem Block.ofBytes?_bytes (block : Block) : Block.ofBytes? block.bytes = some block :=
  dif_pos block.size

/-! ## The run on a release -/

section Run

variable {sha : Sha256} {signer : SigningKey} {release : Release sha signer}
  {cipher : BlockCipher} {oracle : Oracle cliCalls} {options : Options} {alg : UInt32}

theorem exec_decryptFile {keyPath : String} (reads : Reads oracle keyPath (signer.blob alg))
    (history : History cliCalls) :
    (decryptFile sha cipher keyPath (release.container cipher) release.metadata.tagLen
        release.metadata.signature ()).exec oracle history =
      ⟨[⟨.readFile keyPath, .ok (signer.blob alg)⟩],
        .returned (.ok (release.metadata.bytes ++ release.body cipher true), ())⟩ := by
  rw [decryptFile, Method.exec_bind_ok _ (exec_readFile reads history)]
  simp only [signer.parse_blob, orPanic_some_bind, orExit_ok_bind, release.signature_ne_nil,
    release.extractAesKey_signature, Block.ofBytes?_bytes, release.decryptImage_container]
  rfl

theorem exec_decryptIfAsked (readsKey : ∀ keyPath, options.rsaKey = some keyPath →
      Reads oracle keyPath (signer.blob alg)) (history : History cliCalls) :
    ∃ events, diskWrites events = [] ∧
      (decryptIfAsked sha cipher options (release.container cipher) release.metadata.tagLen
          release.metadata.signature ()).exec oracle history =
        ⟨events, .returned (.ok (release.metadata.bytes ++ release.body cipher options.decrypt),
          ())⟩ := by
  unfold decryptIfAsked
  split
  next decrypts =>
    rw [decrypts]
    exact ⟨_, rfl, exec_decryptFile (readsKey _ (Option.some_get _).symm) history⟩
  next plain =>
    rw [Bool.not_eq_true] at plain
    rw [plain]
    exact ⟨[], rfl, rfl⟩

/-- The program reads the files, and the rest of it is the split phase. -/
theorem exec_main (readsFile : Reads oracle options.fwPath (release.container cipher))
    (readsKey : ∀ keyPath, options.rsaKey = some keyPath →
      Reads oracle keyPath (signer.blob alg)) :
    ∃ before, diskWrites before = [] ∧
      (main sha cipher options ()).exec oracle [] =
        ⟨before ++ ((split options.toArgs release.metadata.tagLen release.host.length
            (release.metadata.bytes ++ release.body cipher options.decrypt) ()).exec
              (answersAfter oracle before) []).events.map onFwEvent,
          ((split options.toArgs release.metadata.tagLen release.host.length
            (release.metadata.bytes ++ release.body cipher options.decrypt) ()).exec
              (answersAfter oracle before) []).outcome⟩ := by
  obtain ⟨tag, parsed, stated⟩ := release.parse_container cipher
  have chunks : parseChunks (release.container cipher) =
      some (release.metadata.tagLen, release.metadata.signature) := parseChunks_bytes ..
  have fits : ¬ release.host.length + release.metadata.tagLen >
      (release.container cipher).length := by
    rw [Release.container, List.length_append, release.length_encrypted, Metadata.length_bytes]
    omega
  obtain ⟨events, silent, decrypted⟩ :=
    @exec_decryptIfAsked sha signer release cipher oracle options alg readsKey
      [⟨.readFile options.fwPath, .ok (release.container cipher)⟩]
  refine ⟨⟨.readFile options.fwPath, .ok (release.container cipher)⟩ :: events, silent, ?_⟩
  rw [main, Method.exec_bind_ok _ (exec_readFile readsFile [])]
  simp only [parsed, chunks, orExit_ok_bind, orPanic_some_bind, if_neg fits, stated,
    List.nil_append]
  rw [Method.exec_bind_ok _ decrypted]
  have last := @exec_finish oracle
    (⟨.readFile options.fwPath, .ok (release.container cipher)⟩ :: events)
    (split options.toArgs release.metadata.tagLen release.host.length
      (release.metadata.bytes ++ release.body cipher options.decrypt) ()) []
  rw [List.map_nil, List.append_nil] at last
  simp only [List.nil_append, last, List.cons_append]

end Run

/-! ## Unpacking -/

section Unpack

variable {sha : Sha256} {signer : SigningKey} (release : Release sha signer)
  (cipher : BlockCipher) (decrypted : Bool)

namespace Release

theorem length_body : (release.body cipher decrypted).length =
    release.host.length + release.remote.length := by
  cases decrypted with
  | true => exact List.length_append
  | false => exact release.length_encrypted cipher

theorem take_body :
    (release.body cipher decrypted).take release.host.length =
      release.hostPart cipher decrypted := by
  cases decrypted with
  | true => exact List.take_left
  | false => rfl

theorem drop_body :
    (release.body cipher decrypted).drop release.host.length =
      release.remotePart cipher decrypted := by
  cases decrypted with
  | true => exact List.drop_left
  | false => rfl

/-- The images of the buffer are the parts of the release. -/
theorem imageFor_body (file : OutFile) :
    imageFor release.metadata.tagLen release.host.length
        (release.metadata.bytes ++ release.body cipher decrypted) file =
      if file.isHost then release.hostPart cipher decrypted
      else release.remotePart cipher decrypted := by
  rw [imageFor, ← List.drop_drop, ← release.metadata.length_bytes, List.drop_left, take_body,
    drop_body]

end Release

variable {oracle : Oracle cliCalls} {options : Options} {alg : UInt32} {release cipher}

theorem drop_data : (release.metadata.bytes ++ release.body cipher decrypted).drop
      (release.metadata.tagLen + release.host.length) = release.remotePart cipher decrypted := by
  rw [← List.drop_drop, ← release.metadata.length_bytes, List.drop_left, release.drop_body]

theorem inOrder_data : release.metadata.tagLen + release.host.length ≤
    (release.metadata.bytes ++ release.body cipher decrypted).length := by
  rw [List.length_append, release.length_body, release.metadata.length_bytes, ← Nat.add_assoc]
  exact Nat.le_add_right _ _

theorem remains_data (remains : release.remote ≠ []) :
    release.metadata.tagLen + release.host.length <
      (release.metadata.bytes ++ release.body cipher decrypted).length := by
  have long := List.length_pos_of_ne_nil remains
  rw [List.length_append, release.length_body, release.metadata.length_bytes]
  omega

/-- A release is unpacked unless it ends within the version of its remote image. -/
theorem unpacks_main (readsFile : Reads oracle options.fwPath (release.container cipher))
    (readsKey : ∀ keyPath, options.rsaKey = some keyPath →
      Reads oracle keyPath (signer.blob alg)) (remains : release.remote ≠ []) :
    Unpacks options.toArgs (release.hostPart cipher options.decrypt)
        (release.remotePart cipher options.decrypt)
        ((main sha cipher options ()).exec oracle []) ↔
      ¬ UnterminatedVersion (release.remotePart cipher options.decrypt) := by
  have inOrder := @inOrder_data sha signer release cipher options.decrypt
  have behind := @drop_data sha signer release cipher options.decrypt
  obtain ⟨before, silent, run⟩ := exec_main readsFile readsKey
  rw [run]
  constructor
  · intro unpacks unterminated
    rw [← behind] at unterminated
    obtain ⟨message, panics⟩ := split_panics options.toArgs inOrder unterminated
    rw [panics] at unpacks
    exact unpacks.inBounds message rfl
  · intro terminated
    rw [← behind] at terminated
    have promised := along_true [] ((split options.toArgs release.metadata.tagLen
      release.host.length (release.metadata.bytes ++ release.body cipher options.decrypt) ()).exec
        (answersAfter oracle before) []).events
    obtain ⟨asked, ended⟩ := (safe_split options.toArgs inOrder terminated).exec promised
    refine ⟨?_, ?_, ?_⟩
    · intro message panicked
      dsimp only at panicked
      rw [panicked] at ended
      exact ended
    · intro file contents member
      rw [diskWrites, List.filterMap_append, ← diskWrites, ← diskWrites, silent, List.nil_append,
        diskWrites_onFwEvent] at member
      obtain ⟨event, happened, isWrite⟩ := List.mem_filterMap.mp member
      have allowed := along_iff_forall_mem.mp asked event happened
      obtain ⟨op, answer⟩ := event
      cases op with
      | writeFile written contents =>
          cases isWrite
          rw [← release.imageFor_body]
          exact allowed _ _ rfl
      | showVersion | createDirAll => cases isWrite
    · intro succeeded
      dsimp only at succeeded
      rw [succeeded] at ended
      have wrote := ended (remains_data options.decrypt remains) 0 rfl
      rw [diskWrites, List.filterMap_append, ← diskWrites, ← diskWrites, silent, List.nil_append,
        diskWrites_onFwEvent]
      simp only [release.imageFor_body, List.nil_append] at wrote
      exact wrote

theorem outcome_main (readsFile : Reads oracle options.fwPath (release.container cipher))
    (readsKey : ∀ keyPath, options.rsaKey = some keyPath →
      Reads oracle keyPath (signer.blob alg)) (writes : Writes oracle)
    (terminated : ¬ UnterminatedVersion (release.remotePart cipher options.decrypt)) :
    ((main sha cipher options ()).exec oracle []).outcome = .returned (.ok 0, ()) := by
  obtain ⟨before, silent, run⟩ := exec_main readsFile readsKey
  rw [run]
  refine outcome_split (fun _ file contents => writes _ file contents)
    (inOrder_data options.decrypt) ?_
  rwa [drop_data]

/-- Without a remote image there is nothing to be written. -/
theorem exec_main_hostOnly (readsFile : Reads oracle options.fwPath (release.container cipher))
    (readsKey : ∀ keyPath, options.rsaKey = some keyPath →
      Reads oracle keyPath (signer.blob alg)) (hostOnly : release.remote = []) :
    diskWrites ((main sha cipher options ()).exec oracle []).events = [] ∧
      ((main sha cipher options ()).exec oracle []).outcome = .returned (.ok 0, ()) := by
  obtain ⟨before, silent, run⟩ := exec_main readsFile readsKey
  have nothing : (release.metadata.bytes ++ release.body cipher options.decrypt).length -
      (release.metadata.tagLen + release.host.length) = 0 := by
    rw [List.length_append, release.length_body, release.metadata.length_bytes, hostOnly,
      List.length_nil]
    omega
  have stops : split options.toArgs release.metadata.tagLen release.host.length
      (release.metadata.bytes ++ release.body cipher options.decrypt) () =
        .pure (.ok 0, ()) := by
    rw [split, if_pos (inOrder_data options.decrypt)]
    change (if _ then _ else _ : Extract Nat) () = _
    rw [if_pos nothing]
    rfl
  rw [run, stops]
  exact ⟨(List.append_nil before).symm ▸ silent, rfl⟩

end Unpack

/-- What has been packed is unpacked.  On a release under a key of 2048 bits the program writes the
two images, decrypted or as they are, byte for byte and all that the command line asks for, unless
the file ends within the version of the remote image; it fails only where a file cannot be written,
and without a remote image it writes nothing. -/
theorem cli_unpacks (sha : Sha256) (cipher : BlockCipher) (signer : SigningKey)
    (release : Release sha signer) (alg : UInt32) (withDecrypt : Bool) (words : List String)
    (options : Options) (oracle : Oracle cliCalls)
    (parsed : parseArgs withDecrypt words = .ok options)
    (readsFile : Reads oracle options.fwPath (release.container cipher))
    (readsKey : ∀ keyPath, options.rsaKey = some keyPath →
      Reads oracle keyPath (signer.blob alg)) :
    (release.remote ≠ [] →
        (Unpacks options.toArgs (release.hostPart cipher options.decrypt)
            (release.remotePart cipher options.decrypt)
            ((cli sha cipher withDecrypt words ()).exec oracle []) ↔
          ¬ UnterminatedVersion (release.remotePart cipher options.decrypt)) ∧
        (¬ UnterminatedVersion (release.remotePart cipher options.decrypt) → Writes oracle →
          ((cli sha cipher withDecrypt words ()).exec oracle []).outcome =
            .returned (.ok 0, ()))) ∧
      (release.remote = [] →
        diskWrites ((cli sha cipher withDecrypt words ()).exec oracle []).events = [] ∧
          ((cli sha cipher withDecrypt words ()).exec oracle []).outcome =
            .returned (.ok 0, ())) := by
  have isMain : cli sha cipher withDecrypt words = main sha cipher options := by
    rw [cli, parsed]
  rw [isMain]
  refine ⟨fun remains => ⟨unpacks_main readsFile readsKey remains, ?_⟩,
    exec_main_hostOnly readsFile readsKey⟩
  exact fun terminated writes => outcome_main readsFile readsKey writes terminated

/-! ## A release -/

def mersenneKey : SigningKey where
  n := mersennePrimes.prod
  d := mersenneExponent
  e := 65537
  large := bits_mersennePrimes.1
  small := bits_mersennePrimes.2
  inverts := inverts_mersennePrimes

/-- Images of five blocks and ten bytes together. -/
def smallHost : Bytes := (List.range 40).map .ofNat

def smallRemote : Bytes := (List.range 50).map fun index => .ofNat (7 * index)

/-- A header that states the length of the host image. -/
def smallHeader : Bytes := List.replicate 0x70 0 ++ (leBytes32 40 ++ List.replicate 0x18C 0)

theorem length_smallHeader : smallHeader.length = 0x200 := by
  rw [smallHeader, List.length_append, List.length_append, List.length_replicate,
    List.length_replicate]
  rfl

theorem signature_fits {signature : Bytes} (whole : signature.length = 256) :
    signature.length + 8 < 2 ^ 32 := by
  rw [whole]
  decide

def signatureChunk (signature : Bytes) (whole : signature.length = 256) : Chunk :=
  ⟨1, signature, signature_fits whole⟩

theorem typed_signatureChunk {signature : Bytes} (whole : signature.length = 256) :
    ∀ chunk ∈ [signatureChunk signature whole], chunk.type ≠ 0 :=
  List.forall_mem_singleton.mpr (by decide : (1 : UInt32) ≠ 0)

theorem nil_fits : ([] : Bytes).length + 8 < 2 ^ 32 := by decide

def emptyChunk : Chunk := ⟨0, [], nil_fits⟩

/-- The header, and one chunk with a signature. -/
def smallMetadata (signature : Bytes) (whole : signature.length = 256) : Metadata where
  header := smallHeader
  chunks := [signatureChunk signature whole]
  terminator := emptyChunk
  isHeader := length_smallHeader
  typed := typed_signatureChunk whole
  ends := rfl

theorem signature_smallMetadata {signature : Bytes} (whole : signature.length = 256) :
    (smallMetadata signature whole).signature = signature := by
  rw [← Metadata.signature_eq]
  exact List.take_of_length_le (Nat.le_of_eq whole)

def smallKey : Block := ⟨(List.range 16).map fun index => .ofNat (17 * index + 1), rfl⟩

def smallIv : Block := ⟨(List.range 16).map fun index => .ofNat (31 * index + 5), rfl⟩

/-- The signature of the key and the initialisation vector. -/
def smallSignature : Bytes :=
  sign mersenneKey.n mersenneKey.d (pssEncode .standard
    (emptyMessageHash (smallKey.bytes ++ smallIv.bytes)) (smallKey.bytes ++ smallIv.bytes))

theorem length_smallSignature : smallSignature.length = 256 := by
  have positive : 0 < mersenneKey.n := (Nat.two_pow_pos 2047).trans_le mersenneKey.large
  apply length_toBytesLe
  rw [bytes_pow]
  exact (Nat.mod_lt _ positive).trans mersenneKey.small

def smallRelease : Release .standard mersenneKey where
  metadata := smallMetadata smallSignature length_smallSignature
  h := emptyMessageHash (smallKey.bytes ++ smallIv.bytes)
  key := smallKey
  iv := smallIv
  host := smallHost
  remote := smallRemote
  digest := length_sha256 _
  signed := signature_smallMetadata length_smallSignature
  fits := by decide
  stated := le32At?_append _ _ _ _ List.length_replicate

/-- The small release, its key, and a disk that can be written to. -/
def smallDisk : Oracle cliCalls
  | _, .readFile path =>
    if path = "fw.bin" then .ok (smallRelease.container xorCipher)
    else .ok (mersenneKey.blob 0xA400)
  | _, .onFw (.writeFile ..) => .ok ()
  | _, .onFw (.showVersion _) | _, .onFw (.createDirAll _) => ()

theorem cli_unpacks_smallRelease :
    Unpacks ⟨"fw.bin", none, false, some "out"⟩ smallHost smallRemote
        ((cli .standard xorCipher true
          ["-d", "-k", "key.bin", "fw.bin", "-s", "out"] ()).exec smallDisk []) ∧
      ((cli .standard xorCipher true
        ["-d", "-k", "key.bin", "fw.bin", "-s", "out"] ()).exec smallDisk []).outcome =
          .returned (.ok 0, ()) := by
  have terminated : ¬ UnterminatedVersion smallRemote := fun ends => absurd ends.1 (by decide)
  obtain ⟨splits, succeeds⟩ := (cli_unpacks .standard xorCipher mersenneKey smallRelease 0xA400
    true ["-d", "-k", "key.bin", "fw.bin", "-s", "out"]
    ⟨⟨"fw.bin", none, false, some "out"⟩, true, some "key.bin", fun _ => rfl⟩ smallDisk rfl
    (fun _ => rfl) (fun _ isKey => by cases isKey; exact fun _ => rfl)).1 (by decide)
  exact ⟨splits.mpr terminated, succeeds terminated fun _ _ _ => rfl⟩

end RbctlDsl.Fwextract
