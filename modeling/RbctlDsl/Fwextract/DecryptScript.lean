import RbctlDsl.Fwextract.Release

/-!
# The decryption script

`decrypt_fw.py`, the script that `fwextract --decrypt` replaces.  It reads the chunks in a loop of
its own and drops what is left of the last block, so on a release it writes the same two images
exactly where the encrypted part is made of whole blocks.  The command line and what is printed are
left out.
-/

namespace RbctlDsl.Fwextract

open RbctlDsl.Lib

/-- `sys.exit` with a code, or an exception that nothing catches. -/
inductive Stop where
  | exit (code : Nat)
  | raised (exception : String)
  deriving DecidableEq

/-- The values of the command line. -/
structure ScriptArgs where
  fwPath : String
  rsaKeyPath : String
  output : Option String
  splitDir : Option String

inductive ScriptOp where
  | readBytes (path : String)
  | makedirs (dir : String)
  | writeBytes (file : OutFile) (contents : Bytes)
  deriving DecidableEq

abbrev scriptCalls : Signature where
  Op := ScriptOp
  Answer
    | .readBytes _ => Except String Bytes
    | _ => Except String Unit

abbrev Script (α : Type) := Method scriptCalls Unit Stop α

namespace Script

abbrev onFiles (op : scriptCalls.Op) : Script (scriptCalls.Answer op) := Method.perform op

/-- The value, or the exception. -/
def orRaise {α : Type} : Except String α → Script α
  | .ok value => pure value
  | .error exception => Method.fail (.raised exception)

/-- A partial function of the standard library. -/
def orRaising {α : Type} (exception : String) : Option α → Script α
  | some value => pure value
  | none => Method.fail (.raised exception)

/-- A slice, which ends where the bytes do. -/
def pySlice (data : Bytes) (start stop : Nat) : Bytes := (data.take stop).drop start

/-- `struct.unpack_from("<I", data, offset)`. -/
def unpackFrom (data : Bytes) (offset : Nat) : Script UInt32 :=
  orRaising "struct.error" (le32At? data offset)

/-- `assert`. -/
def assert (condition : Bool) : Script Unit :=
  if condition then pure () else Method.fail (.raised "AssertionError")

/-- `parse_rsa_pubkey_blob`: the modulus and the exponent. -/
def parseRsaPubkeyBlob (blob : Bytes) : Script (Nat × Nat) := do
  assert ((← orRaising "IndexError" blob[0]?) == 0x06)
  assert (pySlice blob 8 12 == rsaMagic)
  let bitlen ← unpackFrom blob 12
  let pubexp ← unpackFrom blob 16
  let modulus := pySlice blob 20 (20 + bitlen.toNat / 8)
  return (fromBytesLe modulus, pubexp.toNat)

/-- `extract_aes_key_from_pss`, where `none` is what does not verify.  From the trailer on it is
`readEm`, line by line. -/
def extractAesKeyFromPss (sha : Sha256) (signature : Bytes) (n e : Nat) :
    Script (Option (Bytes × Bytes)) := do
  let sigInt := fromBytesBe signature.reverse
  let recovered ← orRaising "ValueError" (modpow sigInt e n)
  let em ← orRaising "OverflowError"
    (if recovered < 256 ^ 256 then some (toBytesLe 256 recovered).reverse else none)
  match ← orRaising "IndexError" (readEm sha em) with
  | .ok found => pure (some found)
  | .error _ => pure none

/-- The variables of the loop over the chunks. -/
structure ChunkVars where
  offset : Nat
  total : Nat
  signature : Bytes
  foundSig : Bool

/-- The signature of a chunk, unless one has been found. -/
def takeSignature (data : Bytes) (vars : ChunkVars) (chunkType : UInt32) (chunkLen : Nat) :
    ChunkVars :=
  if chunkType = 1 ∧ ¬ vars.foundSig then
    let sigStart := vars.offset + 8
    -- a length below 8 makes the slice end before it starts
    let sigStop := (sigStart + min ((chunkLen : Int) - 8) 0x100).toNat
    { vars with signature := pySlice data sigStart sigStop, foundSig := true }
  else
    vars

/-- One pass of the loop. -/
def chunkPass (data : Bytes) (vars : ChunkVars) : Script (ChunkVars ⊕ ChunkVars) :=
  if vars.offset + 8 < data.length then do
    let chunkType ← unpackFrom data vars.offset
    let chunkLen ← unpackFrom data (vars.offset + 4)
    if chunkType = 0 then
      pure (.inr { vars with total := vars.total + chunkLen.toNat })
    else
      let vars := takeSignature data vars chunkType chunkLen.toNat
      pure (.inl { vars with
        total := vars.total + chunkLen.toNat, offset := vars.offset + chunkLen.toNat })
  else
    pure (.inr vars)

def parseChunks (fuel : Nat) (data : Bytes) : Script (Nat × Bytes) := do
  let vars ← Method.iterate (chunkPass data) fuel ⟨0x200, 0, [], false⟩
  return (0x200 + vars.total, vars.signature)

/-- `cipher.decrypt` for CBC, which the library defines on whole blocks. -/
def cbcDecrypt (cipher : BlockCipher) (key iv : Block) (data : Bytes) : Bytes :=
  joined (decryptChain Block.xor (cipher.decryptBlock key) iv (blocksOf data))

/-- `os.path.splitext(path)[0]`: what is before the last dot of the name, if the name does not only
have dots in front of it. -/
def splitextRoot (path : String) : String :=
  let name := (path.toList.reverse.takeWhile (· ≠ '/')).reverse
  let front := (name.reverse.dropWhile (· ≠ '.')).drop 1 |>.reverse
  if front.any (· ≠ '.') then
    String.ofList (path.toList.take (path.toList.length - name.length) ++ front)
  else
    path

/-- Write the two images, or the whole of it. -/
def writeResult (args : ScriptArgs) (tagLen totalImgLen : Nat) (result : Bytes) : Script Unit :=
  match args.splitDir with
  | some dir => do
    orRaise (← onFiles (.makedirs dir))
    orRaise (← onFiles
      (.writeBytes (.hostKernel dir) (pySlice result tagLen (tagLen + totalImgLen))))
    orRaise (← onFiles (.writeBytes (.remoteBoard dir) (result.drop (tagLen + totalImgLen))))
  | none => do
    let given := args.output.filter (· ≠ "")
    let out := given.getD (splitextRoot args.fwPath ++ "_decrypted.bin")
    orRaise (← onFiles (.writeBytes (.given out) result))

def main (sha : Sha256) (cipher : BlockCipher) (fuel : Nat) (args : ScriptArgs) :
    Script Unit := do
  let fw ← orRaise (← onFiles (.readBytes args.fwPath))
  let keyBlob ← orRaise (← onFiles (.readBytes args.rsaKeyPath))
  let (n, e) ← parseRsaPubkeyBlob keyBlob
  let _ ← unpackFrom fw 0
  let totalImgLen ← unpackFrom fw 0x70
  let (tagLen, signature) ← parseChunks fuel fw
  if signature.isEmpty then
    Method.fail (.exit 1)
  else do
    match ← extractAesKeyFromPss sha signature n e with
    | none => Method.fail (.exit 1)
    | some (aesKey, aesIv) => do
      let key ← orRaising "ValueError" (Block.ofBytes? aesKey)
      let iv ← orRaising "ValueError" (Block.ofBytes? aesIv)
      let encData := fw.drop tagLen
      let decLen := encData.length / 16 * 16
      let decrypted := cbcDecrypt cipher key iv (encData.take decLen)
      writeResult args tagLen totalImgLen.toNat (fw.take tagLen ++ decrypted)

/-! ## The loop over the chunks -/

section Chunks

theorem pySlice_middle (before middle rest : Bytes) :
    pySlice (before ++ (middle ++ rest)) before.length (before.length + middle.length) =
      middle := by
  rw [pySlice, List.take_length_add_append, List.drop_left, List.take_left]

/-- What the loop holds behind a chunk, where every signature chunk carries something. -/
def behindChunk (vars : ChunkVars) (chunk : Chunk) : ChunkVars :=
  let signature := nextSignature vars.signature chunk
  ⟨vars.offset + chunk.length, vars.total + chunk.length, signature, !signature.isEmpty⟩

theorem takeSignature_chunk {before rest : Bytes} {vars : ChunkVars} {chunk : Chunk}
    (offset : vars.offset = before.length) (found : vars.foundSig = !vars.signature.isEmpty)
    (carries : chunk.type = 1 → chunk.data ≠ []) :
    takeSignature (before ++ (chunk.bytes ++ rest)) vars chunk.type chunk.length =
      { vars with
        signature := nextSignature vars.signature chunk
        foundSig := !(nextSignature vars.signature chunk).isEmpty } := by
  have parts : before ++ (chunk.bytes ++ rest) =
      (before ++ (leBytes32 chunk.type ++ leBytes32 chunk.lengthWord)) ++
        (chunk.data.take 256 ++ (chunk.data.drop 256 ++ rest)) := by
    rw [← List.append_assoc (chunk.data.take 256), List.take_append_drop]
    simp [Chunk.bytes]
  have start : vars.offset + 8 =
      (before ++ (leBytes32 chunk.type ++ leBytes32 chunk.lengthWord)).length := by
    simp [offset]
  have stop : ((vars.offset + 8 : Nat) + min ((chunk.length : Int) - 8) 0x100).toNat =
      (before ++ (leBytes32 chunk.type ++ leBytes32 chunk.lengthWord)).length +
        (chunk.data.take 256).length := by
    rw [← start, List.length_take, Chunk.length]
    omega
  obtain ⟨position, total, signature, foundSig⟩ := vars
  dsimp only at found start stop
  subst found
  rw [takeSignature, nextSignature]
  dsimp only
  by_cases signs : chunk.type = 1
  · cases empty : signature.isEmpty with
    | true =>
        have visible : (chunk.data.take 256).isEmpty = false := by
          cases given : chunk.data with
          | nil => exact absurd given (carries signs)
          | cons byte rest => rfl
        rw [if_pos ⟨signs, by decide⟩, if_pos ⟨signs, rfl⟩, visible, stop, start, parts,
          pySlice_middle]
        rfl
    | false =>
        rw [if_neg fun both => both.2 rfl, if_neg fun both => absurd both.2 (by decide), empty]
  · rw [if_neg fun both => signs both.1, if_neg fun both => signs both.1]

theorem chunkPass_chunk {before rest : Bytes} {vars : ChunkVars} {chunk : Chunk}
    (offset : vars.offset = before.length) (found : vars.foundSig = !vars.signature.isEmpty)
    (carries : chunk.type = 1 → chunk.data ≠ []) (typed : chunk.type ≠ 0) (more : rest ≠ []) :
    chunkPass (before ++ (chunk.bytes ++ rest)) vars = pure (.inl (behindChunk vars chunk)) := by
  obtain ⟨type, word, -⟩ := chunkHead_append before rest chunk
  have room : vars.offset + 8 < (before ++ (chunk.bytes ++ rest)).length := by
    have long := List.length_pos_of_ne_nil more
    simp [offset, Chunk.length]
    omega
  have taken : takeSignature (before ++ (chunk.bytes ++ rest)) vars chunk.type chunk.length = _ :=
    takeSignature_chunk offset found carries
  rw [← offset] at type word
  rw [chunkPass, if_pos room, unpackFrom, unpackFrom, type, word]
  change (if chunk.type = 0 then _ else _ : Script (ChunkVars ⊕ ChunkVars)) = _
  rw [if_neg typed, Chunk.toNat_lengthWord, taken]
  rfl

theorem chunkPass_terminator {before rest : Bytes} {vars : ChunkVars} {chunk : Chunk}
    (offset : vars.offset = before.length) (ends : chunk.type = 0) (more : rest ≠ []) :
    chunkPass (before ++ (chunk.bytes ++ rest)) vars =
      pure (.inr { vars with total := vars.total + chunk.length }) := by
  obtain ⟨type, word, -⟩ := chunkHead_append before rest chunk
  have room : vars.offset + 8 < (before ++ (chunk.bytes ++ rest)).length := by
    have long := List.length_pos_of_ne_nil more
    simp [offset, Chunk.length]
    omega
  rw [← offset] at type word
  rw [chunkPass, if_pos room, unpackFrom, unpackFrom, type, word]
  change (if chunk.type = 0 then _ else _ : Script (ChunkVars ⊕ ChunkVars)) = _
  rw [if_pos ends, Chunk.toNat_lengthWord]

theorem iterate_again {body : ChunkVars → Script (ChunkVars ⊕ ChunkVars)}
    {vars next : ChunkVars} (pass : body vars = pure (.inl next)) (fuel : Nat) :
    Method.iterate body (fuel + 1) vars = Method.iterate body fuel next := by
  rw [Method.iterate, pass]
  rfl

theorem iterate_leave {body : ChunkVars → Script (ChunkVars ⊕ ChunkVars)}
    {vars last : ChunkVars} (pass : body vars = pure (.inr last)) (fuel : Nat) :
    Method.iterate body (fuel + 1) vars = pure last := by
  rw [Method.iterate, pass]
  rfl

/-- The loop walks over the chunks, and stops behind the terminator. -/
theorem iterate_chunks {before trailing : Bytes} {chunks : List Chunk} {terminator : Chunk}
    {vars : ChunkVars} {fuel : Nat} (offset : vars.offset = before.length)
    (found : vars.foundSig = !vars.signature.isEmpty) (typed : ∀ chunk ∈ chunks, chunk.type ≠ 0)
    (carries : ∀ chunk ∈ chunks, chunk.type = 1 → chunk.data ≠ []) (ends : terminator.type = 0)
    (more : trailing ≠ []) (enough : chunks.length < fuel) :
    ∃ last, Method.iterate (chunkPass (before ++ (chunks.flatMap Chunk.bytes ++
          (terminator.bytes ++ trailing)))) fuel vars = pure last ∧
      last.total = vars.total + ((chunks ++ [terminator]).map Chunk.length).sum ∧
      last.signature = chunks.foldl nextSignature vars.signature := by
  induction chunks generalizing before vars fuel with
  | nil =>
      obtain ⟨fuel, rfl⟩ := Nat.exists_eq_add_one_of_ne_zero (Nat.ne_of_gt enough)
      refine ⟨_, iterate_leave (chunkPass_terminator offset ends more) fuel, ?_, rfl⟩
      simp
  | cons chunk chunks ih =>
      obtain ⟨fuel, rfl⟩ := Nat.exists_eq_add_one_of_ne_zero
        (Nat.ne_of_gt (Nat.lt_of_le_of_lt (Nat.zero_le _) enough))
      rw [List.forall_mem_cons] at typed carries
      have behind : chunks.flatMap Chunk.bytes ++ (terminator.bytes ++ trailing) ≠ [] := by
        simp [more]
      have pass := chunkPass_chunk offset found carries.1 typed.1 behind
      obtain ⟨last, rest, total, signature⟩ := @ih (before ++ chunk.bytes) (behindChunk vars chunk)
        fuel (by simp [behindChunk, offset]) rfl typed.2 carries.2 (Nat.lt_of_succ_lt_succ enough)
      rw [List.flatMap_cons, List.append_assoc]
      rw [List.append_assoc] at rest
      refine ⟨last, (iterate_again pass fuel).trans rest, ?_, signature⟩
      rw [total, List.cons_append, List.map_cons, List.sum_cons, ← Nat.add_assoc]
      rfl

/-- On well-formed metadata with something behind it the loop reads what `parse_chunks` of
`fwextract` does, if every signature chunk carries something. -/
theorem parseChunks_bytes {metadata : Metadata} {trailing : Bytes} {fuel : Nat}
    (carries : ∀ chunk ∈ metadata.chunks, chunk.type = 1 → chunk.data ≠ [])
    (more : trailing ≠ []) (enough : metadata.chunks.length < fuel) :
    parseChunks fuel (metadata.bytes ++ trailing) =
      pure (metadata.tagLen, metadata.signature) := by
  obtain ⟨last, loop, total, signature⟩ := @iterate_chunks metadata.header trailing metadata.chunks
    metadata.terminator ⟨0x200, 0, [], false⟩ fuel metadata.isHeader.symm rfl metadata.typed carries
    metadata.ends more enough
  rw [parseChunks, Metadata.bytes, List.append_assoc, List.append_assoc, loop]
  change (pure (0x200 + last.total, last.signature) : Script (Nat × Bytes)) = _
  rw [total, signature, metadata.signature_eq, Nat.zero_add]
  rfl

end Chunks

/-! ## The run on a release -/

section Run

variable {sha : Sha256} {signer : SigningKey} {release : Release sha signer}
  {cipher : BlockCipher} {oracle : Oracle scriptCalls} {args : ScriptArgs} {alg : UInt32}

theorem orRaising_some_bind {α β : Type} (exception : String) (value : α) (next : α → Script β) :
    (orRaising exception (some value) >>= next) = next value := rfl

theorem parseRsaPubkeyBlob_blob (signer : SigningKey) (alg : UInt32) :
    parseRsaPubkeyBlob (signer.blob alg) = pure (signer.n, signer.e.toNat) := by
  have whole : (toBytesLe 256 signer.n).length = 256 :=
    length_toBytesLe (by rw [bytes_pow]; exact signer.small)
  have kind : (signer.blob alg)[0]? = some 0x06 := rfl
  have magic : pySlice (signer.blob alg) 8 12 = rsaMagic := rfl
  have bitlen : le32At? (signer.blob alg) 12 = some 2048 :=
    le32At?_append ([0x06, 0x02, 0, 0] ++ (leBytes32 alg ++ rsaMagic)) _ 2048 12 rfl
  have pubexp : le32At? (signer.blob alg) 16 = some signer.e :=
    le32At?_append ([0x06, 0x02, 0, 0] ++ (leBytes32 alg ++ (rsaMagic ++ leBytes32 2048)))
      _ signer.e 16 rfl
  have modulus : pySlice (signer.blob alg) 20 (20 + (2048 : UInt32).toNat / 8) =
      toBytesLe 256 signer.n := by
    have slice := pySlice_middle ([0x06, 0x02, 0, 0] ++ (leBytes32 alg ++ (rsaMagic ++
      (leBytes32 2048 ++ leBytes32 signer.e)))) (toBytesLe 256 signer.n) []
    rw [whole, List.append_nil] at slice
    exact slice
  rw [parseRsaPubkeyBlob, kind, magic, unpackFrom, unpackFrom, bitlen, pubexp]
  change (pure (fromBytesLe (pySlice (signer.blob alg) 20 (20 + (2048 : UInt32).toNat / 8)),
    signer.e.toNat) : Script (Nat × Nat)) = _
  rw [modulus, fromBytesLe_toBytesLe]

/-- The script reads the key that `extract_aes_key` does. -/
theorem extractAesKeyFromPss_signature (release : Release sha signer) :
    extractAesKeyFromPss sha release.metadata.signature signer.n signer.e.toNat =
      pure (some (release.key.bytes, release.iv.bytes)) := by
  obtain ⟨-, recovered⟩ := release.recoverEm_signature
  rw [recoverEm_eq] at recovered
  split at recovered
  next fits =>
    obtain ⟨nonzero, below⟩ := fits
    have power : modpow (fromBytesBe release.metadata.signature.reverse) signer.e.toNat signer.n =
        some (fromBytesLe release.metadata.signature ^ signer.e.toNat % signer.n) := by
      rw [modpow, if_neg nonzero, fromBytesBe, List.reverse_reverse]
    rw [extractAesKeyFromPss, power, orRaising_some_bind, if_pos below, recovered,
      orRaising_some_bind, release.readEm_salt]
    rfl
  next => cases recovered

/-- The script decrypts the whole blocks. -/
theorem cbcDecrypt_encrypted (release : Release sha signer) (cipher : BlockCipher) :
    cbcDecrypt cipher release.key release.iv ((release.encrypted cipher).take
        ((release.encrypted cipher).length / 16 * 16)) =
      joined (blocksOf (release.host ++ release.remote)) := by
  have short := short_restOf (release.host ++ release.remote)
  have front : (joined (encryptChain Block.xor (cipher.encryptBlock release.key) release.iv
      (blocksOf (release.host ++ release.remote)))).length =
      (release.encrypted cipher).length / 16 * 16 := by
    rw [Release.encrypted, cbcEncrypt, List.length_append, length_joined]
    omega
  have chain := @decryptChain_encryptChain Block Block.xor (cipher.encryptBlock release.key)
    (cipher.decryptBlock release.key) Block.cancels_xor (cipher.decrypt_encrypt release.key)
    release.iv (blocksOf (release.host ++ release.remote))
  have whole := @blocksOf_joined [] (by decide) (encryptChain Block.xor
    (cipher.encryptBlock release.key) release.iv (blocksOf (release.host ++ release.remote)))
  rw [List.append_nil] at whole
  rw [← front, Release.encrypted, cbcEncrypt, List.take_left, cbcDecrypt, whole, chain]

theorem orRaise_ok_bind {α β : Type} (value : α) (next : α → Script β) :
    (orRaise (.ok value) >>= next) = next value := rfl

theorem pure_script_bind {α β : Type} (value : α) (next : α → Script β) :
    ((pure value : Script α) >>= next) = next value := rfl

theorem exec_writeResult {dir : String} (split : args.splitDir = some dir)
    (makes : ∀ history, oracle history (.makedirs dir) = .ok ())
    (writes : ∀ history file contents, oracle history (.writeBytes file contents) = .ok ())
    (tagLen totalImgLen : Nat) (result : Bytes) (history : History scriptCalls) :
    (writeResult args tagLen totalImgLen result ()).exec oracle history =
      ⟨[⟨.makedirs dir, .ok ()⟩,
        ⟨.writeBytes (.hostKernel dir) (pySlice result tagLen (tagLen + totalImgLen)), .ok ()⟩,
        ⟨.writeBytes (.remoteBoard dir) (result.drop (tagLen + totalImgLen)), .ok ()⟩],
        .returned (.ok (), ())⟩ := by
  simp only [writeResult, split]
  rw [Method.exec_perform_bind _ (makes _)]
  simp only [orRaise_ok_bind]
  rw [Method.exec_perform_bind _ (writes _ _ _)]
  simp only [orRaise_ok_bind]
  rw [Method.exec_perform_bind _ (writes _ _ _)]
  rfl

/-- The bytes of the release with its whole blocks decrypted. -/
theorem exec_main {fuel : Nat} {dir : String} (split : args.splitDir = some dir)
    (carries : ∀ chunk ∈ release.metadata.chunks, chunk.type = 1 → chunk.data ≠ [])
    (anything : release.host ++ release.remote ≠ [])
    (enough : release.metadata.chunks.length < fuel)
    (readsFw : ∀ history, oracle history (.readBytes args.fwPath) =
      .ok (release.container cipher))
    (readsKey : ∀ history, oracle history (.readBytes args.rsaKeyPath) = .ok (signer.blob alg))
    (makes : ∀ history, oracle history (.makedirs dir) = .ok ())
    (writes : ∀ history file contents, oracle history (.writeBytes file contents) = .ok ()) :
    (main sha cipher fuel args ()).exec oracle [] =
      ⟨[⟨.readBytes args.fwPath, .ok (release.container cipher)⟩,
        ⟨.readBytes args.rsaKeyPath, .ok (signer.blob alg)⟩, ⟨.makedirs dir, .ok ()⟩,
        ⟨.writeBytes (.hostKernel dir)
          ((joined (blocksOf (release.host ++ release.remote))).take release.host.length),
          .ok ()⟩,
        ⟨.writeBytes (.remoteBoard dir)
          ((joined (blocksOf (release.host ++ release.remote))).drop release.host.length),
          .ok ()⟩],
        .returned (.ok (), ())⟩ := by
  have behind : release.encrypted cipher ≠ [] := by
    intro empty
    have long := release.length_encrypted cipher
    rw [empty, List.length_nil, ← List.length_append] at long
    exact anything (List.eq_nil_of_length_eq_zero long.symm)
  have chunks : parseChunks fuel (release.container cipher) =
      pure (release.metadata.tagLen, release.metadata.signature) :=
    parseChunks_bytes carries behind enough
  have stated : le32At? (release.container cipher) 0x70 = some (.ofNat release.host.length) := by
    rw [Release.container, Metadata.bytes, List.append_assoc]
    exact le32At?_append_right release.stated _
  have hostLen : (UInt32.ofNat release.host.length).toNat = release.host.length :=
    UInt32.toNat_ofNat_of_lt' release.fits
  obtain ⟨version, isVersion⟩ : ∃ version, le32At? (release.container cipher) 0 = some version := by
    obtain ⟨tag, parsed, -⟩ := release.parse_container cipher
    refine Option.isSome_iff_exists.mp ((le32At?_isSome_iff _ _).mpr ?_)
    exact Nat.le_trans (by decide) (TagHeader.length_of_parse parsed)
  have body : (release.container cipher).drop release.metadata.tagLen =
      release.encrypted cipher := by
    rw [Release.container, ← release.metadata.length_bytes, List.drop_left]
  have header : (release.container cipher).take release.metadata.tagLen =
      release.metadata.bytes := by
    rw [Release.container, ← release.metadata.length_bytes, List.take_left]
  have host (data : Bytes) : pySlice (release.metadata.bytes ++ data) release.metadata.tagLen
      (release.metadata.tagLen + release.host.length) = data.take release.host.length := by
    rw [pySlice, ← release.metadata.length_bytes, List.take_length_add_append, List.drop_left]
  have remote (data : Bytes) : (release.metadata.bytes ++ data).drop
      (release.metadata.tagLen + release.host.length) = data.drop release.host.length := by
    rw [← List.drop_drop, ← release.metadata.length_bytes, List.drop_left]
  rw [main, Method.exec_perform_bind _ (readsFw _)]
  simp only [orRaise_ok_bind]
  rw [Method.exec_perform_bind _ (readsKey _)]
  simp only [orRaise_ok_bind, parseRsaPubkeyBlob_blob, unpackFrom, isVersion, stated, chunks,
    orRaising_some_bind, pure_script_bind, release.signature_ne_nil,
    extractAesKeyFromPss_signature, Block.ofBytes?_bytes, hostLen, body, header,
    cbcDecrypt_encrypted, Bool.false_eq_true, if_false, exec_writeResult split makes writes]
  rw [host, remote]

end Run

/-! ## Agreement -/

/-- The files that have been written, with their contents. -/
def written (events : History scriptCalls) : List (OutFile × Bytes) :=
  events.filterMap fun event => match event.op with
    | .writeBytes file contents => some (file, contents)
    | _ => none

/-- Both programs are asked to split a release into a directory, on disks on which nothing fails. -/
structure SameRelease {sha : Sha256} {signer : SigningKey} (release : Release sha signer)
    (cipher : BlockCipher) (alg : UInt32) (dir : String) (options : Options)
    (oracle : Oracle cliCalls) (args : ScriptArgs) (scriptOracle : Oracle scriptCalls) : Prop where
  decrypts : options.decrypt = true
  splitDir : options.splitDir = some dir
  readsFile : Reads oracle options.fwPath (release.container cipher)
  readsKey : ∀ keyPath, options.rsaKey = some keyPath → Reads oracle keyPath (signer.blob alg)
  writes : Writes oracle
  scriptDir : args.splitDir = some dir
  scriptReadsFw : ∀ history, scriptOracle history (.readBytes args.fwPath) =
    .ok (release.container cipher)
  scriptReadsKey : ∀ history, scriptOracle history (.readBytes args.rsaKeyPath) =
    .ok (signer.blob alg)
  scriptMakes : ∀ history, scriptOracle history (.makedirs dir) = .ok ()
  scriptWrites : ∀ history file contents,
    scriptOracle history (.writeBytes file contents) = .ok ()

theorem joined_blocksOf_eq_iff (data : Bytes) :
    joined (blocksOf data) = data ↔ 16 ∣ data.length := by
  have whole := joined_blocksOf data
  have short := short_restOf data
  have long := congrArg List.length whole
  rw [List.length_append, length_joined] at long
  constructor
  · intro same
    rw [← same, length_joined]
    exact Nat.dvd_mul_right _ _
  · rintro ⟨count, total⟩
    have nothing : restOf data = [] := List.eq_nil_of_length_eq_zero (by omega)
    rwa [nothing, List.append_nil] at whole

section Unpacked

variable {sha : Sha256} {signer : SigningKey} {release : Release sha signer}
  {cipher : BlockCipher} {alg : UInt32} {dir : String} {options : Options}
  {oracle : Oracle cliCalls} {args : ScriptArgs} {scriptOracle : Oracle scriptCalls}

/-- What the program writes of a release that it can unpack. -/
theorem diskWrites_main (same : SameRelease release cipher alg dir options oracle args scriptOracle)
    (remains : release.remote ≠ []) (terminated : ¬ UnterminatedVersion release.remote) :
    diskWrites ((Fwextract.main sha cipher options ()).exec oracle []).events =
      [(.hostKernel dir, release.host), (.remoteBoard dir, release.remote)] := by
  have parts : release.remotePart cipher options.decrypt = release.remote ∧
      release.hostPart cipher options.decrypt = release.host := by
    rw [same.decrypts]
    exact ⟨rfl, rfl⟩
  have ends := terminated
  rw [← parts.1] at ends
  have unpacks := (unpacks_main same.readsFile same.readsKey remains).mpr ends
  have wrote := unpacks.complete (outcome_main same.readsFile same.readsKey same.writes ends)
  rw [filesOf, same.splitDir, parts.1, parts.2] at wrote
  exact wrote

/-- A version that does not end stops the program before it writes. -/
theorem diskWrites_main_unterminated
    (same : SameRelease release cipher alg dir options oracle args scriptOracle)
    (unterminated : UnterminatedVersion release.remote) :
    diskWrites ((Fwextract.main sha cipher options ()).exec oracle []).events = [] := by
  obtain ⟨before, silent, run⟩ := Fwextract.exec_main same.readsFile same.readsKey
  have behind := @drop_data sha signer release cipher options.decrypt
  have isRemote : release.remotePart cipher options.decrypt = release.remote := by
    rw [same.decrypts]
    rfl
  rw [← isRemote, ← behind] at unterminated
  obtain ⟨message, panics⟩ := split_panics options.toArgs (inOrder_data options.decrypt)
    unterminated
  rw [run, panics]
  exact (List.append_nil before).symm ▸ silent

end Unpacked

/-- The disk of the small release, for the script. -/
def smallScriptDisk : Oracle scriptCalls
  | _, .readBytes path =>
    if path = "fw.bin" then .ok (smallRelease.container xorCipher)
    else .ok (mersenneKey.blob 0xA400)
  | _, .makedirs _ | _, .writeBytes .. => .ok ()

theorem sameRelease_smallRelease :
    SameRelease smallRelease xorCipher 0xA400 "out"
      ⟨⟨"fw.bin", none, false, some "out"⟩, true, some "key.bin", fun _ => rfl⟩ smallDisk
      ⟨"fw.bin", "key.bin", none, some "out"⟩ smallScriptDisk where
  decrypts := rfl
  splitDir := rfl
  readsFile _ := rfl
  readsKey _ isKey := by
    cases isKey
    exact fun _ => rfl
  writes _ _ _ := rfl
  scriptDir := rfl
  scriptReadsFw _ := rfl
  scriptReadsKey _ := rfl
  scriptMakes _ := rfl
  scriptWrites _ _ _ := rfl

theorem carries_smallMetadata {signature : Bytes} (whole : signature.length = 256) :
    ∀ chunk ∈ (smallMetadata signature whole).chunks, chunk.type = 1 → chunk.data ≠ [] := by
  intro chunk member _
  cases List.mem_singleton.mp member
  exact List.ne_nil_of_length_eq_add_one whole

end Script

end RbctlDsl.Fwextract
