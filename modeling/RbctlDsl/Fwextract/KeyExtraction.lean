import RbctlDsl.Lib.Sha256

/-!
# Key extraction

The `decrypt` module of `fwextract`, up to the AES key: the public key from a CryptoAPI blob,
and the salt of the PSS signature that it verifies.  `BigUint` is a natural number.

`none` is a panic: an index out of bounds, a subtraction below zero, or a zero modulus.
-/

namespace RbctlDsl.Fwextract

open RbctlDsl.Lib

/-- `RsaPublicKey`. -/
structure RsaPublicKey where
  n : Nat
  e : Nat
  deriving DecidableEq, Repr

/-! ## The blob of a public key -/

def hexDigit (value : Nat) : Char :=
  if value < 10 then Char.ofNat (48 + value) else Char.ofNat (55 + value)

/-- `{:02X}`. -/
def upperHex (byte : UInt8) : String :=
  String.ofList [hexDigit (byte.toNat / 16), hexDigit (byte.toNat % 16)]

/-- `RSA1`. -/
def rsaMagic : Bytes := [0x52, 0x53, 0x41, 0x31]

def parseRsaPubkeyBlob (blob : Bytes) : Option (Except String RsaPublicKey) :=
  if blob.length < 20 then
    some (.error "blob too short")
  else do
    let bType ← blob[0]?
    if bType ≠ 0x06 then
      some (.error s!"not a PUBLICKEYBLOB (bType=0x{upperHex bType})")
    else do
      let magic ← slice? blob 8 12
      if magic ≠ rsaMagic then
        some (.error "magic is not RSA1")
      else do
        let bitlen ← le32At? blob 12
        let pubexp ← le32At? blob 16
        let modulusLen := bitlen.toNat / 8
        if blob.length < 20 + modulusLen then
          some (.error "blob truncated")
        else do
          let modulusLe ← slice? blob 20 (20 + modulusLen)
          some (.ok ⟨fromBytesBe modulusLe.reverse, fromBytesBe (beBytes32 pubexp)⟩)

/-! ## Mask generation -/

/-- `Sha256`: a digest of 32 bytes for any data. -/
structure Sha256 where
  digest : Bytes → Bytes
  length_digest : ∀ data, (digest data).length = 32

/-- The digests of the crate. -/
def Sha256.standard : Sha256 := ⟨sha256, length_sha256⟩

/-- The digest that is always zero. -/
def zeroDigest : Sha256 := ⟨fun _ => List.replicate 32 0, fun _ => List.length_replicate⟩

def mgf1From (sha : Sha256) (seed : Bytes) (length : Nat) (counter : UInt32) (result : Bytes) :
    Bytes :=
  if result.length < length then
    mgf1From sha seed length (counter + 1) (result ++ sha.digest (seed ++ beBytes32 counter))
  else
    result.take length
termination_by length - result.length
decreasing_by
  rw [List.length_append, sha.length_digest]
  omega

def mgf1 (sha : Sha256) (seed : Bytes) (length : Nat) : Bytes := mgf1From sha seed length 0 []

/-! ## The salt of a signature -/

/-- `modpow`. -/
def modpow (base exponent modulus : Nat) : Option Nat :=
  if modulus = 0 then none else some (base ^ exponent % modulus)

/-- A subtraction of `usize`.  Below zero the vector of that length cannot be allocated. -/
def checkedSub (minuend subtrahend : Nat) : Option Nat :=
  if subtrahend ≤ minuend then some (minuend - subtrahend) else none

/-- What the signature verifies to, padded to 256 bytes. -/
def recoverEm (signature : Bytes) (key : RsaPublicKey) : Option Bytes := do
  let sigInt := fromBytesBe signature.reverse
  let recovered ← modpow sigInt key.e key.n
  let em := toBytesBe recovered
  let padding ← checkedSub 256 em.length
  some (List.replicate padding 0 ++ em)

/-- The data block without its mask, and without its highest bit. -/
def unmask (sha : Sha256) (h maskedDb : Bytes) : Option Bytes :=
  match List.zipWith (· ^^^ ·) maskedDb (mgf1 sha h maskedDb.length) with
  | first :: rest => some ((first &&& 0x7F) :: rest)
  | [] => none

/-- The loop that skips the zeros before the separator. -/
def skipZeros (db : Bytes) (idx : Nat) : Nat :=
  if db[idx]? = some 0 then skipZeros db (idx + 1) else idx
termination_by db.length - idx
decreasing_by
  have inside := (List.getElem?_eq_some_iff.mp ‹_›).1
  omega

/-- The key and the initialisation vector in a data block. -/
def readSalt (db : Bytes) : Option (Except String (Bytes × Bytes)) :=
  let idx := skipZeros db 0
  if db[idx]? ≠ some 0x01 then
    some (.error "PSS: no 0x01 separator found")
  else do
    let salt ← slice? db (idx + 1) db.length
    if salt.length < 32 then
      some (.error s!"salt too short: {salt.length} bytes")
    else do
      let aesKey ← slice? salt 0 16
      let aesIv ← slice? salt 16 32
      some (.ok (aesKey, aesIv))

/-- `extract_aes_key` from the check of the trailer on. -/
def readEm (sha : Sha256) (em : Bytes) : Option (Except String (Bytes × Bytes)) := do
  let trailer ← em[255]?
  if trailer ≠ 0xBC then
    some (.error "PSS verification failed: no 0xBC trailer")
  else do
    let hLen := 32
    let emLen := 256
    let h ← slice? em (emLen - hLen - 1) (emLen - 1)
    let maskedDb ← slice? em 0 (emLen - hLen - 1)
    let db ← unmask sha h maskedDb
    readSalt db

def extractAesKey (sha : Sha256) (signature : Bytes) (key : RsaPublicKey) :
    Option (Except String (Bytes × Bytes)) :=
  if signature.length ≠ 256 then
    some (.error s!"expected 256-byte signature, got {signature.length}")
  else do
    let em ← recoverEm signature key
    readEm sha em

/-- The two of them in a row, as `main` calls them. -/
def extractKey (sha : Sha256) (blob signature : Bytes) :
    Option (Except String (Bytes × Bytes)) := do
  match ← parseRsaPubkeyBlob blob with
  | .error error => some (.error error)
  | .ok key => extractAesKey sha signature key

/-! ## What a blob declares -/

def declaredBitlen (blob : Bytes) : Nat := fromBytesLe ((blob.drop 12).take 4)

def declaredExponent (blob : Bytes) : Nat := fromBytesLe ((blob.drop 16).take 4)

def declaredModulus (blob : Bytes) : Nat :=
  fromBytesLe ((blob.drop 20).take (declaredBitlen blob / 8))

/-- A blob of the layout that `parse_rsa_pubkey_blob` documents. -/
structure IsKeyBlob (blob : Bytes) : Prop where
  head : 20 ≤ blob.length
  kind : blob[0]? = some 0x06
  magic : (blob.drop 8).take 4 = rsaMagic
  whole : 20 + declaredBitlen blob / 8 ≤ blob.length

/-- A blob is accepted, with what it declares, or rejected with an error. -/
theorem parseRsaPubkeyBlob_cases (blob : Bytes) :
    (IsKeyBlob blob ∧
        parseRsaPubkeyBlob blob = some (.ok ⟨declaredModulus blob, declaredExponent blob⟩)) ∨
      (¬ IsKeyBlob blob ∧ ∃ message, parseRsaPubkeyBlob blob = some (.error message)) := by
  by_cases short : blob.length < 20
  · exact .inr ⟨fun isKey => Nat.not_lt.mpr isKey.head short, _, if_pos short⟩
  obtain ⟨bType, kind⟩ : ∃ bType, blob[0]? = some bType :=
    ⟨_, List.getElem?_eq_getElem (by omega)⟩
  have magic : slice? blob 8 12 = some ((blob.drop 8).take 4) :=
    slice?_eq_some (by decide) (by omega)
  obtain ⟨bitlen, readBitlen, bitlenValue⟩ := @exists_le32At? blob 12 (by omega)
  obtain ⟨pubexp, readPubexp, pubexpValue⟩ := @exists_le32At? blob 16 (by omega)
  rw [parseRsaPubkeyBlob, if_neg short, kind, magic, readBitlen, readPubexp]
  dsimp only [Option.bind_eq_bind, Option.bind_some]
  by_cases otherKind : bType ≠ 0x06
  · refine .inr ⟨fun isKey => otherKind ?_, _, if_pos otherKind⟩
    exact Option.some.inj (kind.symm.trans isKey.kind)
  rw [if_neg otherKind]
  by_cases otherMagic : (blob.drop 8).take 4 ≠ rsaMagic
  · exact .inr ⟨fun isKey => otherMagic isKey.magic, _, if_pos otherMagic⟩
  rw [if_neg otherMagic]
  by_cases truncated : blob.length < 20 + bitlen.toNat / 8
  · refine .inr ⟨fun isKey => Nat.not_lt.mpr isKey.whole ?_, _, if_pos truncated⟩
    rwa [declaredBitlen, ← bitlenValue]
  rw [if_neg truncated, slice?_eq_some (Nat.le_add_right _ _) (Nat.not_lt.mp truncated)]
  refine .inl ⟨⟨Nat.not_lt.mp short, ?_, Classical.not_not.mp otherMagic, ?_⟩, ?_⟩
  · rw [kind, Classical.not_not.mp otherKind]
  · rw [declaredBitlen, ← bitlenValue]
    exact Nat.not_lt.mp truncated
  · rw [Option.bind_some, fromBytesBe_beBytes32, fromBytesBe, List.reverse_reverse,
      Nat.add_sub_cancel_left, bitlenValue, pubexpValue]
    rfl

/-- The key of an accepted blob is what it declares. -/
theorem extractKey_of_isKeyBlob (sha : Sha256) {blob : Bytes} (signature : Bytes)
    (isKey : IsKeyBlob blob) :
    extractKey sha blob signature =
      extractAesKey sha signature ⟨declaredModulus blob, declaredExponent blob⟩ := by
  rcases parseRsaPubkeyBlob_cases blob with ⟨-, accepted⟩ | ⟨notKey, -⟩
  · rw [extractKey, accepted]
    rfl
  · exact absurd isKey notKey

/-- The blob of a key, by its algorithm, bit length, exponent and modulus. -/
def keyBlob (alg bitlen pubexp : UInt32) (modulusLe : Bytes) : Bytes :=
  [0x06, 0x02, 0, 0] ++ (leBytes32 alg ++ (rsaMagic ++ (leBytes32 bitlen ++
    (leBytes32 pubexp ++ modulusLe))))

section KeyBlob

variable (alg bitlen pubexp : UInt32) (modulusLe : Bytes)

@[simp] theorem declaredBitlen_keyBlob :
    declaredBitlen (keyBlob alg bitlen pubexp modulusLe) = bitlen.toNat :=
  fromBytesBe_beBytes32 bitlen

@[simp] theorem declaredExponent_keyBlob :
    declaredExponent (keyBlob alg bitlen pubexp modulusLe) = pubexp.toNat :=
  fromBytesBe_beBytes32 pubexp

variable {bitlen modulusLe}

theorem declaredModulus_keyBlob (whole : modulusLe.length = bitlen.toNat / 8) :
    declaredModulus (keyBlob alg bitlen pubexp modulusLe) = fromBytesLe modulusLe := by
  have behind : (keyBlob alg bitlen pubexp modulusLe).drop 20 = modulusLe := rfl
  rw [declaredModulus, declaredBitlen_keyBlob, behind, ← whole, List.take_length]

theorem isKeyBlob_keyBlob (whole : modulusLe.length = bitlen.toNat / 8) :
    IsKeyBlob (keyBlob alg bitlen pubexp modulusLe) := by
  have total : (keyBlob alg bitlen pubexp modulusLe).length = 20 + modulusLe.length := by
    simp [keyBlob, rsaMagic]
    omega
  refine ⟨?_, rfl, rfl, ?_⟩
  · rw [total]
    exact Nat.le_add_right _ _
  · rw [total, declaredBitlen_keyBlob, whole]

end KeyBlob

/-! ## What a signature verifies to -/

/-- Recovering stops in a panic where the power is not below `2 ^ 2048`. -/
theorem recoverEm_eq (signature : Bytes) (key : RsaPublicKey) :
    recoverEm signature key =
      if key.n ≠ 0 ∧ fromBytesLe signature ^ key.e % key.n < 256 ^ 256 then
        some (toBytesLe 256 (fromBytesLe signature ^ key.e % key.n)).reverse
      else
        none := by
  rw [recoverEm, modpow, fromBytesBe, List.reverse_reverse]
  by_cases zero : key.n = 0
  · simp [zero]
  · rw [if_neg zero]
    dsimp only [Option.bind_eq_bind, Option.bind_some]
    rw [checkedSub]
    by_cases fits : fromBytesLe signature ^ key.e % key.n < 256 ^ 256
    · rw [if_pos ((length_toBytesBe_le_iff (by decide) _).mpr fits), if_pos ⟨zero, fits⟩,
        ← pad_toBytesBe (by decide) fits]
      rfl
    · rw [if_neg fun short => fits ((length_toBytesBe_le_iff (by decide) _).mp short),
        if_neg fun both => fits both.2]
      rfl

theorem length_mgf1From (sha : Sha256) (seed : Bytes) (length : Nat) (counter : UInt32)
    (result : Bytes) : (mgf1From sha seed length counter result).length = length := by
  fun_induction mgf1From sha seed length counter result with
  | case1 counter result short ih => exact ih
  | case2 counter result long => simpa using long

@[simp] theorem length_mgf1 (sha : Sha256) (seed : Bytes) (length : Nat) :
    (mgf1 sha seed length).length = length := length_mgf1From sha seed length 0 []

theorem unmask_isSome (sha : Sha256) (h : Bytes) {maskedDb : Bytes}
    (nonempty : 0 < maskedDb.length) : (unmask sha h maskedDb).isSome := by
  have long : (List.zipWith (· ^^^ ·) maskedDb (mgf1 sha h maskedDb.length)).length =
      maskedDb.length := by
    rw [List.length_zipWith, length_mgf1, Nat.min_self]
  rw [unmask]
  split
  next => rfl
  next empty =>
    rw [empty] at long
    exact absurd nonempty (Nat.not_lt.mpr (Nat.le_of_eq long.symm))

theorem readSalt_isSome (db : Bytes) : (readSalt db).isSome := by
  rw [readSalt]
  split
  · rfl
  next found =>
    have inside := (List.getElem?_eq_some_iff.mp (Classical.not_not.mp found)).1
    rw [slice?_eq_some inside (Nat.le_refl _), Option.bind_eq_bind, Option.bind_some]
    split
    · rfl
    next long =>
      rw [slice?_eq_some (Nat.zero_le _) (by omega), slice?_eq_some (by decide) (by omega)]
      rfl

theorem readEm_isSome (sha : Sha256) {em : Bytes} (whole : em.length = 256) :
    (readEm sha em).isSome := by
  rw [readEm, List.getElem?_eq_getElem (by omega), Option.bind_eq_bind, Option.bind_some]
  split
  · rfl
  · dsimp only
    have masked : 0 < ((em.drop 0).take (256 - 32 - 1 - 0)).length := by
      rw [List.length_take, List.drop_zero, whole]
      decide
    obtain ⟨db, unmasked⟩ := Option.isSome_iff_exists.mp
      (unmask_isSome sha ((em.drop (256 - 32 - 1)).take (256 - 1 - (256 - 32 - 1))) masked)
    rw [slice?_eq_some (by decide) (by omega), slice?_eq_some (by decide) (by omega)]
    dsimp only [Option.bind_eq_bind, Option.bind_some]
    rw [unmasked]
    exact readSalt_isSome db

end RbctlDsl.Fwextract
