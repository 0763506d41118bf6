import Mathlib.NumberTheory.LucasLehmer
import RbctlDsl.Fwextract.KeyExtraction
import RbctlDsl.Lib.RsaKeys

/-!
# Key recovery

`docs/firmware_encryption.md`: the AES key and the initialisation vector are the salt of a PSS
encoding.  For a modulus of 2048 bits, key extraction undoes the encoding, the signature and
the reversal of its bytes.
-/

namespace RbctlDsl.Fwextract

open RbctlDsl.Lib

/-! ## The encoding -/

/-- The digests of a seed under the first counters. -/
def maskBlocks (sha : Sha256) (seed : Bytes) (count : Nat) : Bytes :=
  (List.range count).flatMap fun counter => sha.digest (seed ++ beBytes32 (.ofNat counter))

/-- MGF1: as many digests as are needed, cut to the length. -/
def maskOf (sha : Sha256) (seed : Bytes) (length : Nat) : Bytes :=
  (maskBlocks sha seed ((length + 31) / 32)).take length

def clearTop : Bytes → Bytes
  | first :: rest => (first &&& 0x7F) :: rest
  | [] => []

/-- The data block of a salt: 223 bytes. -/
def dataBlock (salt : Bytes) : Bytes := List.replicate (222 - salt.length) 0 ++ 0x01 :: salt

/-- The PSS encoding of a salt with the digest `h`. -/
def pssEncode (sha : Sha256) (h salt : Bytes) : Bytes :=
  clearTop (xorBytes (dataBlock salt) (maskOf sha h 223)) ++ (h ++ [0xBC])

/-- The signature of an encoded message, as the container stores it. -/
def sign (n d : Nat) (em : Bytes) : Bytes := toBytesLe 256 (fromBytesBe em ^ d % n)

/-! ## Mask generation -/

theorem maskBlocks_succ (sha : Sha256) (seed : Bytes) (count : Nat) :
    maskBlocks sha seed (count + 1) =
      maskBlocks sha seed count ++ sha.digest (seed ++ beBytes32 (.ofNat count)) := by
  simp [maskBlocks, List.range_succ]

theorem length_maskBlocks (sha : Sha256) (seed : Bytes) (count : Nat) :
    (maskBlocks sha seed count).length = 32 * count := by
  induction count with
  | zero => rfl
  | succ count ih =>
      rw [maskBlocks_succ, List.length_append, ih, sha.length_digest]
      omega

/-- The loop adds the blocks that are left, one after the other. -/
theorem mgf1From_eq (sha : Sha256) (seed : Bytes) {length count left : Nat}
    (total : count + left = (length + 31) / 32) :
    mgf1From sha seed length (.ofNat count) (maskBlocks sha seed count) =
      maskOf sha seed length := by
  induction left generalizing count with
  | zero =>
      rw [mgf1From, length_maskBlocks, if_neg (by omega), maskOf, ← total]
      rfl
  | succ left ih =>
      rw [mgf1From, length_maskBlocks, if_pos (by omega), ← maskBlocks_succ]
      have next : UInt32.ofNat count + 1 = UInt32.ofNat (count + 1) :=
        (UInt32.ofNat_add count 1).symm
      rw [next]
      exact ih (by omega)

theorem mgf1_eq (sha : Sha256) (seed : Bytes) (length : Nat) :
    mgf1 sha seed length = maskOf sha seed length :=
  mgf1From_eq sha seed (Nat.zero_add _)

/-! ## Unmasking -/

theorem clearTop_xor (byte mask : UInt8) :
    (((byte ^^^ mask) &&& 0x7F) ^^^ mask) &&& 0x7F = byte &&& 0x7F := by
  apply UInt8.toBitVec_inj.mp
  ext i inside
  simp only [UInt8.toBitVec_and, UInt8.toBitVec_xor, BitVec.getElem_and, BitVec.getElem_xor]
  cases byte.toBitVec[i] <;> cases mask.toBitVec[i] <;> simp

@[simp] theorem length_clearTop (bytes : Bytes) : (clearTop bytes).length = bytes.length := by
  cases bytes <;> rfl

@[simp] theorem length_maskOf (sha : Sha256) (seed : Bytes) (length : Nat) :
    (maskOf sha seed length).length = length := by
  rw [← mgf1_eq, length_mgf1]

/-- Unmasking gives back a block whose highest bit is clear. -/
theorem unmask_masked (sha : Sha256) (h : Bytes) {first : UInt8} {rest : Bytes}
    (clear : first &&& 0x7F = first) :
    unmask sha h (clearTop (xorBytes (first :: rest) (maskOf sha h (rest.length + 1)))) =
      some (first :: rest) := by
  have long := length_maskOf sha h (rest.length + 1)
  have masked : (clearTop (xorBytes (first :: rest) (maskOf sha h (rest.length + 1)))).length =
      rest.length + 1 := by
    rw [length_clearTop, xorBytes, List.length_zipWith, long, List.length_cons, Nat.min_self]
  rw [unmask, masked, mgf1_eq]
  cases mask : maskOf sha h (rest.length + 1) with
  | nil =>
      rw [mask] at long
      cases long
  | cons top below =>
      rw [mask] at long
      have cancel := xorBytes_cancel (Nat.succ.inj long).symm
      simp only [xorBytes, clearTop, List.zipWith_cons_cons] at cancel ⊢
      rw [cancel, clearTop_xor, clear]

/-! ## The salt -/

theorem skipZeros_replicate {zeros idx left : Nat} {rest : Bytes} (total : idx + left = zeros) :
    skipZeros (List.replicate zeros 0 ++ 0x01 :: rest) idx = zeros := by
  induction left generalizing idx with
  | zero =>
      have stops : (List.replicate zeros (0 : UInt8) ++ 0x01 :: rest)[idx]? ≠ some 0 := by
        simp [← total]
      rw [skipZeros, if_neg stops, ← total, Nat.add_zero]
  | succ left ih =>
      have skips : (List.replicate zeros (0 : UInt8) ++ 0x01 :: rest)[idx]? = some 0 := by
        rw [List.getElem?_append_left (by rw [List.length_replicate]; omega),
          List.getElem?_replicate, if_pos (by omega)]
      rw [skipZeros, if_pos skips]
      exact ih (by omega)

theorem readSalt_dataBlock {salt : Bytes} (long : 32 ≤ salt.length) :
    readSalt (dataBlock salt) = some (.ok (salt.take 16, (salt.drop 16).take 16)) := by
  have found : skipZeros (dataBlock salt) 0 = 222 - salt.length :=
    skipZeros_replicate (Nat.zero_add _)
  have separator : (dataBlock salt)[222 - salt.length]? = some 0x01 := by
    simp [dataBlock]
  have behind : slice? (dataBlock salt) (222 - salt.length + 1) (dataBlock salt).length =
      some salt := by
    have parts : dataBlock salt =
        (List.replicate (222 - salt.length) 0 ++ [0x01]) ++ (salt ++ []) := by
      simp [dataBlock]
    rw [parts]
    apply slice?_middle <;> simp
    omega
  rw [readSalt, found, if_neg (not_not_intro separator), behind, Option.bind_eq_bind,
    Option.bind_some, if_neg (Nat.not_lt.mpr long), slice?_eq_some (Nat.zero_le _) (by omega),
    slice?_eq_some (by decide) (by omega)]
  rfl

/-! ## The encoded message -/

theorem exists_dataBlock {salt : Bytes} (short : salt.length ≤ 222) :
    ∃ first rest, dataBlock salt = first :: rest ∧ first &&& 0x7F = first ∧
      rest.length = 222 := by
  rw [dataBlock]
  cases padding : 222 - salt.length with
  | zero => exact ⟨0x01, salt, rfl, rfl, by omega⟩
  | succ zeros =>
      refine ⟨0, List.replicate zeros 0 ++ 0x01 :: salt, rfl, rfl, ?_⟩
      rw [List.length_append, List.length_replicate, List.length_cons]
      omega

section Encoded

variable {sha : Sha256} {h salt : Bytes}

theorem length_masked (short : salt.length ≤ 222) :
    (clearTop (xorBytes (dataBlock salt) (maskOf sha h 223))).length = 223 := by
  obtain ⟨first, rest, block, -, long⟩ := exists_dataBlock short
  rw [length_clearTop, xorBytes, List.length_zipWith, length_maskOf, block, List.length_cons, long]
  rfl

theorem length_pssEncode (digest : h.length = 32) (short : salt.length ≤ 222) :
    (pssEncode sha h salt).length = 256 := by
  rw [pssEncode, List.length_append, length_masked short, List.length_append, digest]
  rfl

theorem fromBytesBe_clearTop_lt {bytes : Bytes} (tail : Bytes) (nonempty : 0 < bytes.length) :
    fromBytesBe (clearTop bytes ++ tail) < 128 * 256 ^ (bytes.length + tail.length - 1) := by
  cases bytes with
  | nil => cases nonempty
  | cons first rest =>
      have low := fromBytesBe_lt (rest ++ tail)
      have high : (first &&& 0x7F).toNat ≤ 127 := Nat.and_le_right
      have share := Nat.mul_le_mul_left (256 ^ (rest ++ tail).length) high
      rw [clearTop, List.cons_append, fromBytesBe_cons, List.length_cons, Nat.succ_add,
        Nat.succ_sub_one, ← List.length_append]
      omega

/-- The highest bit of an encoded message is clear. -/
theorem fromBytesBe_pssEncode_lt (digest : h.length = 32) (short : salt.length ≤ 222) :
    fromBytesBe (pssEncode sha h salt) < 2 ^ 2047 := by
  have masked := @length_masked sha h salt short
  rw [length_clearTop] at masked
  have bound := fromBytesBe_clearTop_lt (h ++ [0xBC]) (masked ▸ (by decide : 0 < 223))
  have value : 128 * 256 ^ 255 = 2 ^ 2047 := by
    rw [bytes_pow, ← Nat.pow_add 2 7]
  rw [masked, List.length_append, digest] at bound
  rw [← value]
  exact bound

theorem readEm_pssEncode (digest : h.length = 32) (long : 32 ≤ salt.length)
    (short : salt.length ≤ 222) :
    readEm sha (pssEncode sha h salt) =
      some (.ok (salt.take 16, (salt.drop 16).take 16)) := by
  have masked := @length_masked sha h salt short
  obtain ⟨first, rest, block, clear, below⟩ := exists_dataBlock short
  have unmasked := @unmask_masked sha h first rest clear
  rw [below, ← block] at unmasked
  rw [pssEncode]
  generalize clearTop (xorBytes (dataBlock salt) (maskOf sha h 223)) = maskedDb at *
  have trailer : (maskedDb ++ (h ++ [0xBC]))[255]? = some 0xBC := by
    rw [List.getElem?_append_right (by omega), List.getElem?_append_right (by omega), masked,
      digest]
    rfl
  have readH : slice? (maskedDb ++ (h ++ [0xBC])) 223 255 = some h :=
    slice?_middle _ _ _ _ _ masked (by omega)
  have readMasked : slice? (maskedDb ++ (h ++ [0xBC])) 0 223 = some maskedDb :=
    slice?_middle [] _ _ _ _ rfl (by rw [masked]; rfl)
  rw [readEm, trailer]
  dsimp only [Option.bind_eq_bind, Option.bind_some]
  rw [if_neg (not_not_intro rfl), readH, readMasked]
  dsimp only [Option.bind_some]
  rw [unmasked, Option.bind_some, readSalt_dataBlock long]

end Encoded

/-! ## The signature -/

/-- The key of the blob of `n` and `e`. -/
theorem extractKey_publicKey (sha : Sha256) (alg e : UInt32) {n : Nat} (signature : Bytes)
    (size : n < 2 ^ 2048) :
    extractKey sha (keyBlob alg 2048 e (toBytesLe 256 n)) signature =
      extractAesKey sha signature ⟨n, e.toNat⟩ := by
  have whole : (toBytesLe 256 n).length = (2048 : UInt32).toNat / 8 :=
    length_toBytesLe (by rwa [bytes_pow])
  rw [extractKey_of_isKeyBlob _ _ (isKeyBlob_keyBlob alg e whole),
    declaredModulus_keyBlob alg e whole, declaredExponent_keyBlob, fromBytesLe_toBytesLe]

/-- Verifying undoes signing: what is recovered is the encoded message, byte for byte. -/
theorem recoverEm_sign {n d e : Nat} {em : Bytes} (whole : em.length = 256)
    (below : fromBytesBe em < n) (size : n < 2 ^ 2048)
    (inverts : ∀ m < n, (m ^ d) ^ e % n = m) :
    recoverEm (sign n d em) ⟨n, e⟩ = some em := by
  have nonzero : n ≠ 0 := Nat.ne_zero_of_lt below
  have power : fromBytesLe (sign n d em) ^ e % n = fromBytesBe em := by
    rw [sign, fromBytesLe_toBytesLe, ← Nat.pow_mod]
    exact inverts _ below
  have fits : fromBytesBe em < 256 ^ 256 := by
    rw [bytes_pow]
    exact below.trans size
  rw [recoverEm_eq]
  dsimp only
  rw [power, if_pos ⟨nonzero, fits⟩, fromBytesBe]
  have bytes := toBytesLe_fromBytesLe em.reverse
  rw [List.length_reverse, whole] at bytes
  rw [bytes, List.reverse_reverse]

/-- Key extraction gives back the first 32 bytes of the salt, for every key of 2048 bits. -/
theorem extractKey_sign (sha : Sha256) (alg e : UInt32) (n d : Nat)
    (modulus : 2 ^ 2047 ≤ n ∧ n < 2 ^ 2048) (inverts : ∀ m < n, (m ^ d) ^ e.toNat % n = m)
    (h salt : Bytes) (digest : h.length = 32) (long : 32 ≤ salt.length)
    (short : salt.length ≤ 222) :
    extractKey sha (keyBlob alg 2048 e (toBytesLe 256 n)) (sign n d (pssEncode sha h salt)) =
      some (.ok (salt.take 16, (salt.drop 16).take 16)) := by
  have below := (@fromBytesBe_pssEncode_lt sha h salt digest short).trans_le modulus.1
  have length : (sign n d (pssEncode sha h salt)).length = 256 := by
    apply length_toBytesLe
    rw [bytes_pow]
    exact (Nat.mod_lt _ (Nat.zero_lt_of_lt below)).trans modulus.2
  rw [extractKey_publicKey sha alg e _ modulus.2, extractAesKey, if_neg (not_not_intro length),
    recoverEm_sign (length_pssEncode digest short) below modulus.2 inverts,
    Option.bind_eq_bind, Option.bind_some, readEm_pssEncode digest long short]

def countingSalt : Bytes := (List.range 40).map UInt8.ofNat

/-- Primes of 2048 bits together. -/
def mersennePrimes : List Nat := [1279, 607, 127, 19, 13, 3].map mersenne

/-- What undoes the exponent 65537 modulo each of them. -/
def mersenneExponent : Nat :=
  (36400 * (2 * ([1279, 607, 127, 19, 13, 3].map fun p => mersenne (p - 1)).prod) + 1) / 65537

theorem rsaExponents_mersennePrimes : RsaExponents mersennePrimes mersenneExponent 65537 where
  prime := by
    have test {p : Nat} (large : 1 < p) (passes : LucasLehmer.LucasLehmerTest p) :
        (mersenne p).Prime := lucas_lehmer_sufficiency p large passes
    simp only [mersennePrimes, List.map_cons, List.map_nil, List.forall_mem_cons]
    refine ⟨test ?_ ?_, test ?_ ?_, test ?_ ?_, test ?_ ?_, test ?_ ?_, test ?_ ?_,
      List.forall_mem_nil _⟩ <;> norm_num
  distinct := List.Nodup.map strictMono_mersenne.injective (by decide)
  positive := by decide +kernel
  inverse := by decide +kernel

theorem bits_mersennePrimes : 2 ^ 2047 ≤ mersennePrimes.prod ∧ mersennePrimes.prod < 2 ^ 2048 := by
  decide +kernel

theorem inverts_mersennePrimes : ∀ m < mersennePrimes.prod,
    (m ^ mersenneExponent) ^ (65537 : UInt32).toNat % mersennePrimes.prod = m :=
  rsaExponents_mersennePrimes.inverts

/-- The hash in the encoding of an empty message with this salt. -/
def emptyMessageHash (salt : Bytes) : Bytes :=
  sha256 (List.replicate 8 0 ++ (sha256 [] ++ salt))

/-- A salt of 40 bytes in the signature of an empty message. -/
theorem extractKey_sign_countingSalt :
    extractKey .standard (keyBlob 0xA400 2048 65537 (toBytesLe 256 mersennePrimes.prod))
        (sign mersennePrimes.prod mersenneExponent
          (pssEncode .standard (emptyMessageHash countingSalt) countingSalt)) =
      some (.ok (countingSalt.take 16, (countingSalt.drop 16).take 16)) :=
  extractKey_sign .standard 0xA400 65537 _ _ bits_mersennePrimes inverts_mersennePrimes _
    countingSalt (length_sha256 _) (by decide) (by decide)

end RbctlDsl.Fwextract
