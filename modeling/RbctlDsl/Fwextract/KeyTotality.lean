import RbctlDsl.Fwextract.KeyExtraction

/-!
# When key extraction returns

The bit length of a key blob is not checked against the 256 bytes of the signature.  Key
extraction returns, with a key or an error, exactly where the modulus is not zero and the
power of the signature fits into 256 bytes.
-/

namespace RbctlDsl.Fwextract

open RbctlDsl.Lib

/-- For a blob that is accepted and a signature of the right length: there is a modulus, and the
power of the signature is below `2 ^ 2048`. -/
def Extractable (blob signature : Bytes) : Prop :=
  IsKeyBlob blob → signature.length = 256 →
    declaredModulus blob ≠ 0 ∧
      fromBytesLe signature ^ declaredExponent blob % declaredModulus blob < 2 ^ 2048

theorem extractAesKey_isSome_iff (sha : Sha256) {signature : Bytes} (key : RsaPublicKey)
    (whole : signature.length = 256) :
    (extractAesKey sha signature key).isSome ↔
      key.n ≠ 0 ∧ fromBytesLe signature ^ key.e % key.n < 2 ^ 2048 := by
  have bytes : 256 ^ 256 = 2 ^ 2048 := bytes_pow 256
  rw [extractAesKey, if_neg (not_not_intro whole), recoverEm_eq, bytes]
  split
  next fits =>
    rw [← bytes] at fits
    have long := length_toBytesLe fits.2
    rw [← List.length_reverse] at long
    exact iff_of_true (readEm_isSome sha long) (by rwa [← bytes])
  next panics => exact iff_of_false (fun returns => by cases returns) panics

/-- Key extraction returns exactly for the inputs that are extractable. -/
theorem extractKey_isSome_iff (sha : Sha256) (blob signature : Bytes) :
    (extractKey sha blob signature).isSome ↔ Extractable blob signature := by
  rcases parseRsaPubkeyBlob_cases blob with ⟨isKey, -⟩ | ⟨notKey, message, rejected⟩
  · rw [extractKey_of_isKeyBlob sha signature isKey]
    by_cases whole : signature.length = 256
    · rw [extractAesKey_isSome_iff sha _ whole]
      exact ⟨fun returns _ _ => returns, fun extractable => extractable isKey whole⟩
    · rw [extractAesKey, if_pos whole]
      exact iff_of_true rfl fun _ other => absurd other whole
  · rw [extractKey, rejected]
    exact iff_of_true rfl fun isKey => absurd isKey notKey

/-! ## Two keys that are accepted -/

theorem extractKey_keyBlob_eq_none (sha : Sha256) (alg pubexp : UInt32) {bitlen : UInt32}
    {modulusLe signature : Bytes} (declared : modulusLe.length = bitlen.toNat / 8)
    (whole : signature.length = 256)
    (panics : fromBytesLe modulusLe = 0 ∨
      2 ^ 2048 ≤ fromBytesLe signature ^ pubexp.toNat % fromBytesLe modulusLe) :
    extractKey sha (keyBlob alg bitlen pubexp modulusLe) signature = none := by
  rw [extractKey_of_isKeyBlob _ _ (isKeyBlob_keyBlob alg pubexp declared),
    declaredModulus_keyBlob alg pubexp declared, declaredExponent_keyBlob,
    ← Option.not_isSome_iff_eq_none, extractAesKey_isSome_iff _ _ whole]
  rintro ⟨nonzero, fits⟩
  rcases panics with zero | large
  · exact nonzero zero
  · exact Nat.not_lt.mpr large fits

/-- A modulus of no bits is zero, and one of 4096 bits leaves more than 256 bytes. -/
theorem extractKey_panics :
    extractKey zeroDigest (keyBlob 0xA400 0 65537 []) (List.replicate 256 0) = none ∧
      extractKey zeroDigest (keyBlob 0xA400 4096 3 (List.replicate 512 0xFF))
        (List.replicate 256 0xFF) = none := by
  constructor
  · exact extractKey_keyBlob_eq_none _ _ _ rfl List.length_replicate (.inl rfl)
  · refine extractKey_keyBlob_eq_none _ _ _ List.length_replicate List.length_replicate (.inr ?_)
    rw [fromBytesLe_replicate_max, fromBytesLe_replicate_max]
    decide +kernel

end RbctlDsl.Fwextract
