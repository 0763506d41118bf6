import RbctlDsl.Lib.Bytes

/-!
# Firmware images and the opcode-8 payloads

`firmware.rs`: the stage constants, the payloads of the four stages, and the validation of
a `2RDH` image header.
-/

namespace RbctlDsl.Proto

open RbctlDsl.Lib

def stageAnnounce : UInt8 := 0
def stageStream : UInt8 := 1
def stageVerify : UInt8 := 2
def stageComplete : UInt8 := 3

/-- Chunk size of the streaming phase. -/
def chunkSize : Nat := 1024

def timeoutAnnounceMs : Nat := 1500
def retriesAnnounce : UInt8 := 5
def timeoutStreamMs : Nat := 300
def retriesStream : UInt8 := 20
def timeoutVerifyMs : Nat := 60000
def retriesVerify : UInt8 := 20
def timeoutCompleteMs : Nat := 60000
def retriesComplete : UInt8 := 20

/-- `[stage=0, u32 size_be]`. -/
def announcePayload (imageSize : UInt32) : Bytes := stageAnnounce :: beBytes32 imageSize

def verifyPayload : Bytes := [stageVerify]

def completePayload : Bytes := [stageComplete]

def minImageSize : Nat := 0x200000
def maxImageSize : Nat := 0x800000

/-- The bytes of `"2RDH"`. -/
def magic2rdh : Bytes := [0x32, 0x52, 0x44, 0x48]

/-- Parsed `2RDH` header. -/
structure FwHeader where
  headerLen : UInt32
  totalLen : UInt32
  crc32 : UInt32
  version : Bytes
  kernelLen : UInt32
  rootfsLen : UInt32
  loadAddr : UInt32
  deriving DecidableEq

/-- Parse a `2RDH` header from the first 256 bytes of an image. -/
def parseHeader (data : Bytes) : Except String FwHeader :=
  if long : 0x100 ≤ data.length then
    if data.take 4 ≠ magic2rdh then
      .error "not a 2RDH firmware image"
    else
      let u32Be (offset : Nat) (inHeader : offset + 4 ≤ 0x100) : UInt32 :=
        (be32At? data offset).get ((be32At?_isSome_iff _ _).mpr (Nat.le_trans inHeader long))
      if u32Be 0x04 (by decide) ≠ 0x100 then
        .error "2RDH header_len is not 256"
      else
        .ok {
          headerLen := u32Be 0x04 (by decide)
          totalLen := u32Be 0x08 (by decide)
          crc32 := u32Be 0x0C (by decide)
          version := (data.drop 0x10).take 31
          kernelLen := u32Be 0x50 (by decide)
          rootfsLen := u32Be 0x54 (by decide)
          loadAddr := u32Be 0x7C (by decide) }
  else
    .error "file too small for 2RDH header (need 256 bytes)"

/-- Header, size range and `total_len` of an image. -/
def validateImage (data : Bytes) : Except String FwHeader := do
  let hdr ← parseHeader data
  if data.length < minImageSize then
    throw "image too small (must be >= 2 MB)"
  if data.length > maxImageSize then
    throw "image too large (must be <= 8 MB)"
  if hdr.totalLen.toNat ≠ data.length then
    throw "2RDH total_len does not match file size"
  return hdr

/-- The version field up to its first zero byte. -/
def versionStr (hdr : FwHeader) : String :=
  let text := hdr.version.takeWhile (· ≠ 0)
  (String.fromUTF8? ⟨text.toArray⟩).getD "(invalid utf8)"

/-- What an image is accepted on. -/
theorem validateImage_eq_ok_iff {data : Bytes} {hdr : FwHeader} :
    validateImage data = .ok hdr ↔ parseHeader data = .ok hdr ∧ minImageSize ≤ data.length ∧
      data.length ≤ maxImageSize ∧ hdr.totalLen.toNat = data.length := by
  cases parsed : parseHeader data with
  | error message =>
      rw [validateImage, parsed]
      exact iff_of_false (fun valid => nomatch valid) fun accepted => nomatch accepted.1
  | ok header =>
      rw [validateImage, parsed]
      simp only [bind, Except.bind, pure, Except.pure, throw, throwThe, MonadExceptOf.throw]
      constructor
      · intro valid
        split at valid
        · cases valid
        · split at valid
          · cases valid
          · split at valid
            · cases valid
            · cases valid
              refine ⟨rfl, ?_, ?_, ?_⟩ <;> omega
      · intro ⟨same, lower, upper, total⟩
        cases same
        rw [if_neg (Nat.not_lt.mpr lower), if_neg (Nat.not_lt.mpr upper),
          if_neg (fun differs => differs total)]

/-- The header of an accepted image is the one that is parsed. -/
theorem parseHeader_of_validateImage {image : Bytes} {hdr : FwHeader}
    (valid : validateImage image = .ok hdr) :
    parseHeader image = .ok hdr :=
  (validateImage_eq_ok_iff.mp valid).1

/-- What an accepted image's size is known to be. -/
theorem size_of_validateImage {data : Bytes} {hdr : FwHeader}
    (valid : validateImage data = .ok hdr) :
    minImageSize ≤ data.length ∧ data.length ≤ maxImageSize := by
  obtain ⟨_, lower, upper, _⟩ := validateImage_eq_ok_iff.mp valid
  exact ⟨lower, upper⟩

/-! ## Accepted images exist at every accepted size -/

/-- An image with a `2RDH` header for its own size and `0xff` everywhere else. -/
def blankImage (size : UInt32) : Bytes :=
  magic2rdh ++ (beBytes32 0x100 ++
    (beBytes32 size ++ List.replicate (size.toNat - 12) 0xff))

theorem length_blankImage {size : UInt32} (room : 12 ≤ size.toNat) :
    (blankImage size).length = size.toNat := by
  simp only [blankImage, magic2rdh, List.length_append, List.length_cons, List.length_nil,
    length_beBytes32, List.length_replicate]
  omega

/-- A well-formed header parses, and its `total_len` is the word at `0x08`. -/
theorem parseHeader_eq {data : Bytes} {totalLen : UInt32}
    (long : 0x100 ≤ data.length) (magic : data.take 4 = magic2rdh)
    (headerField : be32At? data 0x04 = some 0x100)
    (totalField : be32At? data 0x08 = some totalLen) :
    ∃ hdr, parseHeader data = .ok hdr ∧ hdr.totalLen = totalLen ∧
      hdr.version = (data.drop 0x10).take 31 := by
  cases parsed : parseHeader data with
  | error message => simp [parseHeader, long, magic, headerField] at parsed
  | ok hdr =>
      refine ⟨hdr, rfl, ?_⟩
      simp only [parseHeader, long, magic, headerField, totalField, ne_eq, not_true_eq_false,
        if_false, dif_pos, Option.get_some, Except.ok.injEq] at parsed
      rw [← parsed]
      exact ⟨rfl, rfl⟩

theorem validateImage_blankImage {size : UInt32} (lower : minImageSize ≤ size.toNat)
    (upper : size.toNat ≤ maxImageSize) :
    ∃ hdr, validateImage (blankImage size) = .ok hdr := by
  have length : (blankImage size).length = size.toNat :=
    length_blankImage (Nat.le_trans (by decide) lower)
  have long : 0x100 ≤ (blankImage size).length :=
    length ▸ Nat.le_trans (by decide) lower
  have headerField : be32At? (blankImage size) 0x04 = some 0x100 :=
    be32At?_append magic2rdh _ 0x100 0x04 rfl
  have totalField : be32At? (blankImage size) 0x08 = some size := by
    rw [blankImage, ← List.append_assoc]
    exact be32At?_append (magic2rdh ++ beBytes32 0x100) _ size 0x08 rfl
  obtain ⟨hdr, parsed, total, _⟩ := parseHeader_eq long rfl headerField totalField
  exact ⟨hdr, validateImage_eq_ok_iff.mpr
    ⟨parsed, length ▸ lower, length ▸ upper, by rw [total, length]⟩⟩

/-- An image of the smallest size that is accepted. -/
theorem validateImage_smallest : ∃ hdr, validateImage (blankImage 0x200000) = .ok hdr :=
  validateImage_blankImage (by decide) (by decide)

/-- An image with a version field. -/
def versionedImage (version : Bytes) (size : UInt32) : Bytes :=
  magic2rdh ++ (beBytes32 0x100 ++ (beBytes32 size ++ (beBytes32 0 ++
    (version ++ List.replicate (size.toNat - 47) 0xff))))

theorem validateImage_versionedImage {version : Bytes} {size : UInt32}
    (field : version.length = 31) (lower : minImageSize ≤ size.toNat)
    (upper : size.toNat ≤ maxImageSize) :
    ∃ hdr, validateImage (versionedImage version size) = .ok hdr ∧ hdr.version = version := by
  have length : (versionedImage version size).length = size.toNat := by
    simp only [versionedImage, magic2rdh, List.length_append, List.length_cons, List.length_nil,
      length_beBytes32, List.length_replicate, field, minImageSize] at *
    omega
  have long : 0x100 ≤ (versionedImage version size).length :=
    length ▸ Nat.le_trans (by decide) lower
  have headerField : be32At? (versionedImage version size) 0x04 = some 0x100 :=
    be32At?_append magic2rdh _ 0x100 0x04 rfl
  have totalField : be32At? (versionedImage version size) 0x08 = some size := by
    rw [versionedImage, ← List.append_assoc]
    exact be32At?_append (magic2rdh ++ beBytes32 0x100) _ size 0x08 rfl
  have versionField : ((versionedImage version size).drop 0x10).take 31 = version :=
    List.take_left' field
  obtain ⟨hdr, parsed, total, isVersion⟩ := parseHeader_eq long rfl headerField totalField
  have valid : validateImage (versionedImage version size) = .ok hdr :=
    validateImage_eq_ok_iff.mpr ⟨parsed, length ▸ lower, length ▸ upper, by rw [total, length]⟩
  exact ⟨hdr, valid, isVersion.trans versionField⟩

end RbctlDsl.Proto
