import RbctlDsl.Lib.Bytes

/-!
# Firmware containers

The header of `fwextract`'s containers: the tag header, and the walk over the chunk metadata
behind it, which tells where the images begin.

`none` is a panic: an index out of bounds.
-/

namespace RbctlDsl.Fwextract

open RbctlDsl.Lib

def tagHeaderLen : Nat := 0x200

structure TagHeader where
  imageVersion : UInt32
  productId : UInt32
  productVer : UInt32
  hwVer : UInt32
  md5 : Bytes
  totalImageLen : UInt32
  swRevision : UInt32
  specialVer : UInt32
  deriving DecidableEq

namespace TagHeader

def parse (buf : Bytes) : Except String TagHeader :=
  if long : tagHeaderLen ≤ buf.length then
    let readU32Le (offset : Nat) (inHeader : offset + 4 ≤ tagHeaderLen) : UInt32 :=
      (le32At? buf offset).get ((le32At?_isSome_iff _ _).mpr (Nat.le_trans inHeader long))
    .ok {
      imageVersion := readU32Le 0x00 (by decide)
      productId := readU32Le 0x34 (by decide)
      productVer := readU32Le 0x38 (by decide)
      hwVer := readU32Le 0x3C (by decide)
      md5 := (buf.drop 0x40).take 16
      totalImageLen := readU32Le 0x70 (by decide)
      swRevision := readU32Le 0x8C (by decide)
      specialVer := readU32Le 0x94 (by decide) }
  else
    .error s!"file too small: {buf.length} bytes, need at least 0x200 for tag header"

/-- What parses is as long as the tag header. -/
theorem length_of_parse {buf : Bytes} {tag : TagHeader} (parsed : parse buf = .ok tag) :
    tagHeaderLen ≤ buf.length := by
  unfold parse at parsed
  split at parsed
  · assumption
  · cases parsed

end TagHeader

/-! ## Chunk metadata -/

/-- The signature of a chunk: at most 256 bytes behind its head. -/
def chunkSignature (data : Bytes) (offset chunkLen : Nat) : Option Bytes :=
  let sigStart := offset + 8
  slice? data sigStart (min (sigStart + chunkLen - 8) (sigStart + 256))

/-- The walk from a chunk on, with the length of the chunks before it and the signature that
has been found. -/
def parseChunksFrom (data : Bytes) (offset total : Nat) (signature : Bytes) :
    Option (Nat × Bytes) :=
  if offset + 8 ≤ data.length then
    match le32At? data offset, le32At? data (offset + 4) with
    | some chunkType, some chunkLen =>
      if broken : chunkLen.toNat < 8 ∨ offset + chunkLen.toNat > data.length then
        some (total, signature)
      else if chunkType = 0 then
        some (total + chunkLen.toNat, signature)
      else if chunkType = 1 ∧ signature.isEmpty then
        match chunkSignature data offset chunkLen.toNat with
        | some found =>
          parseChunksFrom data (offset + chunkLen.toNat) (total + chunkLen.toNat) found
        | none => none
      else
        parseChunksFrom data (offset + chunkLen.toNat) (total + chunkLen.toNat) signature
    | _, _ => none
  else
    some (total, signature)
termination_by data.length - offset
decreasing_by
  all_goals omega

/-- The length of the header with its metadata, and the signature. -/
def parseChunks (data : Bytes) : Option (Nat × Bytes) :=
  (parseChunksFrom data tagHeaderLen 0 []).map fun (total, signature) =>
    (tagHeaderLen + total, signature)

theorem chunkSignature_isSome {data : Bytes} {offset chunkLen : Nat} (head : 8 ≤ chunkLen)
    (inside : offset + chunkLen ≤ data.length) :
    (chunkSignature data offset chunkLen).isSome := by
  rw [chunkSignature, slice?_eq_some (by omega) (by omega)]
  rfl

/-- The walk stays inside the file, and so does what it has walked over. -/
theorem parseChunksFrom_inside {data : Bytes} {offset total : Nat} (signature : Bytes)
    (inside : offset ≤ data.length) (walked : offset = tagHeaderLen + total) :
    ∃ walkedTotal found, parseChunksFrom data offset total signature =
      some (walkedTotal, found) ∧ tagHeaderLen + walkedTotal ≤ data.length := by
  fun_induction parseChunksFrom data offset total signature with
  | case1 => exact ⟨_, _, rfl, walked ▸ inside⟩
  | case2 offset total signature _ chunkLen _ whole =>
      exact ⟨_, _, rfl, by omega⟩
  | case3 offset total signature _ chunkType chunkLen _ _ whole _ _ found _ ih =>
      exact ih (by omega) (by omega)
  | case4 offset total signature _ chunkType chunkLen _ _ whole _ _ unread =>
      have read : (chunkSignature data offset chunkLen.toNat).isSome :=
        chunkSignature_isSome (by omega) (by omega)
      rw [unread] at read
      cases read
  | case5 offset total signature _ chunkType chunkLen _ _ whole _ _ ih =>
      exact ih (by omega) (by omega)
  | case6 offset total signature room unread =>
      obtain ⟨chunkType, isType⟩ := Option.isSome_iff_exists.mp
        ((le32At?_isSome_iff data offset).mpr (by omega))
      obtain ⟨chunkLen, isLen⟩ := Option.isSome_iff_exists.mp
        ((le32At?_isSome_iff data (offset + 4)).mpr (by omega))
      exact (unread chunkType chunkLen isType isLen).elim
  | case7 => exact ⟨_, _, rfl, walked ▸ inside⟩

/-- The walk of a file that holds a tag header does not leave it. -/
theorem parseChunks_inside {data : Bytes} (long : tagHeaderLen ≤ data.length) :
    ∃ tagLen signature, parseChunks data = some (tagLen, signature) ∧ tagLen ≤ data.length := by
  obtain ⟨total, found, walk, inside⟩ := parseChunksFrom_inside [] long (Nat.add_zero _).symm
  exact ⟨tagHeaderLen + total, found, by rw [parseChunks, walk]; rfl, inside⟩

end RbctlDsl.Fwextract
