import Mathlib.Algebra.GroupWithZero.Nat
import RbctlDsl.Fwextract.Container

/-!
# Chunk metadata

`docs/firmware_encryption.md`: behind the tag header stand typed chunks, each with a length
that includes its own head, up to a chunk of type 0.  `parse_chunks` reads back every such
list, and stays within bounds on everything else.
-/

namespace RbctlDsl.Fwextract

open RbctlDsl.Lib

/-- A chunk: its type, and the data behind its head. -/
structure Chunk where
  type : UInt32
  data : Bytes
  fits : data.length + 8 < 2 ^ 32

namespace Chunk

/-- The length of a chunk, as its head states it. -/
def length (chunk : Chunk) : Nat := chunk.data.length + 8

def lengthWord (chunk : Chunk) : UInt32 := UInt32.ofNat chunk.length

def bytes (chunk : Chunk) : Bytes :=
  leBytes32 chunk.type ++ (leBytes32 chunk.lengthWord ++ chunk.data)

@[simp] theorem toNat_lengthWord (chunk : Chunk) : chunk.lengthWord.toNat = chunk.length :=
  UInt32.toNat_ofNat_of_lt' chunk.fits

@[simp] theorem length_bytes (chunk : Chunk) : chunk.bytes.length = chunk.length := by
  simp [bytes, length]
  omega

end Chunk

/-- The metadata of a container, as its format has it. -/
structure Metadata where
  header : Bytes
  chunks : List Chunk
  terminator : Chunk
  isHeader : header.length = tagHeaderLen
  typed : ∀ chunk ∈ chunks, chunk.type ≠ 0
  ends : terminator.type = 0

namespace Metadata

def bytes (metadata : Metadata) : Bytes :=
  metadata.header ++ (metadata.chunks.flatMap Chunk.bytes ++ metadata.terminator.bytes)

/-- `getTagLen`. -/
def tagLen (metadata : Metadata) : Nat :=
  tagHeaderLen + ((metadata.chunks ++ [metadata.terminator]).map Chunk.length).sum

/-- What the first signature chunk that is not empty carries, up to 256 bytes. -/
def signature (metadata : Metadata) : Bytes :=
  match metadata.chunks.find? fun chunk => chunk.type = 1 ∧ chunk.data ≠ [] with
  | some chunk => chunk.data.take 256
  | none => []

end Metadata

/-! ## The walk over well-formed chunks -/

/-- What the walk takes for the signature behind one more chunk. -/
def nextSignature (signature : Bytes) (chunk : Chunk) : Bytes :=
  if chunk.type = 1 ∧ signature.isEmpty then chunk.data.take 256 else signature

theorem chunkSignature_append (before rest : Bytes) (chunk : Chunk) :
    chunkSignature (before ++ (chunk.bytes ++ rest)) before.length chunk.length =
      some (chunk.data.take 256) := by
  have parts : before ++ (chunk.bytes ++ rest) =
      (before ++ (leBytes32 chunk.type ++ leBytes32 chunk.lengthWord)) ++
        (chunk.data.take 256 ++ (chunk.data.drop 256 ++ rest)) := by
    rw [← List.append_assoc (chunk.data.take 256), List.take_append_drop]
    simp [Chunk.bytes]
  rw [chunkSignature, parts]
  apply slice?_middle
  · simp
  · simp [Chunk.length]
    omega

/-- What the walk reads where a chunk begins. -/
theorem chunkHead_append (before rest : Bytes) (chunk : Chunk) :
    le32At? (before ++ (chunk.bytes ++ rest)) before.length = some chunk.type ∧
      le32At? (before ++ (chunk.bytes ++ rest)) (before.length + 4) = some chunk.lengthWord ∧
      before.length + chunk.length ≤ (before ++ (chunk.bytes ++ rest)).length := by
  refine ⟨?_, ?_, by simp⟩
  · rw [Chunk.bytes, List.append_assoc]
    exact le32At?_append _ _ _ _ rfl
  · rw [Chunk.bytes, List.append_assoc, List.append_assoc, ← List.append_assoc before]
    exact le32At?_append _ _ _ _ (by simp)

/-- The walk steps over one chunk. -/
theorem parseChunksFrom_chunk (before rest : Bytes) (chunk : Chunk) (total : Nat)
    (signature : Bytes) (typed : chunk.type ≠ 0) :
    parseChunksFrom (before ++ (chunk.bytes ++ rest)) before.length total signature =
      parseChunksFrom (before ++ (chunk.bytes ++ rest)) (before.length + chunk.length)
        (total + chunk.length) (nextSignature signature chunk) := by
  obtain ⟨type, word, room⟩ := chunkHead_append before rest chunk
  have head : 8 ≤ chunk.length := Nat.le_add_left _ _
  rw [parseChunksFrom, if_pos (by omega), type, word]
  dsimp only
  rw [Chunk.toNat_lengthWord, dif_neg (by omega), if_neg typed, nextSignature]
  split
  · rw [chunkSignature_append]
  · rfl

/-- The walk stops behind a terminator. -/
theorem parseChunksFrom_terminator (before trailing : Bytes) (chunk : Chunk) (total : Nat)
    (signature : Bytes) (ends : chunk.type = 0) :
    parseChunksFrom (before ++ (chunk.bytes ++ trailing)) before.length total signature =
      some (total + chunk.length, signature) := by
  obtain ⟨type, word, room⟩ := chunkHead_append before trailing chunk
  have head : 8 ≤ chunk.length := Nat.le_add_left _ _
  rw [parseChunksFrom, if_pos (by omega), type, word]
  dsimp only
  rw [Chunk.toNat_lengthWord, dif_neg (by omega), if_pos ends]

theorem parseChunksFrom_chunks (before rest : Bytes) (chunks : List Chunk) (total : Nat)
    (signature : Bytes) (typed : ∀ chunk ∈ chunks, chunk.type ≠ 0) :
    parseChunksFrom (before ++ (chunks.flatMap Chunk.bytes ++ rest)) before.length total
        signature =
      parseChunksFrom ((before ++ chunks.flatMap Chunk.bytes) ++ rest)
        (before ++ chunks.flatMap Chunk.bytes).length
        (total + (chunks.map Chunk.length).sum) (chunks.foldl nextSignature signature) := by
  induction chunks generalizing before total signature with
  | nil => simp
  | cons chunk chunks ih =>
      rw [List.flatMap_cons, List.append_assoc,
        parseChunksFrom_chunk _ _ _ _ _ (typed chunk List.mem_cons_self)]
      have next := ih (before ++ chunk.bytes) (total + chunk.length)
        (nextSignature signature chunk) fun other member =>
          typed other (List.mem_cons_of_mem _ member)
      rw [List.length_append, Chunk.length_bytes] at next
      simpa [Nat.add_assoc] using next

theorem foldl_nextSignature (chunks : List Chunk) {signature : Bytes} (found : signature ≠ []) :
    chunks.foldl nextSignature signature = signature := by
  induction chunks with
  | nil => rfl
  | cons chunk chunks ih =>
      rw [List.foldl_cons, nextSignature, if_neg (by simp [found]), ih]

/-- The walk keeps the first signature that is not empty. -/
theorem Metadata.signature_eq (metadata : Metadata) :
    metadata.chunks.foldl nextSignature [] = metadata.signature := by
  rw [signature]
  induction metadata.chunks with
  | nil => rfl
  | cons chunk chunks ih =>
      rw [List.foldl_cons, List.find?_cons, nextSignature]
      by_cases found : chunk.type = 1 ∧ chunk.data ≠ []
      · rw [if_pos ⟨found.1, rfl⟩, decide_eq_true found]
        exact foldl_nextSignature chunks (by simp [found.2])
      · rw [decide_eq_false found, ← ih]
        congr 1
        split
        next signs =>
          have empty : chunk.data = [] := Classical.not_not.mp fun some => found ⟨signs.1, some⟩
          rw [empty]
          rfl
        next => rfl

/-- The length and the signature of well-formed metadata are read back, whatever follows. -/
theorem parseChunks_bytes (metadata : Metadata) (trailing : Bytes) :
    parseChunks (metadata.bytes ++ trailing) = some (metadata.tagLen, metadata.signature) := by
  have steps := parseChunksFrom_chunks metadata.header (metadata.terminator.bytes ++ trailing)
    metadata.chunks 0 [] metadata.typed
  rw [parseChunksFrom_terminator _ _ _ _ _ metadata.ends, metadata.isHeader,
    metadata.signature_eq] at steps
  rw [parseChunks, Metadata.bytes, List.append_assoc, List.append_assoc, steps]
  simp [Metadata.tagLen]

/-! ## Any file -/

theorem length_chunkSignature {data found : Bytes} {offset chunkLen : Nat}
    (read : chunkSignature data offset chunkLen = some found) : found.length ≤ 256 := by
  rw [chunkSignature, slice?] at read
  split at read
  · cases read
    simp
    omega
  · cases read

theorem length_signature_of_walk {data found : Bytes} {offset total walked : Nat}
    {signature : Bytes} (short : signature.length ≤ 256)
    (walk : parseChunksFrom data offset total signature = some (walked, found)) :
    found.length ≤ 256 := by
  fun_induction parseChunksFrom data offset total signature with
  | case1 | case2 | case7 =>
      cases walk
      exact short
  | case3 offset total signature _ chunkType chunkLen _ _ _ _ _ found read ih =>
      exact ih (length_chunkSignature read) walk
  | case5 offset total signature _ chunkType chunkLen _ _ _ _ _ ih => exact ih short walk
  | case4 | case6 => cases walk

/-- `parse_chunks` reads back all well-formed metadata, and on any file that holds a tag header
it stays inside the file, with at most 256 bytes of signature. -/
theorem parseChunks_layout :
    (∀ (metadata : Metadata) (trailing : Bytes), parseChunks (metadata.bytes ++ trailing) =
        some (metadata.tagLen, metadata.signature)) ∧
      ∀ data : Bytes, tagHeaderLen ≤ data.length → ∃ tagLen signature,
        parseChunks data = some (tagLen, signature) ∧ tagHeaderLen ≤ tagLen ∧
          tagLen ≤ data.length ∧ signature.length ≤ 256 := by
  refine ⟨parseChunks_bytes, fun data long => ?_⟩
  obtain ⟨total, found, walk, inside⟩ := parseChunksFrom_inside [] long (Nat.add_zero _).symm
  refine ⟨tagHeaderLen + total, found, by rw [parseChunks, walk]; rfl, Nat.le_add_right _ _,
    inside, ?_⟩
  exact length_signature_of_walk (Nat.zero_le _) walk

/-- Metadata with an empty signature chunk in front of the one that counts. -/
def signedMetadata : Metadata where
  header := List.replicate tagHeaderLen 0
  chunks := [⟨1, [], by decide⟩, ⟨7, [5], by decide⟩, ⟨1, [0xAA, 0xBB], by decide⟩]
  terminator := ⟨0, [0, 0], by decide⟩
  isHeader := List.length_replicate
  typed := by decide
  ends := rfl

/-- The signed metadata is read back, and a bare tag header is read within its bounds. -/
theorem parseChunks_layout_signed :
    parseChunks (signedMetadata.bytes ++ [0xFF]) =
        some (0x200 + (8 + 9 + 10 + 10), [0xAA, 0xBB]) ∧
      ∃ tagLen signature, parseChunks (List.replicate tagHeaderLen 0) = some (tagLen, signature) ∧
        tagHeaderLen ≤ tagLen ∧ tagLen ≤ (List.replicate tagHeaderLen (0 : UInt8)).length ∧
        signature.length ≤ 256 :=
  ⟨parseChunks_layout.1 signedMetadata [0xFF],
    parseChunks_layout.2 _ (Nat.le_of_eq List.length_replicate.symm)⟩

end RbctlDsl.Fwextract
