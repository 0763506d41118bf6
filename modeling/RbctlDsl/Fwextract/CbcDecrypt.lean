import RbctlDsl.Fwextract.KeyExtraction
import RbctlDsl.Lib.BlockChain

/-!
# Decryption in place

`aes_cbc_decrypt`: a loop over the whole blocks of a buffer, each of which is overwritten by what it
decrypts to.  The cipher is any pair of functions on blocks of which the second inverts the first.

`none` is a panic: an index out of bounds.
-/

namespace RbctlDsl.Fwextract

open RbctlDsl.Lib

/-- Sixteen bytes: a block, a key or an initialisation vector. -/
structure Block where
  bytes : Bytes
  size : bytes.length = 16
  deriving DecidableEq

namespace Block

def ofBytes? (bytes : Bytes) : Option Block :=
  if size : bytes.length = 16 then some ⟨bytes, size⟩ else none

/-- `block[i] ^= mask[i]` for each of the sixteen indices. -/
def xor (block mask : Block) : Block where
  bytes := xorBytes block.bytes mask.bytes
  size := by rw [xorBytes, List.length_zipWith, block.size, mask.size]; rfl

theorem cancels_xor : Cancels Block.xor := by
  intro block mask
  have same := xorBytes_cancel (block.size.trans mask.size.symm)
  cases block
  simp only [xor, same]

end Block

/-- A block cipher: for each key, what a block is encrypted and decrypted to. -/
structure BlockCipher where
  encryptBlock : Block → Block → Block
  decryptBlock : Block → Block → Block
  decrypt_encrypt : ∀ key block, decryptBlock key (encryptBlock key block) = block

/-- The chunk of a buffer at an index. -/
def blockAt (data : Bytes) (index : Nat) : Option Block :=
  (slice? data (16 * index) (16 * index + 16)).bind Block.ofBytes?

/-- The buffer and the chaining value between two passes of the loop. -/
structure CbcState where
  data : Bytes
  prev : Block

/-- One pass: the block is decrypted where it stands, and mixed with the chaining value there. -/
def cbcPass (cipher : BlockCipher) (key : Block) (state : CbcState) (index : Nat) :
    Option CbcState := do
  let ciphertextBlock ← blockAt state.data index
  let data ← splice? state.data (16 * index) (cipher.decryptBlock key ciphertextBlock).bytes
  let block ← blockAt data index
  let data ← splice? data (16 * index) (block.xor state.prev).bytes
  some ⟨data, ciphertextBlock⟩

/-- The buffer after the loop over `chunks_exact_mut(16)`. -/
def aesCbcDecrypt (cipher : BlockCipher) (data : Bytes) (key iv : Block) : Option Bytes := do
  let state ← (List.range (data.length / 16)).foldlM (cbcPass cipher key) ⟨data, iv⟩
  some state.data

/-- `main`: what stands behind the header is decrypted up to its last whole block. -/
def decryptImage (cipher : BlockCipher) (tagLen : Nat) (data : Bytes) (key iv : Block) :
    Option Bytes := do
  let encLen ← checkedSub data.length tagLen
  let alignedLen := encLen / 16 * 16
  let range ← slice? data tagLen (tagLen + alignedLen)
  splice? data tagLen (← aesCbcDecrypt cipher range key iv)

/-! ## The blocks of a byte string -/

/-- The whole blocks of a byte string. -/
def blocksOf (data : Bytes) : List Block :=
  (List.range (data.length / 16)).filterMap (blockAt data)

/-- What is left behind the whole blocks. -/
def restOf (data : Bytes) : Bytes := data.drop (16 * (data.length / 16))

def joined (blocks : List Block) : Bytes := blocks.flatMap Block.bytes

theorem length_joined (blocks : List Block) : (joined blocks).length = 16 * blocks.length := by
  induction blocks with
  | nil => rfl
  | cons block rest ih =>
      rw [joined, List.flatMap_cons, List.length_append, block.size, ← joined, ih,
        List.length_cons, Nat.mul_succ, Nat.add_comm]

theorem blockAt_middle (before after : Bytes) (block : Block) {index : Nat}
    (start : before.length = 16 * index) :
    blockAt (before ++ (block.bytes ++ after)) index = some block := by
  rw [blockAt, slice?_middle _ _ _ _ _ start (by rw [start, block.size]), Option.bind_some,
    Block.ofBytes?, dif_pos block.size]

theorem blockAt_eq_none {data : Bytes} {index : Nat} (short : data.length < 16 * index + 16) :
    blockAt data index = none := by
  rw [blockAt, slice?, if_neg (by omega)]
  rfl

section Parts

variable {tail : Bytes} (short : tail.length < 16)

include short

theorem blockAt_joined (blocks : List Block) (index : Nat) :
    blockAt (joined blocks ++ tail) index = blocks[index]? := by
  by_cases inside : index < blocks.length
  · have split : blocks = blocks.take index ++ blocks[index] :: blocks.drop (index + 1) := by
      rw [← List.drop_eq_getElem_cons inside, List.take_append_drop]
    have front : (joined (blocks.take index)).length = 16 * index := by
      rw [length_joined, List.length_take_of_le (Nat.le_of_lt inside)]
    rw [List.getElem?_eq_getElem inside]
    calc
      blockAt (joined blocks ++ tail) index =
          blockAt (joined (blocks.take index) ++ (blocks[index].bytes ++
            (joined (blocks.drop (index + 1)) ++ tail))) index := by
        conv => lhs; rw [split]
        simp only [joined, List.flatMap_append, List.flatMap_cons, List.append_assoc]
      _ = _ := blockAt_middle _ _ _ front
  · rw [List.getElem?_eq_none (Nat.le_of_not_lt inside), blockAt_eq_none]
    rw [List.length_append, length_joined]
    omega

theorem blocksOf_joined (blocks : List Block) : blocksOf (joined blocks ++ tail) = blocks := by
  have count : (joined blocks ++ tail).length / 16 = blocks.length := by
    rw [List.length_append, length_joined]
    omega
  have reads (taken : Nat) :
      (List.range taken).filterMap (fun index => blocks[index]?) = blocks.take taken := by
    induction taken with
    | zero => rfl
    | succ taken ih =>
        rw [List.range_succ, List.filterMap_append, ih, List.take_add_one, List.filterMap_cons]
        cases blocks[taken]? <;> rfl
  rw [blocksOf, count, funext (blockAt_joined short blocks), reads, List.take_length]

theorem restOf_joined (blocks : List Block) : restOf (joined blocks ++ tail) = tail := by
  have count : 16 * ((joined blocks ++ tail).length / 16) = (joined blocks).length := by
    rw [List.length_append, length_joined]
    omega
  rw [restOf, count, List.drop_left]

end Parts

/-- Every byte string is its whole blocks and less than one block. -/
theorem exists_joined (data : Bytes) :
    ∃ blocks tail, data = joined blocks ++ tail ∧ tail.length < 16 := by
  induction size : data.length / 16 generalizing data with
  | zero => exact ⟨[], data, rfl, by omega⟩
  | succ count ih =>
      have whole : (data.take 16).length = 16 := by
        rw [List.length_take]
        omega
      obtain ⟨blocks, tail, later, short⟩ := ih (data.drop 16) (by rw [List.length_drop]; omega)
      refine ⟨⟨data.take 16, whole⟩ :: blocks, tail, ?_, short⟩
      rw [joined, List.flatMap_cons, List.append_assoc, ← joined, ← later, List.take_append_drop]

theorem short_restOf (data : Bytes) : (restOf data).length < 16 := by
  rw [restOf, List.length_drop]
  omega

theorem joined_blocksOf (data : Bytes) : joined (blocksOf data) ++ restOf data = data := by
  obtain ⟨blocks, tail, rfl, short⟩ := exists_joined data
  rw [blocksOf_joined short, restOf_joined short]

theorem blockAt_eq (data : Bytes) (index : Nat) : blockAt data index = (blocksOf data)[index]? := by
  have read := blockAt_joined (short_restOf data) (blocksOf data) index
  rwa [joined_blocksOf] at read

/-! ## The loop -/

section Loop

variable (cipher : BlockCipher) (key : Block)

/-- A pass replaces one block, and keeps the cipher block that stood there. -/
theorem cbcPass_eq (before after : Bytes) (block prev : Block) {index : Nat}
    (start : before.length = 16 * index) :
    cbcPass cipher key ⟨before ++ (block.bytes ++ after), prev⟩ index =
      some ⟨before ++ (((cipher.decryptBlock key block).xor prev).bytes ++ after), block⟩ := by
  have decrypted := splice?_middle before block.bytes after (cipher.decryptBlock key block).bytes
    (16 * index) start (block.size.trans (Block.size _).symm)
  have mixed := splice?_middle before (cipher.decryptBlock key block).bytes after
    ((cipher.decryptBlock key block).xor prev).bytes (16 * index) start
    ((Block.size _).trans (Block.size _).symm)
  simp only [cbcPass, blockAt_middle _ _ _ start, decrypted, mixed, Option.bind_eq_bind,
    Option.bind_some]

/-- The passes over some blocks leave what they decrypt to, the bytes before them and the bytes
behind them. -/
theorem foldlM_cbcPass (start : Nat) (before : Bytes) (blocks : List Block) (tail : Bytes)
    (prev : Block) (offset : before.length = 16 * start) :
    (List.range' start blocks.length).foldlM (cbcPass cipher key)
        ⟨before ++ (joined blocks ++ tail), prev⟩ =
      some ⟨before ++ (joined (decryptChain Block.xor (cipher.decryptBlock key) prev blocks) ++
        tail), chained prev blocks⟩ := by
  induction blocks generalizing before start prev with
  | nil => rfl
  | cons block rest ih =>
      have next := ih (start + 1) (before ++ ((cipher.decryptBlock key block).xor prev).bytes) block
        (by rw [List.length_append, offset, Block.size]; rfl)
      rw [List.length_cons, List.range'_succ, List.foldlM_cons, joined, List.flatMap_cons,
        List.append_assoc, cbcPass_eq _ _ _ _ _ _ offset, Option.bind_eq_bind, Option.bind_some,
        ← List.append_assoc, ← joined, next, chained_cons, decryptChain, joined, joined,
        List.flatMap_cons, List.append_assoc, List.append_assoc]

/-- The loop decrypts the chain of the whole blocks, and leaves the rest. -/
theorem aesCbcDecrypt_eq (data : Bytes) (iv : Block) :
    aesCbcDecrypt cipher data key iv =
      some (joined (decryptChain Block.xor (cipher.decryptBlock key) iv (blocksOf data)) ++
        restOf data) := by
  have count : data.length / 16 = (blocksOf data).length := by
    have whole := congrArg List.length (joined_blocksOf data)
    have short := short_restOf data
    rw [List.length_append, length_joined] at whole
    omega
  have loop := foldlM_cbcPass cipher key 0 [] (blocksOf data) (restOf data) iv rfl
  rw [List.nil_append, joined_blocksOf, ← List.range_eq_range', ← count] at loop
  rw [aesCbcDecrypt, loop]
  rfl

/-! ## Encryption -/

/-- The encrypted chain of the whole blocks, with the rest behind it as it was. -/
def cbcEncrypt (cipher : BlockCipher) (key iv : Block) (plain : Bytes) : Bytes :=
  joined (encryptChain Block.xor (cipher.encryptBlock key) iv (blocksOf plain)) ++ restOf plain

/-- The cipher block in front of an index, which is the initialisation vector for the first. -/
def precedingBlock (iv : Block) (data : Bytes) : Nat → Option Block
  | 0 => some iv
  | index + 1 => blockAt data index

theorem aesCbcDecrypt_cbcEncrypt (iv : Block) (plain : Bytes) :
    aesCbcDecrypt cipher (cbcEncrypt cipher key iv plain) key iv = some plain := by
  have short := short_restOf plain
  have chain := decryptChain_encryptChain Block.cancels_xor (cipher.decrypt_encrypt key) iv
    (blocksOf plain)
  rw [aesCbcDecrypt_eq, cbcEncrypt, blocksOf_joined short, restOf_joined short, chain,
    joined_blocksOf]

variable {cipher key} {data out : Bytes} {iv : Block}

theorem length_of_aesCbcDecrypt (decrypted : aesCbcDecrypt cipher data key iv = some out) :
    out.length = data.length ∧ restOf out = restOf data := by
  rw [aesCbcDecrypt_eq] at decrypted
  cases decrypted
  refine ⟨?_, restOf_joined (short_restOf data) _⟩
  conv => rhs; rw [← joined_blocksOf data]
  rw [List.length_append, List.length_append, length_joined, length_joined, length_decryptChain]

/-- A block of the result is made of its own and the preceding cipher block. -/
theorem blockAt_of_aesCbcDecrypt (decrypted : aesCbcDecrypt cipher data key iv = some out)
    (index : Nat) :
    blockAt out index = (blockAt data index).bind fun block =>
      (precedingBlock iv data index).map fun before =>
        (cipher.decryptBlock key block).xor before := by
  rw [aesCbcDecrypt_eq] at decrypted
  cases decrypted
  have before : (iv :: blocksOf data)[index]? = precedingBlock iv data index := by
    cases index with
    | zero => rfl
    | succ index => exact (blockAt_eq data index).symm
  rw [blockAt_joined (short_restOf data), getElem?_decryptChain, before, blockAt_eq]

end Loop

/-- Decryption restores what was encrypted.  It leaves what stands behind the last whole block, and
each of its blocks depends only on the cipher block at its place and the one before it. -/
theorem aesCbcDecrypt_inverts (cipher : BlockCipher) (key : Block) :
    (∀ (iv : Block) (plain : Bytes),
        aesCbcDecrypt cipher (cbcEncrypt cipher key iv plain) key iv = some plain) ∧
      (∀ (iv : Block) (data : Bytes), ∃ out, aesCbcDecrypt cipher data key iv = some out ∧
        out.length = data.length ∧ restOf out = restOf data) ∧
      ∀ (iv iv' : Block) (data data' out out' : Bytes) (index : Nat),
        aesCbcDecrypt cipher data key iv = some out →
        aesCbcDecrypt cipher data' key iv' = some out' →
        blockAt data index = blockAt data' index →
        precedingBlock iv data index = precedingBlock iv' data' index →
        blockAt out index = blockAt out' index := by
  refine ⟨aesCbcDecrypt_cbcEncrypt cipher key, fun iv data => ?_, ?_⟩
  · have decrypted := aesCbcDecrypt_eq cipher key data iv
    exact ⟨_, decrypted, length_of_aesCbcDecrypt decrypted⟩
  · intro iv iv' data data' out out' index decrypted decrypted' same before
    rw [blockAt_of_aesCbcDecrypt decrypted, blockAt_of_aesCbcDecrypt decrypted', same, before]

/-- The cipher that mixes a block with its key. -/
def xorCipher : BlockCipher where
  encryptBlock key block := block.xor key
  decryptBlock key block := block.xor key
  decrypt_encrypt key block := Block.cancels_xor block key

def zeroBlock : Block := ⟨List.replicate 16 0, List.length_replicate⟩

/-- Two blocks and a byte in common, and more of one byte behind them. -/
def sameFront (byte : UInt8) : Bytes := List.replicate 33 7 ++ List.replicate 16 byte

theorem aesCbcDecrypt_inverts_sameFront :
    ∃ out out', aesCbcDecrypt xorCipher (sameFront 1) zeroBlock zeroBlock = some out ∧
      aesCbcDecrypt xorCipher (sameFront 2) zeroBlock zeroBlock = some out' ∧
      blockAt out 1 = blockAt out' 1 := by
  obtain ⟨-, total, depends⟩ := aesCbcDecrypt_inverts xorCipher zeroBlock
  obtain ⟨out, decrypted, -⟩ := total zeroBlock (sameFront 1)
  obtain ⟨out', decrypted', -⟩ := total zeroBlock (sameFront 2)
  exact ⟨out, out', decrypted, decrypted',
    depends _ _ _ _ _ _ 1 decrypted decrypted' (by decide) (by decide)⟩

/-- To cut off what is left of the last block first makes no difference. -/
theorem decryptImage_eq (cipher : BlockCipher) (key iv : Block) (header data : Bytes) :
    decryptImage cipher header.length (header ++ data) key iv =
      (aesCbcDecrypt cipher data key iv).map (header ++ ·) := by
  have whole := joined_blocksOf data
  have cut := congrArg List.length whole
  rw [List.length_append, length_joined] at cut
  have aligned : data.length / 16 * 16 = (joined (blocksOf data)).length := by
    have short := short_restOf data
    rw [length_joined]
    omega
  have encLen : checkedSub (header ++ data).length header.length = some data.length := by
    rw [List.length_append, checkedSub, if_pos (Nat.le_add_right _ _), Nat.add_sub_cancel_left]
  have range : slice? (header ++ data) header.length
      (header.length + data.length / 16 * 16) = some (joined (blocksOf data)) := by
    conv => lhs; rw [← whole]
    exact slice?_middle _ _ _ _ _ rfl (by rw [whole, aligned])
  have chain := aesCbcDecrypt_eq cipher key (joined (blocksOf data) ++ []) iv
  rw [blocksOf_joined (by decide), restOf_joined (by decide), List.append_nil, List.append_nil]
    at chain
  have written := splice?_middle header (joined (blocksOf data)) (restOf data)
    (joined (decryptChain Block.xor (cipher.decryptBlock key) iv (blocksOf data))) header.length rfl
    (by rw [length_joined, length_joined, length_decryptChain])
  rw [whole] at written
  simp only [decryptImage, encLen, range, chain, written, Option.bind_eq_bind, Option.bind_some]
  rw [aesCbcDecrypt_eq, Option.map_some]

/-- A container whose images are encrypted is restored behind its header. -/
theorem decryptImage_cbcEncrypt (cipher : BlockCipher) (key iv : Block) (header plain : Bytes) :
    decryptImage cipher header.length (header ++ cbcEncrypt cipher key iv plain) key iv =
      some (header ++ plain) := by
  rw [decryptImage_eq, aesCbcDecrypt_cbcEncrypt, Option.map_some]

end RbctlDsl.Fwextract
