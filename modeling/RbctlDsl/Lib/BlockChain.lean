import Mathlib.Data.List.Basic

/-!
# Cipher block chaining

Blocks of any type that are mixed with the cipher block before them.  Decryption inverts encryption
as soon as the cipher and the mixing can be undone, and each of its blocks depends on two cipher
blocks.
-/

namespace RbctlDsl.Lib

variable {Block : Type} (mix : Block → Block → Block)

/-- Mixing the same value in twice undoes it. -/
def Cancels : Prop := ∀ block mask, mix (mix block mask) mask = block

/-- Each block is mixed with the cipher block before it, and encrypted. -/
def encryptChain (encrypt : Block → Block) : Block → List Block → List Block
  | _, [] => []
  | prev, block :: rest =>
    let ciphertextBlock := encrypt (mix block prev)
    ciphertextBlock :: encryptChain encrypt ciphertextBlock rest

/-- Each block is decrypted, and mixed with the cipher block before it. -/
def decryptChain (decrypt : Block → Block) : Block → List Block → List Block
  | _, [] => []
  | prev, block :: rest => mix (decrypt block) prev :: decryptChain decrypt block rest

/-- The chaining value behind some cipher blocks. -/
def chained (prev : Block) (blocks : List Block) : Block := blocks.getLast?.getD prev

variable {mix} {encrypt decrypt : Block → Block}

@[simp] theorem length_decryptChain (prev : Block) (blocks : List Block) :
    (decryptChain mix decrypt prev blocks).length = blocks.length := by
  induction blocks generalizing prev with
  | nil => rfl
  | cons block rest ih => rw [decryptChain, List.length_cons, List.length_cons, ih]

@[simp] theorem length_encryptChain (prev : Block) (blocks : List Block) :
    (encryptChain mix encrypt prev blocks).length = blocks.length := by
  induction blocks generalizing prev with
  | nil => rfl
  | cons block rest ih => rw [encryptChain, List.length_cons, List.length_cons, ih]

/-- Decryption inverts encryption. -/
theorem decryptChain_encryptChain (cancels : Cancels mix)
    (inverse : ∀ block, decrypt (encrypt block) = block)
    (prev : Block) (blocks : List Block) :
    decryptChain mix decrypt prev (encryptChain mix encrypt prev blocks) = blocks := by
  induction blocks generalizing prev with
  | nil => rfl
  | cons block rest ih => rw [encryptChain, decryptChain, inverse, cancels, ih]

/-- A decrypted block is made of its own and the preceding cipher block. -/
theorem getElem?_decryptChain (prev : Block) (blocks : List Block) (index : Nat) :
    (decryptChain mix decrypt prev blocks)[index]? =
      blocks[index]?.bind fun block =>
        (prev :: blocks)[index]?.map fun before => mix (decrypt block) before := by
  induction blocks generalizing prev index with
  | nil => rfl
  | cons block rest ih =>
      cases index with
      | zero => rfl
      | succ index => exact ih block index

theorem chained_cons (prev block : Block) (rest : List Block) :
    chained prev (block :: rest) = chained block rest := by
  cases rest with
  | nil => rfl
  | cons next rest =>
      rw [chained, chained, List.getLast?_cons_cons]
      rfl

end RbctlDsl.Lib
