import RbctlDsl.Lib.NatBytes

/-!
# SHA-256

The hash function of FIPS 180-4.
-/

namespace RbctlDsl.Lib

namespace Fips180

/-- `K`. -/
def roundConstants : List UInt32 :=
  [0x428a2f98, 0x71374491, 0xb5c0fbcf, 0xe9b5dba5, 0x3956c25b, 0x59f111f1, 0x923f82a4, 0xab1c5ed5,
    0xd807aa98, 0x12835b01, 0x243185be, 0x550c7dc3, 0x72be5d74, 0x80deb1fe, 0x9bdc06a7, 0xc19bf174,
    0xe49b69c1, 0xefbe4786, 0x0fc19dc6, 0x240ca1cc, 0x2de92c6f, 0x4a7484aa, 0x5cb0a9dc, 0x76f988da,
    0x983e5152, 0xa831c66d, 0xb00327c8, 0xbf597fc7, 0xc6e00bf3, 0xd5a79147, 0x06ca6351, 0x14292967,
    0x27b70a85, 0x2e1b2138, 0x4d2c6dfc, 0x53380d13, 0x650a7354, 0x766a0abb, 0x81c2c92e, 0x92722c85,
    0xa2bfe8a1, 0xa81a664b, 0xc24b8b70, 0xc76c51a3, 0xd192e819, 0xd6990624, 0xf40e3585, 0x106aa070,
    0x19a4c116, 0x1e376c08, 0x2748774c, 0x34b0bcb5, 0x391c0cb3, 0x4ed8aa4a, 0x5b9cca4f, 0x682e6ff3,
    0x748f82ee, 0x78a5636f, 0x84c87814, 0x8cc70208, 0x90befffa, 0xa4506ceb, 0xbef9a3f7, 0xc67178f2]

/-- The working variables, and the hash value between two blocks. -/
structure Vars where
  a : UInt32
  b : UInt32
  c : UInt32
  d : UInt32
  e : UInt32
  f : UInt32
  g : UInt32
  h : UInt32

def initial : Vars where
  a := 0x6a09e667
  b := 0xbb67ae85
  c := 0x3c6ef372
  d := 0xa54ff53a
  e := 0x510e527f
  f := 0x9b05688c
  g := 0x1f83d9ab
  h := 0x5be0cd19

def rotr (value count : UInt32) : UInt32 := value >>> count ||| value <<< (32 - count)

/-- One round, with its constant and its word of the schedule. -/
def Vars.round (vars : Vars) (constant word : UInt32) : Vars :=
  let sum1 := rotr vars.e 6 ^^^ rotr vars.e 11 ^^^ rotr vars.e 25
  let ch := (vars.e &&& vars.f) ^^^ (~~~vars.e &&& vars.g)
  let t1 := vars.h + sum1 + ch + constant + word
  let sum0 := rotr vars.a 2 ^^^ rotr vars.a 13 ^^^ rotr vars.a 22
  let maj := (vars.a &&& vars.b) ^^^ (vars.a &&& vars.c) ^^^ (vars.b &&& vars.c)
  ⟨t1 + (sum0 + maj), vars.a, vars.b, vars.c, vars.d + t1, vars.e, vars.f, vars.g⟩

/-- The word of the schedule behind these 16. -/
def nextWord (window : List UInt32) : UInt32 :=
  let word (index : Nat) := window.getD index 0
  let sigma1 := rotr (word 14) 17 ^^^ rotr (word 14) 19 ^^^ word 14 >>> 10
  let sigma0 := rotr (word 1) 7 ^^^ rotr (word 1) 18 ^^^ word 1 >>> 3
  sigma1 + word 9 + sigma0 + word 0

/-- The rounds, each with the first word of the window, which then moves on. -/
def rounds (vars : Vars) (window : List UInt32) : List UInt32 → Vars
  | [] => vars
  | constant :: constants =>
    rounds (vars.round constant (window.getD 0 0)) (window.drop 1 ++ [nextWord window]) constants

def Vars.add (vars other : Vars) : Vars :=
  ⟨vars.a + other.a, vars.b + other.b, vars.c + other.c, vars.d + other.d, vars.e + other.e,
    vars.f + other.f, vars.g + other.g, vars.h + other.h⟩

def wordsOf (block : Bytes) : List UInt32 :=
  (List.range 16).map fun index => .ofNat (fromBytesBe ((block.drop (4 * index)).take 4))

def compress (vars : Vars) (block : Bytes) : Vars :=
  vars.add (rounds vars (wordsOf block) roundConstants)

/-- The data with a one bit, zeros and its length in bits behind it, a multiple of 64 bytes. -/
def padded (data : Bytes) : Bytes :=
  data ++ 0x80 :: (List.replicate ((119 - data.length % 64) % 64) 0 ++
    (toBytesLe 8 (data.length * 8 % 2 ^ 64)).reverse)

def blocks (data : Bytes) : List Bytes :=
  (List.range (data.length / 64)).map fun index => (data.drop (64 * index)).take 64

def Vars.bytes (vars : Vars) : Bytes :=
  [vars.a, vars.b, vars.c, vars.d, vars.e, vars.f, vars.g, vars.h].flatMap beBytes32

end Fips180

def sha256 (data : Bytes) : Bytes :=
  ((Fips180.blocks (Fips180.padded data)).foldl Fips180.compress Fips180.initial).bytes

@[simp] theorem length_sha256 (data : Bytes) : (sha256 data).length = 32 := rfl

example : sha256 [0x61, 0x62, 0x63] =
    [0xba, 0x78, 0x16, 0xbf, 0x8f, 0x01, 0xcf, 0xea, 0x41, 0x41, 0x40, 0xde, 0x5d, 0xae, 0x22, 0x23,
      0xb0, 0x03, 0x61, 0xa3, 0x96, 0x17, 0x7a, 0x9c, 0xb4, 0x10, 0xff, 0x61, 0xf2, 0x00, 0x15,
      0xad] := by
  decide +kernel

end RbctlDsl.Lib
