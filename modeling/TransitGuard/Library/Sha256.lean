import Mathlib.Data.List.Basic

/-!
SHA-256, as FIPS 180-4 defines it, on lists of bytes.
-/

namespace Sha256

/-- The eight working variables. -/
structure Registers where
  a : UInt32
  b : UInt32
  c : UInt32
  d : UInt32
  e : UInt32
  f : UInt32
  g : UInt32
  h : UInt32

def initial : Registers where
  a := 0x6a09e667
  b := 0xbb67ae85
  c := 0x3c6ef372
  d := 0xa54ff53a
  e := 0x510e527f
  f := 0x9b05688c
  g := 0x1f83d9ab
  h := 0x5be0cd19

def constants : List UInt32 :=
  [0x428a2f98, 0x71374491, 0xb5c0fbcf, 0xe9b5dba5, 0x3956c25b, 0x59f111f1, 0x923f82a4, 0xab1c5ed5,
    0xd807aa98, 0x12835b01, 0x243185be, 0x550c7dc3, 0x72be5d74, 0x80deb1fe, 0x9bdc06a7, 0xc19bf174,
    0xe49b69c1, 0xefbe4786, 0x0fc19dc6, 0x240ca1cc, 0x2de92c6f, 0x4a7484aa, 0x5cb0a9dc, 0x76f988da,
    0x983e5152, 0xa831c66d, 0xb00327c8, 0xbf597fc7, 0xc6e00bf3, 0xd5a79147, 0x06ca6351, 0x14292967,
    0x27b70a85, 0x2e1b2138, 0x4d2c6dfc, 0x53380d13, 0x650a7354, 0x766a0abb, 0x81c2c92e, 0x92722c85,
    0xa2bfe8a1, 0xa81a664b, 0xc24b8b70, 0xc76c51a3, 0xd192e819, 0xd6990624, 0xf40e3585, 0x106aa070,
    0x19a4c116, 0x1e376c08, 0x2748774c, 0x34b0bcb5, 0x391c0cb3, 0x4ed8aa4a, 0x5b9cca4f, 0x682e6ff3,
    0x748f82ee, 0x78a5636f, 0x84c87814, 0x8cc70208, 0x90befffa, 0xa4506ceb, 0xbef9a3f7, 0xc67178f2]

def rotateRight (x n : UInt32) : UInt32 := (x >>> n) ||| (x <<< (32 - n))

/-- One round, with the constant and the message word of the round. -/
def round (r : Registers) (constant word : UInt32) : Registers :=
  let sum1 := rotateRight r.e 6 ^^^ rotateRight r.e 11 ^^^ rotateRight r.e 25
  let choice := (r.e &&& r.f) ^^^ (~~~r.e &&& r.g)
  let temp1 := r.h + sum1 + choice + constant + word
  let sum0 := rotateRight r.a 2 ^^^ rotateRight r.a 13 ^^^ rotateRight r.a 22
  let majority := (r.a &&& r.b) ^^^ (r.a &&& r.c) ^^^ (r.b &&& r.c)
  ⟨temp1 + (sum0 + majority), r.a, r.b, r.c, r.d + temp1, r.e, r.f, r.g⟩

/-- The message schedule, latest word first, longer by `n` words. -/
def extend : Nat → List UInt32 → List UInt32
  | 0, words => words
  | n + 1, words =>
    let far := words.getD 14 0
    let near := words.getD 1 0
    let sigma0 := rotateRight far 7 ^^^ rotateRight far 18 ^^^ (far >>> 3)
    let sigma1 := rotateRight near 17 ^^^ rotateRight near 19 ^^^ (near >>> 10)
    extend n ((sigma1 + words.getD 6 0 + sigma0 + words.getD 15 0) :: words)

def compress (r : Registers) (words : List UInt32) : Registers :=
  let schedule := (extend 48 words.reverse).reverse
  let out := (constants.zip schedule).foldl (fun r pair => round r pair.1 pair.2) r
  ⟨r.a + out.a, r.b + out.b, r.c + out.c, r.d + out.d, r.e + out.e, r.f + out.f, r.g + out.g,
    r.h + out.h⟩

/-- The message with a one bit, zeros up to a whole block, and its length in
bits. -/
def pad (message : List UInt8) : List UInt8 :=
  let bits := 8 * message.length
  let zeros : List UInt8 := List.replicate ((119 - message.length % 64) % 64) 0
  let length : List UInt8 := (List.range 8).map fun i => UInt8.ofNat (bits >>> (8 * (7 - i)))
  message ++ 0x80 :: zeros ++ length

/-- Big-endian words. -/
def toWords : List UInt8 → List UInt32
  | a :: b :: c :: d :: rest =>
    (a.toUInt32 <<< 24 ||| b.toUInt32 <<< 16 ||| c.toUInt32 <<< 8 ||| d.toUInt32) :: toWords rest
  | _ => []

/-- The blocks, one after another; `n` of them. -/
def compressBlocks : Nat → Registers → List UInt32 → Registers
  | 0, r, _ => r
  | n + 1, r, words => compressBlocks n (compress r (words.take 16)) (words.drop 16)

def Registers.toList (r : Registers) : List UInt32 := [r.a, r.b, r.c, r.d, r.e, r.f, r.g, r.h]

def digest (message : List UInt8) : Vector UInt8 32 :=
  let words := toWords (pad message)
  let out := (compressBlocks (words.length / 16) initial words).toList
  Vector.ofFn fun i => (out.getD (i / 4) 0 >>> UInt32.ofNat (8 * (3 - i % 4))).toUInt8

example : (digest [0x61, 0x62, 0x63]).toList =
    [0xba, 0x78, 0x16, 0xbf, 0x8f, 0x01, 0xcf, 0xea, 0x41, 0x41, 0x40, 0xde, 0x5d, 0xae, 0x22, 0x23,
      0xb0, 0x03, 0x61, 0xa3, 0x96, 0x17, 0x7a, 0x9c, 0xb4, 0x10, 0xff, 0x61, 0xf2, 0x00, 0x15,
      0xad] := by
  decide +kernel

end Sha256
