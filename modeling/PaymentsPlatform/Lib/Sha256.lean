/- layer: library
   digest: SHA-256 and the HMAC over it, on lists of bytes. -/

import Mathlib.Data.List.Basic
import Mathlib.Logic.Function.Iterate

namespace PaymentsPlatform.Lib.Sha256

abbrev Word := BitVec 32

def primes : List Nat :=
  (List.range' 2 310).filter fun n => (List.range' 2 (n - 2)).all (n % · != 0)

/-- The first 32 bits of the fractional part of the cube root. -/
def cubeRoot (p : Nat) : Word :=
  BitVec.ofNat 32 ((List.range 36).foldr (fun i n =>
    let m := n + 1 <<< i
    if m * m * m ≤ p <<< 96 then m else n) 0)

def roundConstants : List Word := primes.map cubeRoot

/-- The working variables of the compression. -/
structure Digest where
  (a b c d e f g h : Word)

def Digest.initial : Digest :=
  ⟨0x6a09e667, 0xbb67ae85, 0x3c6ef372, 0xa54ff53a, 0x510e527f, 0x9b05688c, 0x1f83d9ab, 0x5be0cd19⟩

def round : Digest → Word × Word → Digest
  | ⟨a, b, c, d, e, f, g, h⟩, (k, w) =>
    let t := h + (e.rotateRight 6 ^^^ e.rotateRight 11 ^^^ e.rotateRight 25) +
      ((e &&& f) ^^^ (~~~e &&& g)) + k + w
    let u := (a.rotateRight 2 ^^^ a.rotateRight 13 ^^^ a.rotateRight 22) +
      ((a &&& b) ^^^ (a &&& c) ^^^ (b &&& c))
    ⟨t + u, a, b, c, d + t, e, f, g⟩

/-- One more word of the schedule, which is kept with the latest word first. -/
def extend (ws : List Word) : List Word :=
  let x := ws.getD 14 0
  let y := ws.getD 1 0
  ((y.rotateRight 17 ^^^ y.rotateRight 19 ^^^ y >>> 10) + ws.getD 6 0 +
    (x.rotateRight 7 ^^^ x.rotateRight 18 ^^^ x >>> 3) + ws.getD 15 0) :: ws

def compress (s : Digest) (block : List Word) : Digest :=
  let t := (roundConstants.zip (extend^[48] block.reverse).reverse).foldl round s
  ⟨s.a + t.a, s.b + t.b, s.c + t.c, s.d + t.d, s.e + t.e, s.f + t.f, s.g + t.g, s.h + t.h⟩

def bigEndian (n count : Nat) : List UInt8 :=
  (List.range count).map fun i => UInt8.ofNat (n >>> (8 * (count - 1 - i)))

def pad (message : List UInt8) : List UInt8 :=
  message ++ 0x80 :: List.replicate ((119 - message.length % 64) % 64) 0 ++
    bigEndian (8 * message.length) 8

def words (bytes : List UInt8) : List Word :=
  (bytes.toChunks 4).map fun chunk => BitVec.ofNat 32 (chunk.foldl (fun n b => n * 256 + b.toNat) 0)

def sha256 (message : List UInt8) : List UInt8 :=
  let s := ((words (pad message)).toChunks 16).foldl compress Digest.initial
  [s.a, s.b, s.c, s.d, s.e, s.f, s.g, s.h].flatMap fun w => bigEndian w.toNat 4

/-- The first bytes of the digest of "abc", from the standard's own test. -/
example : (sha256 [97, 98, 99]).take 4 = [0xba, 0x78, 0x16, 0xbf] := by decide +kernel

def hmac (key message : List UInt8) : List UInt8 :=
  let key := if 64 < key.length then sha256 key else key
  let key := key ++ List.replicate (64 - key.length) 0
  sha256 (key.map (· ^^^ 0x5c) ++ sha256 (key.map (· ^^^ 0x36) ++ message))

end PaymentsPlatform.Lib.Sha256
