/-
CRC-32 and SHA-256 of some octets, such that the kernel can evaluate both on a
message that is given.
-/
import Mathlib.Data.BitVec
import Mathlib.Data.List.Basic

namespace Checksum

abbrev Octet := BitVec 8
abbrev Word32 := BitVec 32

/-- The bits of an octet, the lowest first. -/
def octetBits (octet : Octet) : List Bool := (List.range 8).map octet.getLsbD

/-- The shift register of CRC-32, fed a bit at a time. -/
def crcBits : List Bool → Nat → Nat
  | [], register => register
  | bit :: bits, register =>
    if (register % 2 == 1) != bit then
      crcBits bits (register / 2 ^^^ 0xedb88320)
    else crcBits bits (register / 2)

/-- The register behind some octets. -/
def crc32Le (seed : Word32) (data : List Octet) : Word32 :=
  BitVec.ofNat 32 (crcBits (data.flatMap octetBits) seed.toNat)

/-- CRC-32: the register begins with ones and is inverted. -/
def crc32 (data : List Octet) : Word32 :=
  crc32Le 0xffffffff data ^^^ 0xffffffff

/-- The check value, of the digits from 1 to 9. -/
example : crc32 ((List.range 9).map fun i => BitVec.ofNat 8 (0x31 + i)) =
    0xcbf43926#32 := by
  decide +kernel

/-- The cube roots of the first primes, behind the point. -/
def roundConstants : List Word32 :=
  [0x428a2f98, 0x71374491, 0xb5c0fbcf, 0xe9b5dba5, 0x3956c25b, 0x59f111f1,
   0x923f82a4, 0xab1c5ed5, 0xd807aa98, 0x12835b01, 0x243185be, 0x550c7dc3,
   0x72be5d74, 0x80deb1fe, 0x9bdc06a7, 0xc19bf174, 0xe49b69c1, 0xefbe4786,
   0x0fc19dc6, 0x240ca1cc, 0x2de92c6f, 0x4a7484aa, 0x5cb0a9dc, 0x76f988da,
   0x983e5152, 0xa831c66d, 0xb00327c8, 0xbf597fc7, 0xc6e00bf3, 0xd5a79147,
   0x06ca6351, 0x14292967, 0x27b70a85, 0x2e1b2138, 0x4d2c6dfc, 0x53380d13,
   0x650a7354, 0x766a0abb, 0x81c2c92e, 0x92722c85, 0xa2bfe8a1, 0xa81a664b,
   0xc24b8b70, 0xc76c51a3, 0xd192e819, 0xd6990624, 0xf40e3585, 0x106aa070,
   0x19a4c116, 0x1e376c08, 0x2748774c, 0x34b0bcb5, 0x391c0cb3, 0x4ed8aa4a,
   0x5b9cca4f, 0x682e6ff3, 0x748f82ee, 0x78a5636f, 0x84c87814, 0x8cc70208,
   0x90befffa, 0xa4506ceb, 0xbef9a3f7, 0xc67178f2]

/-- The eight working variables. -/
structure State where
  (a b c d e f g h : Word32)

/-- The square roots of the first primes, behind the point. -/
def State.initial : State :=
  ⟨0x6a09e667, 0xbb67ae85, 0x3c6ef372, 0xa54ff53a, 0x510e527f, 0x9b05688c,
   0x1f83d9ab, 0x5be0cd19⟩

def State.words (s : State) : List Word32 :=
  [s.a, s.b, s.c, s.d, s.e, s.f, s.g, s.h]

def State.add (s t : State) : State :=
  ⟨s.a + t.a, s.b + t.b, s.c + t.c, s.d + t.d, s.e + t.e, s.f + t.f, s.g + t.g,
   s.h + t.h⟩

def mixed (x : Word32) (i j k : Nat) : Word32 :=
  x.rotateRight i ^^^ x.rotateRight j ^^^ x.rotateRight k

def State.round (s : State) (input : Word32) : State :=
  let choice := (s.e &&& s.f) ^^^ (~~~ s.e &&& s.g)
  let majority := (s.a &&& s.b) ^^^ (s.a &&& s.c) ^^^ (s.b &&& s.c)
  let first := s.h + mixed s.e 6 11 25 + choice + input
  ⟨first + mixed s.a 2 13 22 + majority, s.a, s.b, s.c, s.d + first, s.e, s.f,
   s.g⟩

def scheduled (window : List Word32) : Word32 :=
  let w := fun i => window.getD i 0
  let low := (w 1).rotateRight 7 ^^^ (w 1).rotateRight 18 ^^^ w 1 >>> 3
  let high := (w 14).rotateRight 17 ^^^ (w 14).rotateRight 19 ^^^ w 14 >>> 10
  high + w 9 + low + w 0

/-- The rounds of a block, with the next sixteen words of the schedule. -/
def rounds : List Word32 → List Word32 → State → State
  | [], _, state => state
  | constant :: constants, window, state =>
    rounds constants (window.drop 1 ++ [scheduled window])
      (state.round (constant + window.headD 0))

def wordOf (octets : List Octet) : Word32 :=
  octets.foldl (fun word octet => word <<< 8 ||| octet.setWidth 32) 0

def compress (state : State) (block : List Octet) : State :=
  state.add (rounds roundConstants ((block.toChunks 4).map wordOf) state)

/-- A number in so many octets, the highest first. -/
def octetsOf (count value : Nat) : List Octet :=
  (List.range count).reverse.map fun i => BitVec.ofNat 8 (value / 2 ^ (8 * i))

def padded (data : List Octet) : List Octet :=
  data ++ 0x80 :: List.replicate ((119 - data.length % 64) % 64) 0 ++
    octetsOf 8 (8 * data.length)

def sha256 (data : List Octet) : List Octet :=
  (((padded data).toChunks 64).foldl compress .initial).words.flatMap
    fun word => octetsOf 4 word.toNat

theorem length_sha256 (data : List Octet) : (sha256 data).length = 32 := rfl

/-- The digest of `abc`. -/
example : sha256 [0x61, 0x62, 0x63] = octetsOf 32
    0xba7816bf8f01cfea414140de5dae2223b00361a396177a9cb410ff61f20015ad := by
  decide +kernel

end Checksum
