/-
**The digest of a text of bytes: SHA-256.**

The bytes, padded to a whole number of blocks of sixteen words, are taken in block by block.  Each
block goes through sixty-four rounds; the words that feed the later rounds are made from the earlier
ones as they are needed.

Main definitions: `Coffer.Seal.digest`, `Coffer.Seal.keyed` — the digest under a key (HMAC).
-/

set_option autoImplicit false

namespace Coffer.Seal

-- a power is the core one, whatever other instances are in scope
attribute [scoped instance (high)] instPowNat

/-! ### Words -/

/-- Turns a word to the right. -/
def turn (n : UInt32) (x : UInt32) : UInt32 := (x >>> n) ||| (x <<< (32 - n))

/-- A word of four bytes, the greatest first. -/
def word (a b c d : UInt8) : UInt32 :=
  (a.toUInt32 <<< 24) ||| (b.toUInt32 <<< 16) ||| (c.toUInt32 <<< 8) ||| d.toUInt32

/-- The words of a row of bytes. -/
def words : List UInt8 → List UInt32
  | a :: b :: c :: d :: rest => word a b c d :: words rest
  | _ => []

/-- The bytes of a word, the greatest first. -/
def bytesOf (x : UInt32) : List UInt8 :=
  [(x >>> 24).toUInt8, (x >>> 16).toUInt8, (x >>> 8).toUInt8, x.toUInt8]

/-! ### Rounds -/

/-- The constants of the rounds. -/
def roundConstants : List UInt32 :=
  [ 0x428a2f98, 0x71374491, 0xb5c0fbcf, 0xe9b5dba5, 0x3956c25b, 0x59f111f1,
    0x923f82a4, 0xab1c5ed5, 0xd807aa98, 0x12835b01, 0x243185be, 0x550c7dc3,
    0x72be5d74, 0x80deb1fe, 0x9bdc06a7, 0xc19bf174, 0xe49b69c1, 0xefbe4786,
    0x0fc19dc6, 0x240ca1cc, 0x2de92c6f, 0x4a7484aa, 0x5cb0a9dc, 0x76f988da,
    0x983e5152, 0xa831c66d, 0xb00327c8, 0xbf597fc7, 0xc6e00bf3, 0xd5a79147,
    0x06ca6351, 0x14292967, 0x27b70a85, 0x2e1b2138, 0x4d2c6dfc, 0x53380d13,
    0x650a7354, 0x766a0abb, 0x81c2c92e, 0x92722c85, 0xa2bfe8a1, 0xa81a664b,
    0xc24b8b70, 0xc76c51a3, 0xd192e819, 0xd6990624, 0xf40e3585, 0x106aa070,
    0x19a4c116, 0x1e376c08, 0x2748774c, 0x34b0bcb5, 0x391c0cb3, 0x4ed8aa4a,
    0x5b9cca4f, 0x682e6ff3, 0x748f82ee, 0x78a5636f, 0x84c87814, 0x8cc70208,
    0x90befffa, 0xa4506ceb, 0xbef9a3f7, 0xc67178f2]

/-- The eight words that are carried from round to round. -/
structure Chain where
  a : UInt32
  b : UInt32
  c : UInt32
  d : UInt32
  e : UInt32
  f : UInt32
  g : UInt32
  h : UInt32

namespace Chain

/-- Before the first block. -/
def start : Chain :=
  ⟨0x6a09e667, 0xbb67ae85, 0x3c6ef372, 0xa54ff53a, 0x510e527f, 0x9b05688c, 0x1f83d9ab, 0x5be0cd19⟩

/-- One round, with its constant and its word. -/
def round (s : Chain) (k w : UInt32) : Chain :=
  let choice := (s.e &&& s.f) ^^^ ((~~~s.e) &&& s.g)
  let majority := (s.a &&& s.b) ^^^ (s.a &&& s.c) ^^^ (s.b &&& s.c)
  let t := s.h + (turn 6 s.e ^^^ turn 11 s.e ^^^ turn 25 s.e) + choice + k + w
  let u := (turn 2 s.a ^^^ turn 13 s.a ^^^ turn 22 s.a) + majority
  ⟨t + u, s.a, s.b, s.c, s.d + t, s.e, s.f, s.g⟩

/-- The sum of two chains, word by word. -/
def add (s t : Chain) : Chain :=
  ⟨s.a + t.a, s.b + t.b, s.c + t.c, s.d + t.d, s.e + t.e, s.f + t.f, s.g + t.g, s.h + t.h⟩

/-- The bytes of a chain. -/
def bytes (s : Chain) : List UInt8 := [s.a, s.b, s.c, s.d, s.e, s.f, s.g, s.h].flatMap bytesOf

end Chain

/-- The word that comes sixteen places after the first of a window. -/
def nextWord (window : List UInt32) : UInt32 :=
  let nth := fun i => window.getD i 0
  let early := turn 7 (nth 1) ^^^ turn 18 (nth 1) ^^^ (nth 1 >>> 3)
  let late := turn 17 (nth 14) ^^^ turn 19 (nth 14) ^^^ (nth 14 >>> 10)
  nth 0 + early + nth 9 + late

/-- The rounds of a block, each with the first word of the window of words to come. -/
def rounds : List UInt32 → List UInt32 → Chain → Chain
  | k :: ks, w :: window, s => rounds ks (window ++ [nextWord (w :: window)]) (s.round k w)
  | _, _, s => s

/-- Takes in blocks of sixteen words. -/
def absorb : Nat → List UInt32 → Chain → Chain
  | 0, _, s => s
  | n + 1, ws, s => absorb n (ws.drop 16) (s.add (rounds roundConstants (ws.take 16) s))

/-! ### Digests -/

/-- Pads a text of bytes to whole blocks: a bit, zeros, and the number of bits. -/
def pad (text : List UInt8) : List UInt8 :=
  let bits := 8 * text.length
  -- one byte for the bit and eight for the length fit behind 55 bytes of the last block
  text ++ [0x80] ++ List.replicate ((119 - text.length % 64) % 64) 0
    ++ (List.range 8).map fun i => UInt8.ofNat (bits / 256 ^ (7 - i))

/-- **The digest of a text of bytes,** thirty-two bytes long. -/
def digest (text : List UInt8) : List UInt8 :=
  let padded := pad text
  (absorb (padded.length / 64) (words padded) .start).bytes

/-- A key of at most one block, filled up with zeros and mixed with a byte. -/
def mixKey (key : List UInt8) (b : UInt8) : List UInt8 :=
  let short := if key.length ≤ 64 then key else digest key
  (short ++ List.replicate (64 - short.length) 0).map (· ^^^ b)

/-- **The digest of a text under a key.** -/
def keyed (key text : List UInt8) : List UInt8 :=
  digest (mixKey key 0x5c ++ digest (mixKey key 0x36 ++ text))

end Coffer.Seal
