/-
**Sealing a text of bytes with a passphrase.**

A sealed text starts with a tag, which is a digest of the plain text under a key.  Behind it stands
the plain text, masked with a stream that is made from the tag and a second key.  Both keys come
from the passphrase, by many digests, so that trying passphrases is slow.

To open a sealed text is to unmask it and to compare the tag.  The same text under the same
passphrase is always sealed in the same way; nothing else shows.

Main definitions: `Coffer.Seal.close`, `Coffer.Seal.open?`.

Main results: `Coffer.Seal.open?_close` — what was sealed opens with the same passphrase.
-/

import Coffer.Seal.Digest

set_option autoImplicit false

namespace Coffer.Seal

/-! ### Keys -/

/-- How many digests lie between a passphrase and its key. -/
def hardness : Nat := 1000

/-- Mixes two texts of bytes of the same length. -/
def mask (text stream : List UInt8) : List UInt8 := List.zipWith (· ^^^ ·) text stream

/-- Mixes the digests of a row of so many, each made from the one before. -/
def strengthen (key : List UInt8) : Nat → List UInt8 → List UInt8 → List UInt8
  | 0, _, mixed => mixed
  | n + 1, last, mixed =>
    let next := keyed key last
    strengthen key n next (mask mixed next)

/-- The key of a passphrase. -/
def keyOf (passphrase : List UInt8) : List UInt8 :=
  let first := keyed passphrase ("coffer".toUTF8.toList ++ [0, 0, 0, 1])
  strengthen passphrase (hardness - 1) first first

/-- The key for tags. -/
def tagKey (key : List UInt8) : List UInt8 := keyed key [1]

/-- The key for streams. -/
def streamKey (key : List UInt8) : List UInt8 := keyed key [2]

/-! ### Sealing -/

/-- The length of a tag. -/
def tagLength : Nat := 32

/-- The tag of a text: a digest, cut or filled up to the length of a tag. -/
def tag (key text : List UInt8) : List UInt8 :=
  let t := keyed (tagKey key) text
  t.take tagLength ++ List.replicate (tagLength - t.length) 0

/-- So many bytes of the stream of a tag. -/
def stream (key tag : List UInt8) (n : Nat) : List UInt8 :=
  let blocks := (List.range (n / tagLength + 1)).flatMap fun i =>
    keyed (streamKey key) (tag ++ (List.range 8).map fun j => UInt8.ofNat (i / 256 ^ j))
  blocks.take n ++ List.replicate (n - blocks.length) 0

/-- Seals a text with a key. -/
def closeWith (key text : List UInt8) : List UInt8 :=
  let t := tag key text
  t ++ mask text (stream key t text.length)

/-- Opens a sealed text with a key, if it is the right one. -/
def openWith? (key sealedText : List UInt8) : Option (List UInt8) :=
  let t := sealedText.take tagLength
  let masked := sealedText.drop tagLength
  let text := mask masked (stream key t masked.length)
  -- under another key the text comes out as noise, whose tag is another one
  if tag key text = t then some text else none

/-- **Seals a text** with a passphrase. -/
def close (passphrase text : List UInt8) : List UInt8 := closeWith (keyOf passphrase) text

/-- **Opens a sealed text** with a passphrase, if it is the right one. -/
def open? (passphrase sealedText : List UInt8) : Option (List UInt8) :=
  openWith? (keyOf passphrase) sealedText

/-! ### What was sealed opens -/

theorem length_tag (key text : List UInt8) : (tag key text).length = tagLength := by
  simp only [tag, List.length_append, List.length_take, List.length_replicate]
  omega

theorem length_stream (key tag : List UInt8) (n : Nat) : (stream key tag n).length = n := by
  simp only [stream, List.length_append, List.length_take, List.length_replicate]
  omega

/-- A mask of a text as long as the stream has its length. -/
theorem length_mask {text stream : List UInt8} (h : stream.length = text.length) :
    (mask text stream).length = text.length := by
  simp [mask, h]

/-- Masking twice with the same stream changes nothing. -/
theorem mask_mask {text stream : List UInt8} (h : stream.length = text.length) :
    mask (mask text stream) stream = text := by
  induction text generalizing stream with
  | nil => simp [mask]
  | cons b rest ih =>
      match stream, h with
      | c :: cs, h =>
          have hl : cs.length = rest.length := by simpa using h
          have := ih hl
          simp only [mask, List.zipWith_cons_cons] at this ⊢
          rw [this, UInt8.xor_assoc, UInt8.xor_self, UInt8.xor_zero]

/-- A sealed text starts with its tag. -/
theorem take_closeWith (key text : List UInt8) :
    (closeWith key text).take tagLength = tag key text := by
  rw [closeWith, List.take_left' (length_tag key text)]

/-- Behind its tag a sealed text is masked. -/
theorem drop_closeWith (key text : List UInt8) :
    (closeWith key text).drop tagLength = mask text (stream key (tag key text) text.length) := by
  rw [closeWith, List.drop_left' (length_tag key text)]

/-- **What was sealed opens** with the same key. -/
theorem openWith?_closeWith (key text : List UInt8) :
    openWith? key (closeWith key text) = some text := by
  have hs := length_stream key (tag key text) text.length
  rw [openWith?, take_closeWith, drop_closeWith]
  simp only [length_mask hs, mask_mask hs, if_true]

/-- **What was sealed opens** with the same passphrase. -/
theorem open?_close (passphrase text : List UInt8) :
    open? passphrase (close passphrase text) = some text := by
  rw [open?, close, openWith?_closeWith]

end Coffer.Seal
