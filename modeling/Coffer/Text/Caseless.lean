/-
**Names compared without regard to ASCII case.**

Two names are the same if they agree up to the case of the letters `A` to `Z`; all other characters
count as they are.  A NUL character ends the part of a name that is compared, and behind it only the
length of the whole name counts.

Main definitions: `Coffer.Text.nameKey`, `Coffer.Text.sameName`, `Coffer.Text.nameLe`.

Main results: `Coffer.Text.sameName_iff`, `Coffer.Text.sameName_refl`.
-/

set_option autoImplicit false

namespace Coffer.Text

-- texts are compared by the core order of lists
attribute [local instance (high)] List.instLE List.decidableLE

/-- The ASCII letters of a text in lower case, the other characters as they are. -/
def foldAscii (s : List Char) : List Char := s.map Char.toLower

/-- Whether two texts agree up to the case of ASCII letters. -/
def sameAscii (a b : String) : Bool := foldAscii a.toList == foldAscii b.toList

/-- What is compared of a name: its folded characters before the first NUL, then its length. -/
def nameKey (s : String) : List Char × Nat :=
  (foldAscii (s.toList.takeWhile (· != '\x00')), s.utf8ByteSize)

/-- Whether two names are the same. -/
def sameName (a b : String) : Bool := nameKey a == nameKey b

/-- Names in the order of their keys. -/
def nameLe (a b : String) : Bool :=
  let ka := nameKey a
  let kb := nameKey b
  if ka.1 = kb.1 then decide (ka.2 ≤ kb.2) else decide (ka.1 ≤ kb.1)

theorem sameName_iff {a b : String} : sameName a b = true ↔ nameKey a = nameKey b := by
  simp [sameName]

@[simp] theorem sameName_refl (a : String) : sameName a a = true := by
  simp [sameName]

theorem sameName_comm (a b : String) : sameName a b = sameName b a := by
  exact BEq.comm

end Coffer.Text
