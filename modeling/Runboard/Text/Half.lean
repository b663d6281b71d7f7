/-!
# `Runboard.Text.Half`: halves of characters

A text is a list of code points, and surrogates from U+D800 to U+DFFF are among them: the `\u` escapes of
JSON make such texts. A `Char` is no surrogate, so a lone one is held as a stand-in, the private-use
character of plane sixteen with the same lowest digits, U+10D800 to U+10DFFF. A text with lone surrogates
can be shown and compared, but `encode` raises `UnicodeEncodeError`: it has no bytes.

There are more code points than characters, so the stand-ins are taken from these: a text that holds the
private-use characters U+10D800 to U+10DFFF themselves is not modelled, and is read as one of lone
surrogates.

## Contents

* `ofHalf`, `half?`, `holdsHalf`: halves and their stand-ins;
* `half?_ofHalf`: the half that a stand-in was made of is read back.
-/

namespace Runboard.Text

/-- The distance of a half from its stand-in. -/
def halfShift : Nat := 0x100000

/-- The stand-in of a half. -/
def ofHalf (unit : Nat) : Char := Char.ofNat (unit + halfShift)

/-- The half that a character stands for. -/
def half? (c : Char) : Option Nat :=
  let n := c.toNat
  if 0xd800 + halfShift ≤ n ∧ n < 0xe000 + halfShift then some (n - halfShift) else none

/-- Whether a text holds a half. -/
def holdsHalf (s : String) : Bool := s.toList.any fun c => (half? c).isSome

/-! ## Small facts -/

/-- The half that a stand-in was made of is read back. -/
theorem half?_ofHalf {unit : Nat} (low : 0xd800 ≤ unit) (high : unit < 0xe000) :
    half? (ofHalf unit) = some unit := by
  have valid : (unit + halfShift).isValidChar := by
    simp only [Nat.isValidChar, halfShift]; omega
  have value : (ofHalf unit).toNat = unit + halfShift := by
    rw [ofHalf, Char.ofNat, dif_pos valid]
    rfl
  simp only [half?, value, halfShift]
  rw [if_pos ⟨by omega, by omega⟩]
  simp

end Runboard.Text
