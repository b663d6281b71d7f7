/-!
# `Runboard.Text.Digits`: the digits of every script

A decimal digit is a character of the Unicode category *Nd*. The category is a union of runs of ten
consecutive characters, the first of which has the value zero, so the first characters are the whole
table.

## Contents

* `zeroDigits`: the first character of each run;
* `decimalValue?`: the value of a decimal digit of any script;
* `hexValue?`: the value of a digit or of an ASCII letter up to `f`;
* `decimalValue?_lt`: a decimal digit is less than ten.
-/

namespace Runboard.Text

/-- The characters of value zero, in increasing order. -/
def zeroDigits : List Nat :=
  [ 0x30, 0x660, 0x6f0, 0x7c0, 0x966, 0x9e6, 0xa66, 0xae6, 0xb66, 0xbe6, 0xc66, 0xce6, 0xd66,
    0xde6, 0xe50, 0xed0, 0xf20, 0x1040, 0x1090, 0x17e0, 0x1810, 0x1946, 0x19d0, 0x1a80, 0x1a90,
    0x1b50, 0x1bb0, 0x1c40, 0x1c50, 0xa620, 0xa8d0, 0xa900, 0xa9d0, 0xa9f0, 0xaa50, 0xabf0,
    0xff10, 0x104a0, 0x10d30, 0x11066, 0x110f0, 0x11136, 0x111d0, 0x112f0, 0x11450, 0x114d0,
    0x11650, 0x116c0, 0x11730, 0x118e0, 0x11950, 0x11c50, 0x11d50, 0x11da0, 0x16a60, 0x16ac0,
    0x16b50, 0x1d7ce, 0x1d7d8, 0x1d7e2, 0x1d7ec, 0x1d7f6, 0x1e140, 0x1e2f0, 0x1e950, 0x1fbf0 ]

/-- The value of a decimal digit, whatever its script. -/
def decimalValue? (c : Char) : Option Nat :=
  let n := c.toNat
  if 0x30 ≤ n ∧ n ≤ 0x39 then some (n - 0x30)
  else if n < 0x80 then none
  else (zeroDigits.find? fun z => z ≤ n && n < z + 10).map (n - ·)

/-- The value of a digit in base sixteen: decimal digits of any script, ASCII letters. -/
def hexValue? (c : Char) : Option Nat :=
  let n := c.toNat
  if 0x61 ≤ n ∧ n ≤ 0x66 then some (n - 0x57)
  else if 0x41 ≤ n ∧ n ≤ 0x46 then some (n - 0x37)
  else decimalValue? c

/-! ## Small facts -/

theorem decimalValue?_lt {c : Char} {v : Nat} (h : decimalValue? c = some v) : v < 10 := by
  unfold decimalValue? at h
  dsimp only at h
  split at h
  · simp only [Option.some.injEq] at h; omega
  · split at h
    · simp at h
    · simp only [Option.map_eq_some_iff] at h
      obtain ⟨z, hz, rfl⟩ := h
      have := List.find?_some hz
      simp only [Bool.and_eq_true, decide_eq_true_eq] at this
      omega

theorem hexValue?_lt {c : Char} {v : Nat} (h : hexValue? c = some v) : v < 16 := by
  unfold hexValue? at h
  dsimp only at h
  split at h
  · simp only [Option.some.injEq] at h; omega
  · split at h
    · simp only [Option.some.injEq] at h; omega
    · have := decimalValue?_lt h; omega

end Runboard.Text
