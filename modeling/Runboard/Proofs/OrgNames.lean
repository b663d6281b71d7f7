import Mathlib.Data.List.TakeWhile
import Runboard.Store.Uuid
import Runboard.Text.Half

/-!
# `Runboard.Proofs.OrgNames`: a text that names an identifier has bytes

Reading an identifier takes words, braces and hyphens away before it looks at digits, and the numeral
that is left may still have a mark, a sign, blanks and low lines. None of what is taken away, and no
digit, is half a character. So half a character is carried through every stage to the digits, and is
refused there: a text that names an identifier holds none, and can be told in an answer.

## Contents

* `mem_trimChars`, `mem_removeFrom`, `Uuid.mem_bare`: what is not taken away stays;
* `hexValue?_of_half`, `mem_dropHexMark`, `separatedDigits?_of_half`, `hexadecimal?_of_half`: half a
  character is no digit;
* `Uuid.whole_of_ofJson?`: texts of identifiers.
-/

namespace Runboard

open Runboard.Text

section Kept
variable {c : Char} {cs : List Char}

/-! ## What is not taken away -/

theorem mem_dropWhile {p : Char → Bool} (hc : c ∈ cs) (other : p c = false) :
    c ∈ cs.dropWhile p := by
  rw [← List.takeWhile_append_dropWhile (p := p) (l := cs), List.mem_append] at hc
  rcases hc with taken | kept
  · rw [List.mem_takeWhile_imp taken] at other
    cases other
  · exact kept

/-- Trimming leaves the characters outside the class. -/
theorem mem_trimChars {p : Char → Bool} (hc : c ∈ cs) (other : p c = false) :
    c ∈ trimChars p cs := by
  rw [trimChars, List.mem_reverse]
  refine mem_dropWhile ?_ other
  rw [List.mem_reverse]
  exact mem_dropWhile hc other

/-- Leaving a word out leaves the characters that are not in the word. -/
theorem mem_removeFrom {w : Char} {word : List Char} (outside : c ∉ w :: word) {skip : Nat}
    (hc : c ∈ cs.drop skip) : c ∈ removeFrom (w :: word) skip cs := by
  induction cs generalizing skip with
  | nil => simp at hc
  | cons d cs ih =>
    cases skip with
    | succ skip => exact ih hc
    | zero =>
      rw [List.drop_zero] at hc
      rw [removeFrom]
      split
      · next found =>
        -- The occurrence is the word; behind it the character is still to come.
        obtain ⟨rest, hrest⟩ := List.isPrefixOf_iff_prefix.1 found
        rw [← hrest, List.mem_append] at hc
        have behind := hc.resolve_left outside
        obtain ⟨rfl, rfl⟩ := List.cons.inj hrest
        refine ih ?_
        simpa using behind
      · rw [List.mem_cons] at hc
        rcases hc with rfl | hc
        · exact List.mem_cons_self
        · exact List.mem_cons_of_mem _ (ih hc)

/-- What is neither in one of the words nor a brace nor a hyphen stays to be read as a numeral. -/
theorem Uuid.mem_bare (hc : c ∈ cs) (urn : c ∉ "urn:".toList) (uuid : c ∉ "uuid:".toList)
    (brace : Uuid.isBrace c = false) (hyphen : c ≠ '-') : c ∈ Uuid.bare cs := by
  rw [Uuid.bare, List.mem_filter, bne_iff_ne]
  refine ⟨mem_trimChars ?_ brace, hyphen⟩
  have first : c ∈ removeWord "urn:" cs := mem_removeFrom urn (show c ∈ cs.drop 0 from hc)
  exact mem_removeFrom uuid (show c ∈ (removeWord "urn:" cs).drop 0 from first)

/-! ## Digits -/

theorem half?_isSome_iff : (half? c).isSome = true ↔ 0x10d800 ≤ c.toNat ∧ c.toNat < 0x10e000 := by
  unfold half? halfShift
  dsimp only
  split <;> simp_all

theorem ne_of_half (half : (half? c).isSome = true) {d : Char} (whole : (half? d).isSome = false) :
    c ≠ d := by
  rintro rfl
  exact absurd half (Bool.eq_false_iff.1 whole)

theorem decimalValue?_of_half (half : (half? c).isSome = true) : decimalValue? c = none := by
  have range := half?_isSome_iff.1 half
  have small : ∀ z ∈ zeroDigits, z + 10 < 0x10d800 := by decide
  unfold decimalValue?
  dsimp only
  rw [if_neg (by omega), if_neg (by omega), Option.map_eq_none_iff, List.find?_eq_none]
  intro z hz inside
  have := small z hz
  simp only [Bool.and_eq_true, decide_eq_true_eq] at inside
  omega

/-- Half a character is no digit of any script. -/
theorem hexValue?_of_half (half : (half? c).isSome = true) : hexValue? c = none := by
  have range := half?_isSome_iff.1 half
  unfold hexValue?
  dsimp only
  rw [if_neg (by omega), if_neg (by omega), decimalValue?_of_half half]

/-- Digits with low lines between them hold no half of a character. -/
theorem separatedDigits?_of_half (hc : c ∈ cs) (half : (half? c).isSome = true) :
    separatedDigits? hexValue? cs = none := by
  have digit := hexValue?_of_half half
  have line : c ≠ '_' := ne_of_half half (by decide)
  fun_induction separatedDigits? hexValue? cs with
  | case1 => rfl
  | case2 d =>
    obtain rfl := List.mem_singleton.1 hc
    rw [digit]
    rfl
  | case3 => rfl
  | case4 d rest v hv ih =>
    rw [Option.map_eq_none_iff]
    refine ih ?_
    rcases List.mem_cons.1 hc with rfl | hc
    · rw [digit] at hv
      cases hv
    · exact (List.mem_cons.1 hc).resolve_left line
  | case5 d e rest v hv he ih =>
    rw [Option.map_eq_none_iff]
    refine ih ?_
    rcases List.mem_cons.1 hc with rfl | hc
    · rw [digit] at hv
      cases hv
    · exact hc

/-- The mark of base sixteen holds no half of a character. -/
theorem mem_dropHexMark (hc : c ∈ cs) (half : (half? c).isSome = true) :
    c ∈ Numeral.dropHexMark cs := by
  unfold Numeral.dropHexMark
  split
  · next z x rest =>
    split
    · next mark =>
      obtain ⟨zero, letter⟩ := mark
      have first : c ≠ z := by
        rintro rfl
        rw [decimalValue?_of_half half] at zero
        cases zero
      have second : c ≠ x := by
        rcases letter with rfl | rfl
        · exact ne_of_half half (by decide)
        · exact ne_of_half half (by decide)
      have behind := (List.mem_cons.1 hc).resolve_left first
      have behind := (List.mem_cons.1 behind).resolve_left second
      split
      · exact (List.mem_cons.1 behind).resolve_left (ne_of_half half (by decide))
      · exact behind
    · exact hc
  · exact hc

/-- A numeral of base sixteen holds no half of a character. -/
theorem hexadecimal?_of_half (hc : c ∈ cs) (half : (half? c).isSome = true) :
    Numeral.hexadecimal? cs = none := by
  have range := half?_isSome_iff.1 half
  have unblank : isBlank c = false := by
    simp only [isBlank, Bool.or_eq_false_iff, Bool.and_eq_false_iff, decide_eq_false_iff_not,
      beq_eq_false_iff_ne]
    omega
  have inside : c ∈ trimChars isBlank cs := mem_trimChars hc unblank
  unfold Numeral.hexadecimal?
  split
  · next rest heq =>
    rw [heq] at inside
    have behind := (List.mem_cons.1 inside).resolve_left (ne_of_half half (by decide))
    rw [separatedDigits?_of_half (mem_dropHexMark behind half) half, Option.map_none]
  · rw [separatedDigits?_of_half (mem_dropHexMark inside half) half, Option.map_none]

end Kept

/-! ## Texts of identifiers -/

/-- What names an identifier is shown by a text that has bytes. -/
theorem Uuid.whole_of_ofJson? {v : Json} {u : Uuid} (named : Uuid.ofJson? v = some u) :
    holdsHalf v.display = false := by
  refine Bool.eq_false_iff.2 fun holds => ?_
  obtain ⟨c, hc, half⟩ := List.any_eq_true.1 holds
  have outside : ∀ word : String, holdsHalf word = false → c ∉ word.toList :=
    fun word whole mem => List.any_eq_false.1 whole c mem half
  have brace : Uuid.isBrace c = false := by
    rw [Uuid.isBrace, Bool.or_eq_false_iff, beq_eq_false_iff_ne, beq_eq_false_iff_ne]
    exact ⟨ne_of_half half (by decide), ne_of_half half (by decide)⟩
  have kept : c ∈ Uuid.bare v.display.toList :=
    Uuid.mem_bare hc (outside _ (by decide)) (outside _ (by decide)) brace
      (ne_of_half half (by decide))
  -- The half is still there when the digits are read.
  have unread := hexadecimal?_of_half kept half
  unfold Uuid.ofJson? Uuid.ofText? Uuid.read at named
  simp only [unread] at named
  split at named <;> cases named

end Runboard
