import Runboard.Text.Base64

/-!
# `Runboard.Proofs.Base64`: bytes written as letters are read back

The writer groups bytes by three and the reader goes from letter to letter, so the induction is on the
groups of the writer: four letters take the reader from the beginning of a group to the beginning of
the next one, with three more bytes. The last group may be short; the padding that the reader adds for
itself then completes it.

The letters are ASCII characters without the point that separates segments, which is what the users of
the writer rely on.

## Contents

* `sextet?_sextetChar`, `forall_mem_encodeBase64Url`: the letters;
* `IsAscii`, `length_encodeUtf8_of_ascii`, `decodeUtf8?_of_ascii`: ASCII texts as bytes;
* `Base64.Reader.run_group`, `decodeBase64_encodeBase64Url`: reading what was written.
-/

namespace Runboard.Text

/-! ## Letters -/

theorem sextet?_sextetChar {v : Nat} (h : v < 64) : sextet? (sextetChar v) = some v := by
  have all : ∀ v < 64, sextet? (sextetChar v) = some v := by decide
  exact all v h

/-- A character of the URL alphabet: no padding, no point, and one byte. -/
def IsLetter (c : Char) : Prop := c ≠ '=' ∧ c ≠ '.' ∧ c.toNat < 0x80

instance (c : Char) : Decidable (IsLetter c) :=
  inferInstanceAs (Decidable (c ≠ '=' ∧ c ≠ '.' ∧ c.toNat < 0x80))

theorem isLetter_sextetChar {v : Nat} (h : v < 64) : IsLetter (sextetChar v) := by
  have all : ∀ v < 64, IsLetter (sextetChar v) := by decide
  exact all v h

/-- Every character of a written text is a letter. -/
theorem forall_mem_encodeBase64Url (bytes : List UInt8) :
    ∀ c ∈ encodeBase64Url bytes, IsLetter c := by
  induction bytes using encodeBase64Url.induct with
  | case1 => simp [encodeBase64Url]
  | case2 a =>
    have := a.toNat_lt
    simp only [encodeBase64Url, List.forall_mem_cons]
    exact ⟨isLetter_sextetChar (by omega), isLetter_sextetChar (by omega), by simp⟩
  | case3 a b =>
    have := a.toNat_lt
    have := b.toNat_lt
    simp only [encodeBase64Url, List.forall_mem_cons]
    exact ⟨isLetter_sextetChar (by omega), isLetter_sextetChar (by omega),
      isLetter_sextetChar (by omega), by simp⟩
  | case4 a b c rest ih =>
    have := a.toNat_lt
    have := b.toNat_lt
    have := c.toNat_lt
    simp only [encodeBase64Url, List.forall_mem_cons]
    exact ⟨isLetter_sextetChar (by omega), isLetter_sextetChar (by omega),
      isLetter_sextetChar (by omega), isLetter_sextetChar (by omega), ih⟩

/-! ## ASCII texts as bytes -/

/-- A text of characters that are one byte each. -/
def IsAscii (cs : List Char) : Prop := ∀ c ∈ cs, c.toNat < 0x80

-- The list is gone through, not all characters.
instance (cs : List Char) : Decidable (IsAscii cs) :=
  List.decidableBAll _ cs

theorem isAscii_append {cs ds : List Char} : IsAscii (cs ++ ds) ↔ IsAscii cs ∧ IsAscii ds := by
  simp only [IsAscii, List.forall_mem_append]

theorem isAscii_cons {c : Char} {cs : List Char} :
    IsAscii (c :: cs) ↔ c.toNat < 0x80 ∧ IsAscii cs := by
  simp only [IsAscii, List.forall_mem_cons]

theorem isAscii_encodeBase64Url (bytes : List UInt8) : IsAscii (encodeBase64Url bytes) :=
  fun c hc => (forall_mem_encodeBase64Url bytes c hc).2.2

theorem encodeChar_of_lt {c : Char} (h : c.toNat < 0x80) : encodeChar c = [byte c.toNat] := by
  simp only [encodeChar, h, ↓reduceIte]

theorem length_encodeUtf8_of_ascii {cs : List Char} (h : IsAscii cs) :
    (encodeUtf8 cs).length = cs.length := by
  induction cs with
  | nil => rfl
  | cons c cs ih =>
    obtain ⟨hc, hcs⟩ := isAscii_cons.1 h
    rw [encodeUtf8_cons, encodeChar_of_lt hc, List.length_append, ih hcs, List.length_cons]
    simp only [List.length_cons, List.length_nil]
    omega

theorem scanUtf8_of_ascii {cs : List Char} (h : IsAscii cs) :
    scanUtf8 .start (encodeUtf8 cs) = cs.map some := by
  induction cs with
  | nil => rfl
  | cons c cs ih =>
    obtain ⟨hc, hcs⟩ := isAscii_cons.1 h
    have hb : (byte c.toNat).toNat = c.toNat := by
      simp only [byte, UInt8.toNat_ofNat']
      omega
    have first : Pending.start.push (byte c.toNat) = (.start, [some c]) := by
      simp only [Pending.push, Pending.first, hb, hc, ↓reduceIte, Char.ofNat_toNat]
    rw [encodeUtf8_cons, encodeChar_of_lt hc, List.singleton_append, scanUtf8, first, ih hcs]
    rfl

/-- The bytes of an ASCII text are read back. -/
theorem decodeUtf8?_of_ascii {cs : List Char} (h : IsAscii cs) :
    decodeUtf8? (encodeUtf8 cs) = some cs := by
  rw [decodeUtf8?, scanUtf8_of_ascii h]
  induction cs with
  | nil => rfl
  | cons c cs ih =>
    rw [List.map_cons, List.mapM_cons, ih (isAscii_cons.1 h).2]
    rfl

/-- An ASCII text holds no half of a character. -/
theorem half?_of_lt {c : Char} (h : c.toNat < 0x80) : half? c = none := by
  unfold half? halfShift
  rw [if_neg (by omega)]

/-! ## Reading what was written -/

namespace Base64

theorem Reader.run_letter {v : Nat} (h : v < 64) (r : Reader) (cs : List Char) :
    r.run (sextetChar v :: cs) = (r.letter v).run cs := by
  have hc : sextetChar v ≠ '=' := (isLetter_sextetChar h).1
  rw [Reader.run, if_neg hc, sextet?_sextetChar h]

/-- A number that is put together from the bits of a byte is that byte. -/
theorem byte_eq {b : UInt8} {n : Nat} (h : n = b.toNat) : byte n = b := by
  rw [byte, h, UInt8.ofNat_toNat]

theorem Reader.letter_zero (v : Nat) (bytes : List UInt8) :
    Reader.letter { bytes := bytes } v = ⟨1, 0, v, bytes⟩ := rfl

theorem Reader.letter_one {b : UInt8} {carry v : Nat} (bytes : List UInt8)
    (h : carry * 4 + v / 16 = b.toNat) :
    Reader.letter ⟨1, 0, carry, bytes⟩ v = ⟨2, 0, v % 16, b :: bytes⟩ := by
  rw [← byte_eq h]
  rfl

theorem Reader.letter_two {b : UInt8} {carry v : Nat} (bytes : List UInt8)
    (h : carry * 16 + v / 4 = b.toNat) :
    Reader.letter ⟨2, 0, carry, bytes⟩ v = ⟨3, 0, v % 4, b :: bytes⟩ := by
  rw [← byte_eq h]
  rfl

theorem Reader.letter_three {b : UInt8} {carry v : Nat} (bytes : List UInt8)
    (h : carry * 64 + v = b.toNat) :
    Reader.letter ⟨3, 0, carry, bytes⟩ v = { bytes := b :: bytes } := by
  rw [← byte_eq h]
  rfl

/-- Four letters are three bytes, and lead to the beginning of the next group. -/
theorem Reader.run_group (a b c : UInt8) (bytes : List UInt8) (cs : List Char) :
    Reader.run { bytes := bytes }
        (sextetChar (a.toNat / 4) :: sextetChar (a.toNat % 4 * 16 + b.toNat / 16) ::
          sextetChar (b.toNat % 16 * 4 + c.toNat / 64) :: sextetChar (c.toNat % 64) :: cs) =
      Reader.run { bytes := c :: b :: a :: bytes } cs := by
  have := a.toNat_lt
  have := b.toNat_lt
  have := c.toNat_lt
  rw [run_letter (by omega), run_letter (by omega), run_letter (by omega), run_letter (by omega),
    letter_zero, letter_one (b := a) _ (by omega), letter_two (b := b) _ (by omega),
    letter_three (b := c) _ (by omega)]

/-- A written text with the padding that completes it is read as its bytes. -/
theorem Reader.run_encodeBase64Url (bytes before : List UInt8) :
    Reader.run { bytes := before }
        (encodeBase64Url bytes ++ base64Padding (encodeBase64Url bytes).length) =
      .ok (before.reverse ++ bytes) := by
  induction bytes using encodeBase64Url.induct generalizing before with
  | case1 => simp [encodeBase64Url, base64Padding, Reader.run]
  | case2 a =>
    have := a.toNat_lt
    -- Two letters and a whole half of padding: one byte.
    show Reader.run _ (_ :: _ :: ['=', '=']) = _
    rw [run_letter (by omega), run_letter (by omega), letter_zero,
      letter_one (b := a) _ (by omega)]
    simp [Reader.run]
  | case3 a b =>
    have := a.toNat_lt
    have := b.toNat_lt
    -- Three letters and one character of padding: two bytes.
    show Reader.run _ (_ :: _ :: _ :: ['=']) = _
    rw [run_letter (by omega), run_letter (by omega), run_letter (by omega), letter_zero,
      letter_one (b := a) _ (by omega), letter_two (b := b) _ (by omega)]
    simp [Reader.run]
  | case4 a b c rest ih =>
    -- A whole group leaves the padding as it was, so the padding of the rest is what `ih` needs.
    have hlen : base64Padding ((encodeBase64Url rest).length + 1 + 1 + 1 + 1) =
        base64Padding (encodeBase64Url rest).length := by
      rw [base64Padding, base64Padding,
        show ((encodeBase64Url rest).length + 1 + 1 + 1 + 1) % 4 = (encodeBase64Url rest).length % 4
        by omega]
    simp only [encodeBase64Url, List.length_cons, List.cons_append, hlen]
    rw [run_group, ih]
    simp

end Base64

/-- Bytes that were written as letters are read back. -/
theorem decodeBase64_encodeBase64Url (bytes : List UInt8) :
    decodeBase64 (encodeBase64Url bytes) = .ok bytes := by
  rw [decodeBase64, length_encodeUtf8_of_ascii (isAscii_encodeBase64Url bytes)]
  exact Base64.Reader.run_encodeBase64Url bytes []

end Runboard.Text
