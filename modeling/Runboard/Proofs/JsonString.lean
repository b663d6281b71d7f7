import Mathlib.Data.List.Basic
import Runboard.Json.Parser
import Runboard.Json.Printer
import Runboard.Proofs.Base64

/-!
# `Runboard.Proofs.JsonString`: written strings are read back

A written string is read in two steps, and each has a round trip of its own. The code units of the
text are found again whatever the text is: a character is written in one of three ways, and each has
its branch in the reader.
The characters are found again from the units but for one thing: halves of characters may stand in a
text, and where two of them that make up a character stand side by side, that character is read. A text
in which none do is *joined*, and it is read as it is. A text of whole characters is joined.

## Contents

* `joins`, `joinHalves`: texts with their pairs of halves put together;
* `IsJoined`, `joinHalves_of_isJoined`, `isJoined_of_holdsHalf`: texts in which no pair is left apart;
* `IsPrintableAscii`, `ArePrintable`: printable characters;
* `Written`, `written_escapeChar`: how a character stands in a string;
* `readUnits_flatMap_escapeChar`: the units of a written text;
* `joinUnits_flatMap_codeUnits`: the characters of units;
* `rejoined`, `readString_flatMap_escapeChar`, `readString_stringLiteral`: strings.
-/

namespace Runboard.Json

open Runboard.Text

/-! ## Joined texts -/

/-- Whether two characters are the halves of one. -/
def joins (c d : Char) : Bool :=
  (half? c).any isHighUnit && (half? d).any isLowUnit

/-- The character that two halves make up. -/
def wholeOf (c d : Char) : Char :=
  Char.ofNat (0x10000 + ((half? c).getD 0 - 0xd800) * 0x400 + ((half? d).getD 0 - 0xdc00))

/-- A text with the halves of each character that stand side by side put together. -/
def joinHalves : List Char → List Char
  | [] => []
  | [c] => [c]
  | c :: d :: rest =>
    if joins c d then wholeOf c d :: joinHalves rest else c :: joinHalves (d :: rest)

/-- A text in which no two halves of one character stand side by side. -/
def IsJoined (cs : List Char) : Prop := cs.IsChain fun c d => joins c d = false

theorem isJoined_cons_cons {c d : Char} {cs : List Char} :
    IsJoined (c :: d :: cs) ↔ joins c d = false ∧ IsJoined (d :: cs) :=
  List.isChain_cons_cons

theorem isJoined_tail {c : Char} {cs : List Char} (h : IsJoined (c :: cs)) : IsJoined cs :=
  h.of_cons

/-- In a joined text nothing is put together. -/
theorem joinHalves_of_isJoined {cs : List Char} (h : IsJoined cs) : joinHalves cs = cs := by
  induction cs with
  | nil => rfl
  | cons c cs ih =>
    cases cs with
    | nil => rfl
    | cons d cs =>
      rw [joinHalves, (isJoined_cons_cons.1 h).1, if_neg Bool.false_ne_true, ih (isJoined_tail h)]

/-- A text of whole characters is joined. -/
theorem isJoined_of_holdsHalf {s : String} (h : holdsHalf s = false) : IsJoined s.toList := by
  have whole : ∀ c ∈ s.toList, half? c = none := by
    intro c hc
    have := List.any_eq_false.1 h c hc
    simpa using this
  -- From here on the characters matter, not that they are those of a text.
  generalize s.toList = cs at whole
  induction cs with
  | nil => exact List.IsChain.nil
  | cons c cs ih =>
    cases cs with
    | nil => exact List.IsChain.singleton c
    | cons d cs =>
      refine isJoined_cons_cons.2 ⟨?_, ih fun c hc => whole c (List.mem_cons_of_mem _ hc)⟩
      simp only [joins, whole c List.mem_cons_self, Option.any_none, Bool.false_and]

/-! ## The units of a written text -/

/-- A character from the space to the tilde. -/
def IsPrintableAscii (c : Char) : Prop := 0x20 ≤ c.toNat ∧ c.toNat ≤ 0x7e

instance (c : Char) : Decidable (IsPrintableAscii c) := inferInstanceAs (Decidable (_ ∧ _))

/-- A text of such characters. -/
def ArePrintable (cs : List Char) : Prop := ∀ c ∈ cs, IsPrintableAscii c

-- The list is gone through, not all characters.
instance (cs : List Char) : Decidable (ArePrintable cs) := List.decidableBAll _ cs

theorem IsPrintableAscii.ascii {c : Char} (h : IsPrintableAscii c) : c.toNat < 0x80 := by
  have := h.2
  omega

theorem hexDigit?_hexDigit {n : Nat} (h : n < 16) : hexDigit? (hexDigit n) = some n := by
  have all : ∀ n < 16, hexDigit? (hexDigit n) = some n := by decide
  exact all n h

/-- A digit of base sixteen ends no string, begins no escape, and is printable. -/
theorem hexDigit_plain {n : Nat} (h : n < 16) :
    hexDigit n ≠ '"' ∧ hexDigit n ≠ '\\' ∧ IsPrintableAscii (hexDigit n) := by
  have all : ∀ n < 16, hexDigit n ≠ '"' ∧ hexDigit n ≠ '\\' ∧ IsPrintableAscii (hexDigit n) := by
    decide
  exact all n h

theorem unitEscape_eq (n : Nat) :
    unitEscape n = ['\\', 'u', hexDigit (n / 16 / 16 / 16 % 16), hexDigit (n / 16 / 16 % 16),
      hexDigit (n / 16 % 16), hexDigit (n % 16)] := rfl

/-- No character has the code point of a half. -/
theorem toNat_range (c : Char) : c.toNat < 0xd800 ∨ 0xdfff < c.toNat ∧ c.toNat < 0x110000 := c.valid

/-- The code units of a character have sixteen bits. -/
theorem codeUnits_lt (c : Char) : ∀ n ∈ codeUnits c, n < 0x10000 := by
  intro n hn
  have valid := toNat_range c
  unfold codeUnits half? halfShift at hn
  dsimp only at hn
  split at hn
  · next unit h =>
    split at h
    · simp only [Option.some.injEq] at h
      simp only [List.mem_singleton] at hn
      omega
    · simp at h
  · split at hn
    · simp only [List.mem_singleton] at hn
      omega
    · simp only [List.mem_cons, List.not_mem_nil, or_false] at hn
      omega

/-- What reading finds when units stand before the rest of a string. -/
def unitsBefore (units : List Nat) (rest : Option (List Nat × List Char)) :
    Option (List Nat × List Char) :=
  rest.map fun r => (units ++ r.1, r.2)

theorem consUnit_some (n : Nat) (rest : Option (List Nat × List Char)) :
    consUnit (some n) rest = unitsBefore [n] rest := by
  cases rest <;> rfl

theorem unitsBefore_append (units more : List Nat) (rest : Option (List Nat × List Char)) :
    unitsBefore units (unitsBefore more rest) = unitsBefore (units ++ more) rest := by
  cases rest <;> simp [unitsBefore]

theorem readUnits_unitEscape {n : Nat} (h : n < 0x10000) (rest : List Char) :
    readUnits (unitEscape n ++ rest) = unitsBefore [n] (readUnits rest) := by
  have value :
      ((n / 16 / 16 / 16 % 16 * 16 + n / 16 / 16 % 16) * 16 + n / 16 % 16) * 16 + n % 16 = n := by
    omega
  rw [unitEscape_eq]
  simp only [List.cons_append, List.nil_append]
  rw [readUnits, hexUnit?, hexDigit?_hexDigit (Nat.mod_lt _ (by decide)),
    hexDigit?_hexDigit (Nat.mod_lt _ (by decide)), hexDigit?_hexDigit (Nat.mod_lt _ (by decide)),
    hexDigit?_hexDigit (Nat.mod_lt _ (by decide))]
  simp only [value]
  exact consUnit_some n _

theorem readUnits_flatMap_unitEscape {units : List Nat} (h : ∀ n ∈ units, n < 0x10000)
    (rest : List Char) :
    readUnits (units.flatMap unitEscape ++ rest) = unitsBefore units (readUnits rest) := by
  induction units with
  | nil =>
    rw [List.flatMap_nil, List.nil_append]
    cases readUnits rest <;> rfl
  | cons n units ih =>
    obtain ⟨hn, hunits⟩ := List.forall_mem_cons.1 h
    rw [List.flatMap_cons, List.append_assoc, readUnits_unitEscape hn, ih hunits, unitsBefore_append]
    rfl

/-- A character that is written as it is. -/
theorem readUnits_cons {c : Char} (hq : c ≠ '"') (hb : c ≠ '\\') (low : 0x20 ≤ c.toNat)
    (rest : List Char) : readUnits (c :: rest) = unitsBefore [c.toNat] (readUnits rest) := by
  rw [readUnits.eq_def]
  split
  -- The character decides the branch: only the last one takes neither a quote nor a backslash.
  · next h => exact absurd h (by simp)
  · next h => exact absurd (List.cons.inj h).1 hq
  · next h => exact absurd (List.cons.inj h).1 hb
  · next h => exact absurd (List.cons.inj h).1 hb
  · next d rest' _ _ _ h =>
    obtain ⟨rfl, rfl⟩ := List.cons.inj h
    rw [if_neg (by omega), consUnit_some]

theorem codeUnits_of_lt {c : Char} (h : c.toNat < 0x80) : codeUnits c = [c.toNat] := by
  unfold codeUnits
  rw [half?_of_lt h]
  simp only [show c.toNat < 0x10000 by omega, ↓reduceIte]

/-- How a character stands in a written string. -/
inductive Written (c : Char) : List Char → Prop
  /-- By a printable letter after a backslash, which is read as the character. -/
  | escape (e : Char) (printable : IsPrintableAscii e)
      (read : ∀ rest, readUnits ('\\' :: e :: rest) = unitsBefore (codeUnits c) (readUnits rest)) :
      Written c ['\\', e]
  /-- As it is. -/
  | plain (noQuote : c ≠ '"') (noBackslash : c ≠ '\\') (printable : IsPrintableAscii c) :
      Written c [c]
  /-- By its units. -/
  | units : Written c ((codeUnits c).flatMap unitEscape)

theorem written_escapeChar (c : Char) : Written c (escapeChar c) := by
  have letter : ∀ e, IsPrintableAscii e →
      (∀ rest, readUnits ('\\' :: e :: rest) = consUnit (some c.toNat) (readUnits rest)) →
      codeUnits c = [c.toNat] → Written c ['\\', e] := by
    intro e printable read single
    refine .escape e printable fun rest => ?_
    rw [read, single]
    exact consUnit_some _ _
  unfold escapeChar
  -- The seven characters that have a letter, in the order of the writer.
  split
  · next h => subst h; exact letter _ (by decide) (fun _ => rfl) rfl
  split
  · next h => subst h; exact letter _ (by decide) (fun _ => rfl) rfl
  split
  · next h => subst h; exact letter _ (by decide) (fun _ => rfl) rfl
  split
  · next h => subst h; exact letter _ (by decide) (fun _ => rfl) rfl
  split
  · next h => subst h; exact letter _ (by decide) (fun _ => rfl) rfl
  split
  · next h => subst h; exact letter _ (by decide) (fun _ => rfl) rfl
  split
  · next h => subst h; exact letter _ (by decide) (fun _ => rfl) rfl
  split
  · next noQuote noBackslash _ _ _ _ _ range =>
    exact .plain noQuote noBackslash range
  · exact .units

/-- The units of a character are found before those of the rest. -/
theorem readUnits_escapeChar (c : Char) (rest : List Char) :
    readUnits (escapeChar c ++ rest) = unitsBefore (codeUnits c) (readUnits rest) := by
  have written := written_escapeChar c
  generalize escapeChar c = text at written ⊢
  cases written with
  | escape e _ read => exact read rest
  | plain noQuote noBackslash printable =>
    rw [codeUnits_of_lt printable.ascii]
    exact readUnits_cons noQuote noBackslash printable.1 rest
  | units => exact readUnits_flatMap_unitEscape (codeUnits_lt c) rest

/-- The units of a written text are found up to the quote that ends it. -/
theorem readUnits_flatMap_escapeChar (cs rest : List Char) :
    readUnits (cs.flatMap escapeChar ++ '"' :: rest) = some (cs.flatMap codeUnits, rest) := by
  induction cs with
  | nil => rfl
  | cons c cs ih =>
    rw [List.flatMap_cons, List.append_assoc, readUnits_escapeChar, ih]
    rfl

/-! ## The characters of units -/

theorem half?_range {c : Char} {unit : Nat} (h : half? c = some unit) :
    0xd800 ≤ unit ∧ unit < 0xe000 ∧ ofHalf unit = c := by
  unfold half? at h
  dsimp only at h
  split at h
  · next range =>
    simp only [Option.some.injEq] at h
    have back : unit + halfShift = c.toNat := by omega
    refine ⟨by omega, by omega, ?_⟩
    rw [ofHalf, back, Char.ofNat_toNat]
  · simp at h

/-- A half is the single unit of its stand-in. -/
theorem codeUnits_of_half {c : Char} {unit : Nat} (h : half? c = some unit) :
    codeUnits c = [unit] := by
  unfold codeUnits
  rw [h]

/-- A whole character below U+10000 is a single unit. -/
theorem codeUnits_of_small {c : Char} (h : half? c = none) (small : c.toNat < 0x10000) :
    codeUnits c = [c.toNat] := by
  unfold codeUnits
  rw [h]
  simp only [small, ↓reduceIte]

/-- Any other whole character is two units. -/
theorem codeUnits_of_large {c : Char} (h : half? c = none) (large : 0x10000 ≤ c.toNat) :
    codeUnits c =
      [0xd800 + (c.toNat - 0x10000) / 0x400, 0xdc00 + (c.toNat - 0x10000) % 0x400] := by
  unfold codeUnits
  rw [h]
  simp only [show ¬ c.toNat < 0x10000 by omega, ↓reduceIte]

/-- A unit that is no first half before a second one stands alone. -/
theorem joinUnits_cons {n : Nat} {units : List Nat}
    (apart : isHighUnit n = true → ∀ l ∈ units.head?, isLowUnit l = false) :
    joinUnits (n :: units) = loneUnit n :: joinUnits units := by
  cases units with
  | nil => rfl
  | cons l units =>
    rw [joinUnits]
    cases high : isHighUnit n with
    | false => simp
    | true =>
      have low := apart high l rfl
      simp [low]

theorem loneUnit_toNat {c : Char} (h : c.toNat < 0x10000) : loneUnit c.toNat = c := by
  have range := toNat_range c
  have outside : (isHighUnit c.toNat || isLowUnit c.toNat) = false := by
    simp only [isHighUnit, isLowUnit, Bool.or_eq_false_iff, Bool.and_eq_false_iff,
      decide_eq_false_iff_not]
    omega
  rw [loneUnit, if_neg (by simp [outside]), Char.ofNat_toNat]

theorem loneUnit_half {c : Char} {unit : Nat} (h : half? c = some unit) : loneUnit unit = c := by
  obtain ⟨low, high, back⟩ := half?_range h
  have inside : (isHighUnit unit || isLowUnit unit) = true := by
    simp only [isHighUnit, isLowUnit, Bool.or_eq_true, Bool.and_eq_true, decide_eq_true_eq]
    omega
  rw [loneUnit, if_pos inside, back]

/-- A first half and a second one stand for one character. -/
theorem joinUnits_pair {h l : Nat} (high : isHighUnit h = true) (low : isLowUnit l = true)
    (units : List Nat) :
    joinUnits (h :: l :: units) =
      Char.ofNat (0x10000 + (h - 0xd800) * 0x400 + (l - 0xdc00)) :: joinUnits units := by
  rw [joinUnits, high, low]
  rfl

/-- The two units of a large character are joined again. -/
theorem joinUnits_codeUnits_of_large {c : Char} (hc : half? c = none) (large : 0x10000 ≤ c.toNat)
    (units : List Nat) : joinUnits (codeUnits c ++ units) = c :: joinUnits units := by
  have range := toNat_range c
  obtain ⟨high, low, value⟩ :
      isHighUnit (0xd800 + (c.toNat - 0x10000) / 0x400) = true ∧
        isLowUnit (0xdc00 + (c.toNat - 0x10000) % 0x400) = true ∧
        0x10000 + (0xd800 + (c.toNat - 0x10000) / 0x400 - 0xd800) * 0x400 +
          (0xdc00 + (c.toNat - 0x10000) % 0x400 - 0xdc00) = c.toNat := by
    simp only [isHighUnit, isLowUnit, Bool.and_eq_true, decide_eq_true_eq]
    omega
  rw [codeUnits_of_large hc large, List.cons_append, List.singleton_append,
    joinUnits_pair high low, value, Char.ofNat_toNat]

/-- The first unit of a text is a second half only if its first character is one. -/
theorem isLowUnit_head {cs : List Char} {l : Nat} (h : l ∈ (cs.flatMap codeUnits).head?)
    (low : isLowUnit l = true) : ∃ d rest, cs = d :: rest ∧ half? d = some l := by
  simp only [isLowUnit, Bool.and_eq_true, decide_eq_true_eq] at low
  cases cs with
  | nil => simp at h
  | cons d rest =>
    refine ⟨d, rest, rfl, ?_⟩
    rw [List.flatMap_cons] at h
    cases hd : half? d with
    | some unit =>
      rw [codeUnits_of_half hd] at h
      simpa using h
    | none =>
      -- A whole character begins with a unit outside the halves, or with a first half.
      exfalso
      have range := toNat_range d
      by_cases small : d.toNat < 0x10000
      · rw [codeUnits_of_small hd small] at h
        simp only [List.cons_append, List.head?_cons, Option.mem_def, Option.some.injEq] at h
        omega
      · rw [codeUnits_of_large hd (by omega)] at h
        simp only [List.cons_append, List.head?_cons, Option.mem_def, Option.some.injEq] at h
        omega

/-- The units of a character that does not pair up with what follows are read as that character. -/
theorem joinUnits_codeUnits {c : Char} {units : List Nat}
    (apart : ∀ unit, half? c = some unit → isHighUnit unit = true →
      ∀ l ∈ units.head?, isLowUnit l = false) :
    joinUnits (codeUnits c ++ units) = c :: joinUnits units := by
  cases hc : half? c with
  | some unit =>
    rw [codeUnits_of_half hc, List.singleton_append, joinUnits_cons (apart unit hc),
      loneUnit_half hc]
  | none =>
    by_cases small : c.toNat < 0x10000
    · have alone : isHighUnit c.toNat = false := by
        have range := toNat_range c
        simp only [isHighUnit, Bool.and_eq_false_iff, decide_eq_false_iff_not]
        omega
      rw [codeUnits_of_small hc small, List.singleton_append,
        joinUnits_cons fun high => absurd high (by simp [alone]), loneUnit_toNat small]
    · exact joinUnits_codeUnits_of_large hc (by omega) units

theorem joins_eq_true {c d : Char} (h : joins c d = true) :
    ∃ high low, half? c = some high ∧ half? d = some low ∧ isHighUnit high = true ∧
      isLowUnit low = true := by
  simp only [joins, Bool.and_eq_true, Option.any_eq_true] at h
  obtain ⟨⟨high, hc, isHigh⟩, low, hd, isLow⟩ := h
  exact ⟨high, low, hc, hd, isHigh, isLow⟩

/-- The characters of a text are found again from its units, with the halves of each character put
together. -/
theorem joinUnits_flatMap_codeUnits (cs : List Char) :
    joinUnits (cs.flatMap codeUnits) = joinHalves cs := by
  induction cs using joinHalves.induct with
  | case1 => rfl
  | case2 c => exact @joinUnits_codeUnits c [] (by simp)
  | case3 c d rest pair ih =>
    -- The two halves are one unit each, and the reader joins them as the text does.
    obtain ⟨high, low, hc, hd, isHigh, isLow⟩ := joins_eq_true pair
    rw [joinHalves, if_pos pair, List.flatMap_cons, List.flatMap_cons, codeUnits_of_half hc,
      codeUnits_of_half hd, List.singleton_append, List.singleton_append,
      joinUnits_pair isHigh isLow, ih, wholeOf, hc, hd]
    rfl
  | case4 c d rest apart ih =>
    rw [joinHalves, if_neg apart, List.flatMap_cons, joinUnits_codeUnits, ih]
    intro high hc isHigh l hl
    by_contra isLow
    obtain ⟨e, tail, heq, he⟩ := isLowUnit_head hl (by simpa using isLow)
    obtain ⟨rfl, -⟩ := List.cons.inj heq
    refine apart ?_
    simp only [joins, hc, he, Option.any_some, isHigh, Bool.true_and]
    simpa using isLow

/-! ## Strings -/

/-- A text as it is read where it was written. -/
def rejoined (s : String) : String := String.ofList (joinHalves s.toList)

/-- A joined text is read as it is. -/
theorem rejoined_of_isJoined {s : String} (h : IsJoined s.toList) : rejoined s = s := by
  rw [rejoined, joinHalves_of_isJoined h, String.ofList_toList]

/-- Joining halves leaves something of what is not empty. -/
theorem rejoined_eq_empty {s : String} : rejoined s = "" ↔ s = "" := by
  have joined : joinHalves s.toList = [] ↔ s.toList = [] := by
    match s.toList with
    | [] => simp [joinHalves]
    | [c] => simp [joinHalves]
    | c :: d :: rest =>
      rw [joinHalves]
      split <;> simp
  rw [rejoined, ← String.toList_inj, String.toList_ofList, String.toList_empty, joined,
    String.toList_eq_nil_iff]

/-- A written string is read, its opening quote apart. -/
theorem readString_flatMap_escapeChar (s : String) (rest : List Char) :
    readString (s.toList.flatMap escapeChar ++ '"' :: rest) = some (rejoined s, rest) := by
  rw [readString, readUnits_flatMap_escapeChar, rejoined, ← joinUnits_flatMap_codeUnits]
  rfl

/-- A written string of a joined text is read back. -/
theorem readString_stringLiteral {s : String} (h : IsJoined s.toList) (rest : List Char) :
    readString (s.toList.flatMap escapeChar ++ '"' :: rest) = some (s, rest) := by
  rw [readString_flatMap_escapeChar, rejoined_of_isJoined h]

end Runboard.Json
