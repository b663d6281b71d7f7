import Runboard.Json.Nesting
import Runboard.Proofs.JsonString

/-!
# `Runboard.Proofs.JsonRecord`: written records are read back

A *record* is an object of single values: texts, integers, truth values and null, under names of their
own. Tokens and lines of the journal are records. A written record is read as the record it was, in
either layout, with any reader of numerals that takes its integers, and the room for brackets inside
each other does not matter, since only the bracket of the record itself is one. Where a text holds the
halves of one character side by side, it is read with that character in their place, and all else of
the record is read as it was.

The induction is on the fields. Each field is left of a comma or of the closing brace, so what is read
of a value must stop there; `Stops` says what may follow a numeral.

## Contents

* `Parts.ofInt`, `readNumeral_toString`: integers;
* `IsScalar`, `reread`, `readValue_renderChars`, `IsSingle`: single values;
* `IsWritable`, `readFields_renderFields`, `parseChars?_of_isWritable`: records, and what they are
  read as;
* `IsRecord`, `IsRecord.rereadFields_eq`: records that are read as they were;
* `HasRoom`, `hasRoom_renderChars`: brackets;
* `read_of_isWritable`, `forall_mem_renderChars`, `isAscii_renderChars`: the
  whole.
-/

namespace Runboard.Json

open Runboard.Text

/-! ## Integers -/

/-- What may follow a numeral: neither a digit nor a mark that would go on with it. -/
def Stops (rest : List Char) : Prop :=
  ∀ c ∈ rest.head?, c.isDigit = false ∧ c ≠ '.' ∧ c ≠ 'e' ∧ c ≠ 'E'

/-- The parts of a written integer. -/
def Parts.ofInt (n : Int) : Parts :=
  ⟨decide (n < 0), Nat.toDigits 10 n.natAbs, none, none⟩

theorem toList_toString (n : Int) :
    (toString n).toList =
      (if n < 0 then ['-'] else []) ++ Nat.toDigits 10 n.natAbs := by
  rw [Int.toString_eq_repr, Int.repr_eq_if]
  by_cases h : n < 0
  · rw [if_neg (by omega), if_pos h, String.toList_append, Nat.toList_repr,
      show (-n).toNat = n.natAbs by omega]
    rfl
  · rw [if_pos (by omega), if_neg h, Nat.toList_repr, show n.toNat = n.natAbs by omega,
      List.nil_append]

theorem isDigit_of_mem {n : Nat} {c : Char} (h : c ∈ Nat.toDigits 10 n) : c.isDigit = true :=
  Nat.isDigit_of_mem_toDigits (by decide) (by decide) h

/-- A written number begins with a zero only if it is zero. -/
theorem toDigits_cases (n : Nat) :
    Nat.toDigits 10 n = ['0'] ∨ ∃ c cs, Nat.toDigits 10 n = c :: cs ∧ c ≠ '0' := by
  induction n using Nat.strongRecOn with
  | ind n ih =>
    rw [Nat.toDigits_eq_if (by decide)]
    split
    · next h =>
      -- One digit.
      have all : ∀ n < 10, [Nat.digitChar n] = ['0'] ∨
          ∃ c cs, [Nat.digitChar n] = c :: cs ∧ c ≠ '0' := by
        intro n hn
        by_cases h0 : n = 0
        · exact .inl (by rw [h0]; rfl)
        · have nonzero : ∀ n < 10, n ≠ 0 → Nat.digitChar n ≠ '0' := by decide
          exact .inr ⟨_, _, rfl, nonzero n hn h0⟩
      exact all n h
    · next h =>
      -- More digits begin as those of the tenth part do, and that is not zero.
      rcases ih (n / 10) (by omega) with h0 | ⟨c, cs, hc, hne⟩
      · have value := Nat.ofDigitChars_ten_toDigits (n := n / 10)
        rw [h0] at value
        exact absurd value (by simp [Nat.ofDigitChars]; omega)
      · exact .inr ⟨c, cs ++ [Nat.digitChar (n % 10)], by rw [hc]; rfl, hne⟩

theorem takeWhile_digits {ds rest : List Char} (hds : ∀ c ∈ ds, c.isDigit = true)
    (hrest : ∀ c ∈ rest.head?, c.isDigit = false) :
    (ds ++ rest).takeWhile Char.isDigit = ds ∧ (ds ++ rest).dropWhile Char.isDigit = rest := by
  rw [List.takeWhile_append_of_pos hds, List.dropWhile_append_of_pos hds]
  cases rest with
  | nil => simp
  | cons c rest =>
    have hc : c.isDigit = false := hrest c rfl
    simp [hc]

theorem readWhole_toDigits (n : Nat) {rest : List Char} (h : Stops rest) :
    readWhole (Nat.toDigits 10 n ++ rest) = some (Nat.toDigits 10 n, rest) := by
  rcases toDigits_cases n with h0 | ⟨c, cs, hc, hne⟩
  · rw [h0]
    rfl
  · have hall : ∀ d ∈ c :: cs, d.isDigit = true := fun d hd => isDigit_of_mem (hc ▸ hd)
    obtain ⟨hdigit, hcs⟩ := List.forall_mem_cons.1 hall
    obtain ⟨taken, dropped⟩ := takeWhile_digits hcs fun d hd => (h d hd).1
    rw [hc, List.cons_append]
    rw [readWhole.eq_def]
    split
    · next heq => exact absurd (List.cons.inj heq).1 hne
    · next heq =>
      obtain ⟨rfl, rfl⟩ := List.cons.inj heq
      rw [if_pos hdigit, taken, dropped]
    · next heq => exact absurd heq (by simp)

theorem readFraction_of_stops {rest : List Char} (h : Stops rest) :
    readFraction rest = (none, rest) := by
  unfold readFraction
  split
  · next => exact absurd rfl (h '.' rfl).2.1
  · rfl

theorem readExponent_of_stops {rest : List Char} (h : Stops rest) :
    readExponent rest = (none, rest) := by
  unfold readExponent
  split
  · next e rest =>
    have stop := h e rfl
    rw [if_neg (by rintro (he | he); exacts [stop.2.2.1 he, stop.2.2.2 he])]
  · rfl

theorem readUnsigned_toDigits (negative : Bool) (n : Nat) {rest : List Char} (h : Stops rest) :
    readUnsigned negative (Nat.toDigits 10 n ++ rest) =
      some (⟨negative, Nat.toDigits 10 n, none, none⟩, rest) := by
  rw [readUnsigned, readWhole_toDigits n h, Option.map_some]
  simp only [readFraction_of_stops h, readExponent_of_stops h]

/-- A written number begins with a digit. -/
theorem toDigits_eq_cons (n : Nat) :
    ∃ c cs, Nat.toDigits 10 n = c :: cs ∧ c.isDigit = true := by
  cases h : Nat.toDigits 10 n with
  | nil => exact absurd h Nat.toDigits_ne_nil
  | cons c cs => exact ⟨c, cs, rfl, isDigit_of_mem (h ▸ List.mem_cons_self)⟩

/-- A written integer is a numeral of its own parts. -/
theorem readNumeral_toString (n : Int) {rest : List Char} (h : Stops rest) :
    readNumeral ((toString n).toList ++ rest) = some (Parts.ofInt n, rest) := by
  rw [toList_toString]
  by_cases hn : n < 0
  · rw [if_pos hn, List.append_assoc, List.singleton_append, readNumeral,
      readUnsigned_toDigits true _ h, Parts.ofInt, decide_eq_true hn]
  · obtain ⟨c, cs, hc, hdigit⟩ := toDigits_eq_cons n.natAbs
    -- The first digit is no minus sign, so the digits are read as they stand.
    have unsigned : readNumeral (Nat.toDigits 10 n.natAbs ++ rest) =
        readUnsigned false (Nat.toDigits 10 n.natAbs ++ rest) := by
      rw [hc, List.cons_append, readNumeral.eq_def]
      split
      · next heq =>
        obtain ⟨rfl, -⟩ := List.cons.inj heq
        exact absurd hdigit (by decide)
      · rfl
    rw [if_neg hn, List.nil_append, unsigned, readUnsigned_toDigits false _ h, Parts.ofInt,
      decide_eq_false hn]

theorem digitsValue_eq (cs : List Char) :
    Binary64.digitsValue cs = Nat.ofDigitChars 10 cs 0 := by
  simp only [Binary64.digitsValue, Nat.ofDigitChars, Nat.mul_comm]
  rfl

theorem integer_ofInt (n : Int) : (Parts.ofInt n).integer = n := by
  rw [Parts.integer, Parts.ofInt, digitsValue_eq, Nat.ofDigitChars_ten_toDigits, Binary64.signed]
  by_cases h : n < 0
  · rw [decide_eq_true h, if_pos rfl]
    omega
  · rw [decide_eq_false h, if_neg Bool.false_ne_true]
    omega

theorem isWhole_ofInt (n : Int) : (Parts.ofInt n).isWhole = true := rfl

theorem standard_ofInt (n : Int) : NumberReader.standard (Parts.ofInt n) = some (.int n) := by
  rw [NumberReader.standard, if_pos (isWhole_ofInt n), integer_ofInt]

/-- An integer without too many digits is taken. -/
theorem bounded_ofInt {most : Nat} {n : Int} (short : (Nat.toDigits 10 n.natAbs).length ≤ most) :
    NumberReader.bounded most (Parts.ofInt n) = some (.int n) := by
  have taken : (Parts.ofInt n).whole.length ≤ most := short
  rw [NumberReader.bounded, if_neg (by simpa [isWhole_ofInt] using taken), standard_ofInt]

/-! ## Single values -/

/-- A value that holds no other, and that is read where it is written: a text, or an integer that the
reader of numerals takes. -/
def IsScalar (number : NumberReader) : Json → Prop
  | .null => True
  | .bool _ => True
  | .int n => number (Parts.ofInt n) = some (.int n)
  | .str _ => True
  | _ => False

/-- A value that holds no other, as it is read where it was written. -/
def reread : Json → Json
  | .str s => .str (rejoined s)
  | v => v

/-- A value that holds no other, and that is read back where it is written: a joined text, or an
integer that the reader of numerals takes. -/
def IsSingle (number : NumberReader) : Json → Prop
  | .null => True
  | .bool _ => True
  | .int n => number (Parts.ofInt n) = some (.int n)
  | .str s => IsJoined s.toList
  | _ => False

theorem IsSingle.isScalar {number : NumberReader} {v : Json} (h : IsSingle number v) :
    IsScalar number v := by
  cases v with
  | str s => trivial
  | _ => exact h

theorem IsSingle.reread_eq {number : NumberReader} {v : Json} (h : IsSingle number v) :
    reread v = v := by
  cases v with
  | str s => exact congrArg Json.str (rejoined_of_isJoined h)
  | _ => rfl

/-- The text of a word or a numeral is read by the reader of these, since neither begins as a string,
a list or an object does. -/
theorem readValue_atom {number : NumberReader} {c : Char} {cs : List Char} (fuel : Nat)
    (h : c ≠ '"' ∧ c ≠ '[' ∧ c ≠ '\x7b') :
    readValue number (fuel + 1) (c :: cs) = readAtom number (c :: cs) := by
  rw [readValue.eq_def]
  dsimp only
  split
  · next heq => exact absurd (List.cons.inj heq).1 h.1
  · next heq => exact absurd (List.cons.inj heq).1 h.2.1
  · next heq => exact absurd (List.cons.inj heq).1 h.2.2
  · rfl

/-- No word begins with a digit, or with a minus sign and a digit. -/
theorem readWord_toString (n : Int) (rest : List Char) :
    readWord ((toString n).toList ++ rest) = none := by
  obtain ⟨c, cs, hc, hdigit⟩ := toDigits_eq_cons n.natAbs
  have apart : c ≠ 'n' ∧ c ≠ 't' ∧ c ≠ 'f' ∧ c ≠ 'N' ∧ c ≠ 'I' := by
    refine ⟨?_, ?_, ?_, ?_, ?_⟩ <;> (rintro rfl; exact absurd hdigit (by decide))
  obtain ⟨h1, h2, h3, h4, h5⟩ := apart
  rw [toList_toString, hc]
  by_cases hn : n < 0
  · simp [hn, readWord, words, afterWord?, Ne.symm h5]
  · have minus : c ≠ '-' := by
      rintro rfl
      exact absurd hdigit (by decide)
    simp [hn, readWord, words, afterWord?, Ne.symm h1, Ne.symm h2, Ne.symm h3, Ne.symm h4,
      Ne.symm h5, Ne.symm minus]

theorem readAtom_toString {number : NumberReader} {n : Int}
    (hn : number (Parts.ofInt n) = some (.int n)) {rest : List Char} (h : Stops rest) :
    readAtom number ((toString n).toList ++ rest) = some (.int n, rest) := by
  rw [readAtom, readWord_toString, readNumeral_toString n h]
  simp only [hn, Option.map_some]

/-- A written integer begins with a digit or a minus sign. -/
theorem toString_eq_cons (n : Int) :
    ∃ c cs, (toString n).toList = c :: cs ∧ c ≠ '"' ∧ c ≠ '[' ∧ c ≠ '\x7b' := by
  obtain ⟨c, cs, hc, hdigit⟩ := toDigits_eq_cons n.natAbs
  rw [toList_toString, hc]
  by_cases hn : n < 0
  · exact ⟨'-', c :: cs, by rw [if_pos hn]; rfl, by decide⟩
  · refine ⟨c, cs, by rw [if_neg hn]; rfl, ?_, ?_, ?_⟩ <;>
      (rintro rfl; exact absurd hdigit (by decide))

/-- A single value is read up to what may follow it. -/
theorem readValue_renderChars {number : NumberReader} {v : Json} (hv : IsScalar number v)
    (l : Layout) (fuel : Nat) {rest : List Char} (h : Stops rest) :
    readValue number (fuel + 1) (renderChars l v ++ rest) = some (reread v, rest) := by
  cases v with
  | null => exact readValue_atom fuel (by decide)
  | bool b =>
    cases b with
    | false => exact readValue_atom fuel (by decide)
    | true => exact readValue_atom fuel (by decide)
  | int n =>
    obtain ⟨c, cs, hc, apart⟩ := toString_eq_cons n
    have text : renderChars l (.int n) = (toString n).toList := rfl
    show _ = some (Json.int n, rest)
    rw [text, ← readAtom_toString hv h, hc]
    exact readValue_atom fuel apart
  | str s =>
    show readValue number (fuel + 1) ('"' :: (s.toList.flatMap escapeChar ++ ['"']) ++ rest) = _
    rw [List.cons_append, List.append_assoc, List.singleton_append, readValue,
      readString_flatMap_escapeChar]
    rfl
  | float x => exact hv.elim
  | arr items => exact hv.elim
  | obj fields => exact hv.elim

/-- A character of a word or of an integer: it opens, closes and separates nothing, and it is
printable. -/
structure IsBare (c : Char) : Prop where
  noMark : c ≠ '"' ∧ c ≠ '[' ∧ c ≠ '{' ∧ c ≠ '}'
  noGap : isGap c = false
  printable : IsPrintableAscii c

instance : DecidablePred IsBare := fun c =>
  decidable_of_iff
    ((c ≠ '"' ∧ c ≠ '[' ∧ c ≠ '{' ∧ c ≠ '}') ∧ isGap c = false ∧ IsPrintableAscii c)
    ⟨fun h => ⟨h.1, h.2.1, h.2.2⟩, fun h => ⟨h.noMark, h.noGap, h.printable⟩⟩

theorem isBare_of_isDigit {c : Char} (h : c.isDigit = true) : IsBare c where
  noMark := by refine ⟨?_, ?_, ?_, ?_⟩ <;> (rintro rfl; exact absurd h (by decide))
  noGap := by
    simp only [isGap, Bool.or_eq_false_iff, beq_eq_false_iff_ne]
    refine ⟨⟨⟨?_, ?_⟩, ?_⟩, ?_⟩ <;> (rintro rfl; exact absurd h (by decide))
  printable := by
    simp only [Char.isDigit, Bool.and_eq_true, decide_eq_true_eq] at h
    have low : 48 ≤ c.val.toNat := h.1
    have high : c.val.toNat ≤ 57 := h.2
    show 0x20 ≤ c.val.toNat ∧ c.val.toNat ≤ 0x7e
    omega

/-- A single value is a text, or it is written in bare characters. -/
theorem isBare_renderChars {number : NumberReader} {v : Json} (hv : IsScalar number v)
    (l : Layout) :
    (∃ s, v = .str s) ∨ renderChars l v ≠ [] ∧ ∀ c ∈ renderChars l v, IsBare c := by
  -- The word is gone through, not all characters.
  have decided : ∀ word : List Char, word.all (fun c => decide (IsBare c)) = true →
      ∀ c ∈ word, IsBare c :=
    fun word bare c hc => of_decide_eq_true (List.all_eq_true.1 bare c hc)
  cases v with
  | null => exact .inr ⟨by simp [renderChars], decided "null".toList (by decide)⟩
  | bool b =>
    cases b with
    | false => exact .inr ⟨by simp [renderChars], decided "false".toList (by decide)⟩
    | true => exact .inr ⟨by simp [renderChars], decided "true".toList (by decide)⟩
  | int n =>
    have text : renderChars l (.int n) = (toString n).toList := rfl
    obtain ⟨c, cs, hc, -⟩ := toString_eq_cons n
    refine .inr ⟨by rw [text, hc]; simp, fun c hc => ?_⟩
    rw [text, toList_toString, List.mem_append] at hc
    rcases hc with hc | hc
    · split at hc
      · exact decided ['-'] (by decide) c hc
      · simp at hc
    · exact isBare_of_isDigit (isDigit_of_mem hc)
  | str s => exact .inl ⟨s, rfl⟩
  | float x => exact hv.elim
  | arr items => exact hv.elim
  | obj fields => exact hv.elim

/-! ## Records -/

/-- The fields of a record that can be written: values that hold no others, under joined names of
their own. -/
structure IsWritable (number : NumberReader) (fields : List (String × Json)) : Prop where
  names : (fields.map (·.1)).Nodup
  joined : ∀ f ∈ fields, IsJoined f.1.toList
  scalar : ∀ f ∈ fields, IsScalar number f.2

theorem IsWritable.tail {number : NumberReader} {f : String × Json} {fields : List (String × Json)}
    (h : IsWritable number (f :: fields)) : IsWritable number fields where
  names := (List.nodup_cons.1 h.names).2
  joined := fun g hg => h.joined g (List.mem_cons_of_mem _ hg)
  scalar := fun g hg => h.scalar g (List.mem_cons_of_mem _ hg)

/-- The fields of a record as they are read where they were written. -/
def rereadFields (fields : List (String × Json)) : List (String × Json) :=
  fields.map fun f => (f.1, reread f.2)

/-- The fields of a record that is read as it was: single values under joined names of their own. -/
structure IsRecord (number : NumberReader) (fields : List (String × Json)) : Prop where
  names : (fields.map (·.1)).Nodup
  joined : ∀ f ∈ fields, IsJoined f.1.toList
  single : ∀ f ∈ fields, IsSingle number f.2

theorem IsRecord.isWritable {number : NumberReader} {fields : List (String × Json)}
    (h : IsRecord number fields) : IsWritable number fields where
  names := h.names
  joined := h.joined
  scalar := fun f hf => (h.single f hf).isScalar

theorem IsRecord.rereadFields_eq {number : NumberReader} {fields : List (String × Json)}
    (h : IsRecord number fields) : rereadFields fields = fields := by
  have same : ∀ f ∈ fields, (f.1, reread f.2) = f := by
    intro f hf
    rw [(h.single f hf).reread_eq]
  rw [rereadFields, List.map_congr_left same, List.map_id']

/-- A layout that puts nothing but blanks after a comma and a colon. -/
structure Layout.IsPlain (l : Layout) : Prop where
  comma : ∃ blanks, l.comma = ',' :: blanks ∧ ∀ c ∈ blanks, isGap c = true
  colon : ∃ blanks, l.colon = ':' :: blanks ∧ ∀ c ∈ blanks, isGap c = true

theorem Layout.isPlain_compact : Layout.compact.IsPlain :=
  ⟨⟨[], rfl, by simp⟩, ⟨[], rfl, by simp⟩⟩

theorem Layout.isPlain_spaced : Layout.spaced.IsPlain :=
  ⟨⟨[' '], rfl, by simp [isGap]⟩, ⟨[' '], rfl, by simp [isGap]⟩⟩

theorem skipBlanks_append {blanks : List Char} (h : ∀ c ∈ blanks, isGap c = true)
    (cs : List Char) : skipBlanks (blanks ++ cs) = skipBlanks cs := by
  rw [skipBlanks, skipBlanks, List.dropWhile_append_of_pos h]

theorem skipBlanks_cons {c : Char} (h : isGap c = false) (cs : List Char) :
    skipBlanks (c :: cs) = c :: cs := by
  rw [skipBlanks, List.dropWhile_cons_of_neg (by simp [h])]

/-- No blank stands before a single value. -/
theorem skipBlanks_renderChars {number : NumberReader} {v : Json} (hv : IsScalar number v)
    (l : Layout) (rest : List Char) :
    skipBlanks (renderChars l v ++ rest) = renderChars l v ++ rest := by
  rcases isBare_renderChars hv l with ⟨s, rfl⟩ | ⟨nonempty, bare⟩
  · exact skipBlanks_cons (by decide) _
  · obtain ⟨c, cs, hcs⟩ := List.exists_cons_of_ne_nil nonempty
    rw [hcs, List.cons_append, skipBlanks_cons (bare c (hcs ▸ List.mem_cons_self)).noGap]

theorem put_of_not_mem {fields : List (String × Json)} {name : String}
    (h : name ∉ fields.map (·.1)) (v : Json) :
    Fields.put fields name v = fields ++ [(name, v)] := by
  induction fields with
  | nil => rfl
  | cons f rest ih =>
    simp only [List.map_cons, List.mem_cons, not_or] at h
    rw [Fields.put, if_neg (Ne.symm h.1), ih h.2, List.cons_append]

/-- Among names of their own, a value is found under its name. -/
theorem get?_of_mem {fields : List (String × Json)} (names : (fields.map (·.1)).Nodup)
    {name : String} {v : Json} (h : (name, v) ∈ fields) : Fields.get? fields name = some v := by
  induction fields with
  | nil => exact absurd h List.not_mem_nil
  | cons f rest ih =>
    obtain ⟨n, w⟩ := f
    obtain ⟨first, names⟩ := List.nodup_cons.1 names
    rw [Fields.get?_cons]
    rcases List.mem_cons.1 h with same | h
    · obtain ⟨rfl, rfl⟩ := Prod.mk.inj same
      rw [if_pos rfl]
    · have other : n ≠ name := by
        rintro rfl
        exact first (List.mem_map.2 ⟨_, h, rfl⟩)
      rw [if_neg other, ih names h]

theorem stops_cons {c : Char} (h : c.isDigit = false ∧ c ≠ '.' ∧ c ≠ 'e' ∧ c ≠ 'E')
    (rest : List Char) : Stops (c :: rest) := by
  intro d hd
  simp only [List.head?_cons, Option.mem_def, Option.some.injEq] at hd
  exact hd ▸ h

/-- The text of a field, with what follows it. -/
theorem field_append {l : Layout} {blanks : List Char} (hcolon : l.colon = ':' :: blanks)
    (name : String) (v : Json) (rest : List Char) :
    stringLiteral name ++ l.colon ++ renderChars l v ++ rest =
      '"' :: (name.toList.flatMap escapeChar ++
        '"' :: ':' :: (blanks ++ (renderChars l v ++ rest))) := by
  simp [stringLiteral, hcolon]

section Fields

variable {number : NumberReader} {l : Layout} {name : String} {v : Json}

/-- The last field of a record is put behind those before it. -/
theorem readFields_last (hl : l.IsPlain) (hn : IsJoined name.toList) (hv : IsScalar number v)
    (fuel : Nat) (before : List (String × Json)) (rest : List Char) :
    readFields number (fuel + 2) before
        (stringLiteral name ++ l.colon ++ renderChars l v ++ '}' :: rest) =
      some (Fields.put before name (reread v), rest) := by
  obtain ⟨blanks, hcolon, hgaps⟩ := hl.colon
  rw [field_append hcolon, readFields]
  simp only [readString_stringLiteral hn, skipBlanks_cons (show isGap ':' = false by decide),
    skipBlanks_append hgaps, skipBlanks_renderChars hv,
    readValue_renderChars hv l fuel (stops_cons (c := '}') (by decide) rest),
    skipBlanks_cons (show isGap '}' = false by decide)]

/-- After any other field the record goes on. -/
theorem readFields_next (hl : l.IsPlain) (hn : IsJoined name.toList) (hv : IsScalar number v)
    (fuel : Nat) (before : List (String × Json)) (rest : List Char) :
    readFields number (fuel + 2) before
        (stringLiteral name ++ l.colon ++ renderChars l v ++ ',' :: rest) =
      readFields number (fuel + 1) (Fields.put before name (reread v)) (skipBlanks rest) := by
  obtain ⟨blanks, hcolon, hgaps⟩ := hl.colon
  rw [field_append hcolon, readFields]
  simp only [readString_stringLiteral hn, skipBlanks_cons (show isGap ':' = false by decide),
    skipBlanks_append hgaps, skipBlanks_renderChars hv,
    readValue_renderChars hv l fuel (stops_cons (c := ',') (by decide) rest),
    skipBlanks_cons (show isGap ',' = false by decide)]

end Fields

theorem renderFields_singleton (l : Layout) (name : String) (v : Json) :
    renderFields l [(name, v)] = stringLiteral name ++ l.colon ++ renderChars l v := rfl

theorem renderFields_cons_cons (l : Layout) (name : String) (v : Json) (g : String × Json)
    (fields : List (String × Json)) :
    renderFields l ((name, v) :: g :: fields) =
      stringLiteral name ++ l.colon ++ renderChars l v ++ l.comma ++ renderFields l (g :: fields) :=
  rfl

/-- Written fields begin with a quote. -/
theorem renderFields_eq_cons (l : Layout) (f : String × Json) (fields : List (String × Json)) :
    ∃ cs, renderFields l (f :: fields) = '"' :: cs := by
  cases fields <;> exact ⟨_, rfl⟩

theorem skipBlanks_renderFields (l : Layout) (f : String × Json) (fields : List (String × Json))
    (rest : List Char) :
    skipBlanks (renderFields l (f :: fields) ++ rest) = renderFields l (f :: fields) ++ rest := by
  obtain ⟨cs, hcs⟩ := renderFields_eq_cons l f fields
  rw [hcs, List.cons_append, skipBlanks_cons (by decide)]

/-- A written record has a character for each of its fields at least. -/
theorem length_le_length_renderFields (l : Layout) (fields : List (String × Json)) :
    fields.length ≤ (renderFields l fields).length := by
  induction fields with
  | nil => exact Nat.zero_le _
  | cons f fields ih =>
    obtain ⟨name, v⟩ := f
    cases fields with
    | nil => simp [renderFields_singleton, stringLiteral]
    | cons g fields =>
      rw [renderFields_cons_cons, List.length_append, stringLiteral]
      simp only [List.length_cons, List.length_append] at ih ⊢
      omega

/-- The fields of a written record are read behind those before them. -/
theorem readFields_renderFields {number : NumberReader} {l : Layout} (hl : l.IsPlain)
    {f : String × Json} {fields : List (String × Json)} (h : IsWritable number (f :: fields))
    {before : List (String × Json)}
    (new : ∀ g ∈ f :: fields, g.1 ∉ before.map (·.1)) {fuel : Nat}
    (hf : fields.length + 2 ≤ fuel) (rest : List Char) :
    readFields number fuel before (renderFields l (f :: fields) ++ '}' :: rest) =
      some (before ++ rereadFields (f :: fields), rest) := by
  induction fields generalizing f before fuel with
  | nil =>
    obtain ⟨fuel, rfl⟩ : ∃ k, fuel = k + 2 := ⟨fuel - 2, by simp at hf; omega⟩
    obtain ⟨name, v⟩ := f
    rw [renderFields_singleton, readFields_last hl (h.joined _ List.mem_cons_self)
      (h.scalar _ List.mem_cons_self), put_of_not_mem (new _ List.mem_cons_self)]
    rfl
  | cons g fields ih =>
    obtain ⟨fuel, rfl⟩ : ∃ k, fuel = k + 2 := ⟨fuel - 2, by omega⟩
    obtain ⟨name, v⟩ := f
    obtain ⟨blanks, hcomma, hgaps⟩ := hl.comma
    -- The field that is read now joins those before, and its name does not come again either.
    have fresh : ∀ k ∈ g :: fields, k.1 ∉ (before ++ [(name, reread v)]).map (·.1) := by
      intro k hk
      simp only [List.map_append, List.map_cons, List.map_nil, List.mem_append, List.mem_singleton,
        not_or]
      refine ⟨new k (List.mem_cons_of_mem _ hk), fun same => ?_⟩
      exact (List.nodup_cons.1 h.names).1 (List.mem_map.2 ⟨k, hk, same⟩)
    have text : renderFields l ((name, v) :: g :: fields) ++ '}' :: rest =
        stringLiteral name ++ l.colon ++ renderChars l v ++
          ',' :: (blanks ++ (renderFields l (g :: fields) ++ '}' :: rest)) := by
      rw [renderFields_cons_cons, hcomma]
      simp only [List.append_assoc, List.cons_append]
    rw [text, readFields_next hl (h.joined _ List.mem_cons_self) (h.scalar _ List.mem_cons_self),
      skipBlanks_append hgaps, skipBlanks_renderFields, put_of_not_mem (new _ List.mem_cons_self),
      ih h.tail fresh (by simp at hf; omega), List.append_assoc, List.singleton_append]
    rfl

/-- What begins with a brace and a quote is read as fields. -/
theorem readValue_brace (number : NumberReader) (fuel : Nat) (cs : List Char) :
    readValue number (fuel + 1) ('{' :: '"' :: cs) =
      (readFields number fuel [] ('"' :: cs)).map fun r => (.obj r.1, r.2) := by
  rw [readValue, skipBlanks_cons (by decide)]
  rfl

/-- A written record is a JSON text of that record, with the halves of characters joined. -/
theorem parseChars?_of_isWritable {number : NumberReader} {l : Layout} (hl : l.IsPlain)
    {fields : List (String × Json)} (h : IsWritable number fields) :
    parseChars? number (renderChars l (.obj fields)) = some (.obj (rereadFields fields)) := by
  have text : renderChars l (.obj fields) = '{' :: (renderFields l fields ++ ['}']) := rfl
  rw [parseChars?, text, skipBlanks_cons (by decide)]
  cases fields with
  | nil => rfl
  | cons f fields =>
    -- The reader goes as deep as the text is long, which is deeper than there are fields.
    have enough : fields.length + 2 ≤ ('{' :: (renderFields l (f :: fields) ++ ['}'])).length := by
      have := length_le_length_renderFields l (f :: fields)
      simp only [List.length_cons, List.length_append] at this ⊢
      omega
    have new : ∀ g ∈ f :: fields, g.1 ∉ ([] : List (String × Json)).map (·.1) := by simp
    have read := readFields_renderFields hl h new enough []
    obtain ⟨cs, hcs⟩ := renderFields_eq_cons l f fields
    rw [hcs, List.cons_append] at read ⊢
    rw [readValue_brace, read]
    rfl

/-! ## Brackets -/

/-- Wherever a text is begun to be looked through, no bracket in it lacks room. -/
def HasRoom (room : Nat) (closers : List Char) (place : Place) (cs : List Char) : Prop :=
  ∀ before, closedUp? room closers before place cs = none

section Brackets

variable {room : Nat} {closers cs : List Char}

/-- A character inside a string that neither ends it nor begins an escape. -/
theorem hasRoom_within {c : Char} (hq : c ≠ '"') (hb : c ≠ '\\')
    (h : HasRoom room closers .within cs) : HasRoom room closers .within (c :: cs) := by
  intro before
  rw [closedUp?, if_pos (by decide), Place.next, if_neg hq, if_neg hb]
  exact h _

/-- An escape inside a string. -/
theorem hasRoom_escaped (c : Char) (h : HasRoom room closers .within cs) :
    HasRoom room closers .within ('\\' :: c :: cs) := by
  intro before
  rw [closedUp?, if_pos (by decide)]
  show closedUp? room closers ('\\' :: before) .escaped (c :: cs) = none
  rw [closedUp?, if_pos (by decide)]
  exact h _

theorem hasRoom_unitEscape (n : Nat) (h : HasRoom room closers .within cs) :
    HasRoom room closers .within (unitEscape n ++ cs) := by
  have digit : ∀ k, hexDigit (k % 16) ≠ '"' ∧ hexDigit (k % 16) ≠ '\\' := fun k =>
    ⟨(hexDigit_plain (Nat.mod_lt k (by decide))).1, (hexDigit_plain (Nat.mod_lt k (by decide))).2.1⟩
  rw [unitEscape_eq]
  exact hasRoom_escaped _ (hasRoom_within (digit _).1 (digit _).2
    (hasRoom_within (digit _).1 (digit _).2 (hasRoom_within (digit _).1 (digit _).2
      (hasRoom_within (digit _).1 (digit _).2 h))))

theorem hasRoom_flatMap_unitEscape (units : List Nat) (h : HasRoom room closers .within cs) :
    HasRoom room closers .within (units.flatMap unitEscape ++ cs) := by
  induction units with
  | nil => exact h
  | cons n units ih =>
    rw [List.flatMap_cons, List.append_assoc]
    exact hasRoom_unitEscape n ih

/-- A written character leaves the string open. -/
theorem hasRoom_escapeChar (c : Char) (h : HasRoom room closers .within cs) :
    HasRoom room closers .within (escapeChar c ++ cs) := by
  have written := written_escapeChar c
  generalize escapeChar c = text at written ⊢
  cases written with
  | escape e => exact hasRoom_escaped e h
  | plain noQuote noBackslash => exact hasRoom_within noQuote noBackslash h
  | units => exact hasRoom_flatMap_unitEscape _ h

theorem hasRoom_flatMap_escapeChar (text : List Char) (h : HasRoom room closers .within cs) :
    HasRoom room closers .within (text.flatMap escapeChar ++ cs) := by
  induction text with
  | nil => exact h
  | cons c text ih =>
    rw [List.flatMap_cons, List.append_assoc]
    exact hasRoom_escapeChar c ih

/-- A character between strings that opens and closes nothing. -/
theorem hasRoom_ordinary {c : Char} (hc : c ≠ '"' ∧ c ≠ '[' ∧ c ≠ '{' ∧ c ≠ '}')
    (h : HasRoom room ['}'] .between cs) : HasRoom room ['}'] .between (c :: cs) := by
  intro before
  rw [closedUp?, if_neg (by decide), Bracket.ofChar?, if_neg hc.2.1, if_neg hc.2.2.1]
  dsimp only
  rw [if_neg (by simpa using Ne.symm hc.2.2.2), Place.next, if_neg hc.1]
  exact h _

theorem hasRoom_append {text : List Char}
    (htext : ∀ c ∈ text, c ≠ '"' ∧ c ≠ '[' ∧ c ≠ '{' ∧ c ≠ '}')
    (h : HasRoom room ['}'] .between cs) : HasRoom room ['}'] .between (text ++ cs) := by
  induction text with
  | nil => exact h
  | cons c text ih =>
    obtain ⟨hc, hrest⟩ := List.forall_mem_cons.1 htext
    exact hasRoom_ordinary hc (ih hrest)

/-- A string of a record, whatever stands in it. -/
theorem hasRoom_stringLiteral (s : String) (h : HasRoom room ['}'] .between cs) :
    HasRoom room ['}'] .between (stringLiteral s ++ cs) := by
  have closing : HasRoom room ['}'] .within ('"' :: cs) := by
    intro before
    rw [closedUp?, if_pos (by decide)]
    exact h _
  intro before
  have text : stringLiteral s ++ cs = '"' :: (s.toList.flatMap escapeChar ++ '"' :: cs) := by
    simp [stringLiteral]
  rw [text, closedUp?, if_neg (by decide)]
  exact hasRoom_flatMap_escapeChar s.toList closing _

theorem hasRoom_gaps {blanks : List Char} (h : ∀ c ∈ blanks, isGap c = true)
    (hcs : HasRoom room ['}'] .between cs) : HasRoom room ['}'] .between (blanks ++ cs) := by
  refine hasRoom_append (fun c hc => ?_) hcs
  refine ⟨?_, ?_, ?_, ?_⟩ <;> (rintro rfl; exact absurd (h _ hc) (by decide))

theorem hasRoom_single {number : NumberReader} {v : Json} (hv : IsScalar number v) (l : Layout)
    (h : HasRoom room ['}'] .between cs) : HasRoom room ['}'] .between (renderChars l v ++ cs) := by
  rcases isBare_renderChars hv l with ⟨s, rfl⟩ | ⟨-, bare⟩
  · exact hasRoom_stringLiteral s h
  · exact hasRoom_append (fun c hc => (bare c hc).noMark) h

theorem hasRoom_field {number : NumberReader} {l : Layout} (hl : l.IsPlain) (name : String) {v : Json}
    (hv : IsScalar number v) (h : HasRoom room ['}'] .between cs) :
    HasRoom room ['}'] .between (stringLiteral name ++ l.colon ++ renderChars l v ++ cs) := by
  obtain ⟨blanks, hcolon, hgaps⟩ := hl.colon
  rw [hcolon, List.append_assoc, List.append_assoc, List.cons_append]
  exact hasRoom_stringLiteral name (hasRoom_ordinary (by decide)
    (hasRoom_gaps hgaps (hasRoom_single hv l h)))

theorem hasRoom_renderFields {number : NumberReader} {l : Layout} (hl : l.IsPlain)
    {fields : List (String × Json)} (h : IsWritable number fields)
    (hcs : HasRoom room ['}'] .between cs) :
    HasRoom room ['}'] .between (renderFields l fields ++ cs) := by
  induction fields with
  | nil => exact hcs
  | cons f fields ih =>
    obtain ⟨name, v⟩ := f
    have hv := h.scalar _ List.mem_cons_self
    cases fields with
    | nil => exact hasRoom_field hl name hv hcs
    | cons g fields =>
      obtain ⟨blanks, hcomma, hgaps⟩ := hl.comma
      rw [renderFields_cons_cons, hcomma, List.append_assoc, List.append_assoc]
      exact hasRoom_field hl name hv (hasRoom_ordinary (by decide)
        (hasRoom_gaps hgaps (ih h.tail)))

/-- The bracket of a record is the only one that needs room. -/
theorem hasRoom_renderChars {number : NumberReader} {l : Layout} (hl : l.IsPlain)
    {fields : List (String × Json)} (h : IsWritable number fields) :
    HasRoom (room + 1) [] .between (renderChars l (.obj fields)) := by
  have closing : HasRoom room ['}'] .between ['}'] := by
    intro before
    rw [closedUp?, if_neg (by decide)]
    rfl
  intro before
  have text : renderChars l (.obj fields) = '{' :: (renderFields l fields ++ ['}']) := rfl
  rw [text, closedUp?, if_neg (by decide)]
  exact hasRoom_renderFields hl h closing _

end Brackets

/-! ## The whole -/

/-- A written record is read, with the halves of characters joined. -/
theorem read_of_isWritable (room : Nat) {number : NumberReader} {l : Layout} (hl : l.IsPlain)
    {fields : List (String × Json)} (h : IsWritable number fields) :
    read room number (renderChars l (.obj fields)) = .value (.obj (rereadFields fields)) := by
  have inside : closedUp? (room + 1) [] [] .between (renderChars l (.obj fields)) = none :=
    hasRoom_renderChars hl h []
  rw [read, inside, Option.bind_none]
  simp only [parseChars?_of_isWritable hl h]

/-- A character is written in printable characters. -/
theorem arePrintable_escapeChar (c : Char) : ArePrintable (escapeChar c) := by
  have units : ∀ units : List Nat, ArePrintable (units.flatMap unitEscape) := by
    intro units d hd
    obtain ⟨n, -, hn⟩ := List.mem_flatMap.1 hd
    have digit : ∀ k, IsPrintableAscii (hexDigit (k % 16)) := fun k =>
      (hexDigit_plain (Nat.mod_lt k (by decide))).2.2
    rw [unitEscape_eq] at hn
    simp only [List.mem_cons, List.not_mem_nil, or_false] at hn
    rcases hn with rfl | rfl | rfl | rfl | rfl | rfl
    · decide
    · decide
    all_goals exact digit _
  have written := written_escapeChar c
  generalize escapeChar c = text at written ⊢
  cases written with
  | escape e printable =>
    intro d hd
    simp only [List.mem_cons, List.not_mem_nil, or_false] at hd
    rcases hd with rfl | rfl
    · decide
    · exact printable
  | plain _ _ printable =>
    intro d hd
    exact List.mem_singleton.1 hd ▸ printable
  | units => exact units _

section Characters
variable {p : Char → Prop} {l : Layout} {number : NumberReader}

theorem forall_mem_stringLiteral (printable : ∀ c, IsPrintableAscii c → p c) (s : String) :
    ∀ c ∈ stringLiteral s, p c := by
  intro c hc
  simp only [stringLiteral, List.mem_cons, List.mem_append, List.not_mem_nil, or_false] at hc
  rcases hc with rfl | hc | rfl
  · exact printable _ (by decide)
  · obtain ⟨d, -, hd⟩ := List.mem_flatMap.1 hc
    exact printable c (arePrintable_escapeChar d c hd)
  · exact printable _ (by decide)

theorem forall_mem_scalar (printable : ∀ c, IsPrintableAscii c → p c) {v : Json}
    (hv : IsScalar number v) (l : Layout) : ∀ c ∈ renderChars l v, p c := by
  rcases isBare_renderChars hv l with ⟨s, rfl⟩ | ⟨-, bare⟩
  · exact forall_mem_stringLiteral printable s
  · exact fun c hc => printable c (bare c hc).printable

/-- A record is written in printable characters and in those that the layout has between its parts. -/
theorem forall_mem_renderChars (printable : ∀ c, IsPrintableAscii c → p c)
    (comma : ∀ c ∈ l.comma, p c) (colon : ∀ c ∈ l.colon, p c) {fields : List (String × Json)}
    (h : IsWritable number fields) : ∀ c ∈ renderChars l (.obj fields), p c := by
  have written : ∀ c ∈ renderFields l fields, p c := by
    induction fields with
    | nil => exact fun c hc => absurd hc List.not_mem_nil
    | cons f fields ih =>
      obtain ⟨name, v⟩ := f
      have field : ∀ c ∈ stringLiteral name ++ l.colon ++ renderChars l v, p c := by
        simp only [List.forall_mem_append]
        exact ⟨⟨forall_mem_stringLiteral printable name, colon⟩,
          forall_mem_scalar printable (h.scalar _ List.mem_cons_self) l⟩
      cases fields with
      | nil => exact field
      | cons g fields =>
        rw [renderFields_cons_cons, List.forall_mem_append, List.forall_mem_append]
        exact ⟨⟨field, comma⟩, ih h.tail⟩
  have braces : p '{' ∧ p '}' := ⟨printable _ (by decide), printable _ (by decide)⟩
  intro c hc
  have text : renderChars l (.obj fields) = '{' :: (renderFields l fields ++ ['}']) := rfl
  rw [text, List.mem_cons, List.mem_append, List.mem_singleton] at hc
  rcases hc with rfl | hc | rfl
  · exact braces.1
  · exact written c hc
  · exact braces.2

/-- A record is written in ASCII characters. -/
theorem isAscii_renderChars (hl : l.IsPlain) {fields : List (String × Json)}
    (h : IsWritable number fields) : IsAscii (renderChars l (.obj fields)) := by
  obtain ⟨commas, hcomma, hcommas⟩ := hl.comma
  obtain ⟨colons, hcolon, hcolons⟩ := hl.colon
  -- A plain layout has nothing but marks and blanks, which are one byte each.
  have gap : ∀ c, isGap c = true → c.toNat < 0x80 := by
    intro c hc
    simp only [isGap, Bool.or_eq_true, beq_iff_eq] at hc
    rcases hc with ((rfl | rfl) | rfl) | rfl <;> decide
  refine forall_mem_renderChars (fun c hc => hc.ascii) ?_ ?_ h
  · rw [hcomma]
    exact isAscii_cons.2 ⟨by decide, fun c hc => gap c (hcommas c hc)⟩
  · rw [hcolon]
    exact isAscii_cons.2 ⟨by decide, fun c hc => gap c (hcolons c hc)⟩

/-- With blanks after commas and colons, a record is written in printable characters. -/
theorem arePrintable_renderChars {fields : List (String × Json)} (h : IsWritable number fields) :
    ArePrintable (renderChars .spaced (.obj fields)) :=
  forall_mem_renderChars (l := .spaced) (fun _ hc => hc)
    (show ArePrintable Layout.spaced.comma by decide)
    (show ArePrintable Layout.spaced.colon by decide) h

end Characters

end Runboard.Json
