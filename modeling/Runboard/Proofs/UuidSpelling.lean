import Mathlib.Algebra.Group.Nat.Defs
import Mathlib.Data.List.Induction
import Mathlib.Data.List.TakeWhile
import Runboard.Store.Uuid

/-!
# `Runboard.Proofs.UuidSpelling`: the texts that name an identifier

An identifier has many spellings. Its 32 digits may be written in either case, hyphens may stand
wherever one likes among them, braces of either kind may stand around them, and the words `urn:uuid:`
may stand in front, with braces around these too. All of them are read as the identifier, and the
canonical text is one of them.

The texts that are read are more than the spellings: what is left when words, braces and hyphens are
gone is a numeral, with blanks, a sign, a mark of its base, low lines and digits of other scripts. But
it has 32 characters, so it is never too large, and what it names is an identifier whose canonical
text names it again.

## Contents

* `IsHexDigit`, `hexValue?_toLower`: digits of base sixteen in either case;
* `hexPlaces`, `ofDigits_hexPlaces`, `hexadecimal?_of_denote`: the numeral of digits alone;
* `removeFrom_append`, `removeFrom_word`, `trimChars_append`: what is taken away;
* `Uuid.Spelling`, `Uuid.read_spelling`, `Uuid.read_text`: spellings are read;
* `hexadecimal?_lt`, `Uuid.read_cases`: what becomes of any text.
-/

namespace Runboard

open Runboard.Text

/-! ## Digits of base sixteen -/

/-- A digit of base sixteen of ASCII, in either case. -/
def IsHexDigit (c : Char) : Prop :=
  (0x30 ≤ c.toNat ∧ c.toNat ≤ 0x39) ∨ (0x41 ≤ c.toNat ∧ c.toNat ≤ 0x46) ∨
    (0x61 ≤ c.toNat ∧ c.toNat ≤ 0x66)

instance (c : Char) : Decidable (IsHexDigit c) := inferInstanceAs (Decidable (_ ∨ _))

theorem IsHexDigit.ne {c d : Char} (h : IsHexDigit c) (other : ¬ IsHexDigit d) : c ≠ d := by
  rintro rfl
  exact other h

/-- No digit is a brace. -/
theorem IsHexDigit.not_isBrace {c : Char} (h : IsHexDigit c) : Uuid.isBrace c = false := by
  rw [Uuid.isBrace, Bool.or_eq_false_iff, beq_eq_false_iff_ne, beq_eq_false_iff_ne]
  exact ⟨h.ne (by decide), h.ne (by decide)⟩

/-- No digit is a blank. -/
theorem IsHexDigit.not_isBlank {c : Char} (h : IsHexDigit c) : isBlank c = false := by
  unfold IsHexDigit at h
  simp only [isBlank, Bool.or_eq_false_iff, Bool.and_eq_false_iff, decide_eq_false_iff_not,
    beq_eq_false_iff_ne]
  omega

theorem hexValue?_hexDigit {n : Nat} (h : n < 16) : hexValue? (hexDigit n) = some n := by
  have all : ∀ n < 16, hexValue? (hexDigit n) = some n := by decide
  exact all n h

theorem isHexDigit_hexDigit {n : Nat} (h : n < 16) : IsHexDigit (hexDigit n) := by
  have all : ∀ n < 16, IsHexDigit (hexDigit n) := by decide
  exact all n h

theorem toLower_hexDigit {n : Nat} (h : n < 16) : (hexDigit n).toLower = hexDigit n := by
  have all : ∀ n < 16, (hexDigit n).toLower = hexDigit n := by decide
  exact all n h

/-- A letter from `A` to `Z` has its small letter 32 places behind it; any other character is its
own. -/
theorem toNat_toLower (c : Char) :
    c.toLower.toNat = if 0x41 ≤ c.toNat ∧ c.toNat ≤ 0x5a then c.toNat + 0x20 else c.toNat := by
  unfold Char.toLower
  split
  · next capital =>
    have range : 0x41 ≤ c.toNat ∧ c.toNat ≤ 0x5a := capital
    rw [if_pos range]
    show (c.val + 0x20).toNat = c.toNat + 0x20
    rw [UInt32.toNat_add]
    show (c.toNat + 0x20) % 2 ^ 32 = c.toNat + 0x20
    exact Nat.mod_eq_of_lt (by omega)
  · next small =>
    have range : ¬ (0x41 ≤ c.toNat ∧ c.toNat ≤ 0x5a) := small
    rw [if_neg range]

/-- The value of a digit does not depend on its case. -/
theorem hexValue?_toLower (c : Char) : hexValue? c.toLower = hexValue? c := by
  have number := toNat_toLower c
  by_cases capital : 0x41 ≤ c.toNat ∧ c.toNat ≤ 0x5a
  · rw [if_pos capital] at number
    unfold hexValue? decimalValue?
    simp only [number]
    by_cases digit : c.toNat ≤ 0x46
    · -- The letters up to `F` have a value, the same in both cases.
      rw [if_pos (by omega), if_neg (by omega), if_pos (by omega)]
      congr 1
    · rw [if_neg (by omega), if_neg (by omega), if_neg (by omega), if_pos (by omega),
        if_neg (by omega), if_neg (by omega), if_neg (by omega), if_pos (by omega)]
  · rw [if_neg capital] at number
    rw [Char.toNat_inj.1 number]

/-- What is a digit in small letters is one. -/
theorem isHexDigit_of_toLower {c : Char} (h : IsHexDigit c.toLower) : IsHexDigit c := by
  have number := toNat_toLower c
  unfold IsHexDigit at h ⊢
  split at number <;> omega

/-! ## What is taken away -/

section Away
variable {p : Char → Bool} {w : Char} {word lead body tail cs rest : List Char}

/-- Trimming takes the characters of the class around a text that has none of them. -/
theorem trimChars_append (hlead : ∀ c ∈ lead, p c = true) (hbody : ∀ c ∈ body, p c = false)
    (htail : ∀ c ∈ tail, p c = true) : trimChars p (lead ++ (body ++ tail)) = body :=
  trimChars_padded hlead (isTrimmed_of_forall hbody) htail

theorem trimChars_eq_self (other : ∀ c ∈ cs, p c = false) : trimChars p cs = cs :=
  trimChars_of_isTrimmed (isTrimmed_of_forall other)

/-- Where the first letter of a word does not occur, the word is not found. -/
theorem removeFrom_append (apart : w ∉ cs) :
    removeFrom (w :: word) 0 (cs ++ rest) = cs ++ removeFrom (w :: word) 0 rest := by
  induction cs with
  | nil => rfl
  | cons c cs ih =>
    obtain ⟨other, others⟩ := List.ne_and_not_mem_of_not_mem_cons apart
    have unlike : (w :: word).isPrefixOf (c :: (cs ++ rest)) = false := by
      simp [List.isPrefixOf, other]
    rw [List.cons_append, removeFrom, unlike, if_neg Bool.false_ne_true, ih others, List.cons_append]

theorem removeFrom_eq_self (apart : w ∉ cs) : removeFrom (w :: word) 0 cs = cs := by
  have whole : removeFrom (w :: word) 0 (cs ++ []) = cs ++ removeFrom (w :: word) 0 [] :=
    removeFrom_append apart
  simpa [removeFrom] using whole

theorem removeFrom_skip (skip : Nat) : removeFrom word skip cs = removeFrom word 0 (cs.drop skip) := by
  induction cs generalizing skip with
  | nil => simp [removeFrom]
  | cons c cs ih =>
    cases skip with
    | zero => rfl
    | succ skip => exact ih skip

/-- A word in front is left out. -/
theorem removeFrom_word : removeFrom (w :: word) 0 ((w :: word) ++ rest) =
    removeFrom (w :: word) 0 rest := by
  have found : (w :: word).isPrefixOf (w :: (word ++ rest)) = true :=
    List.isPrefixOf_iff_prefix.2 (List.prefix_append (w :: word) rest)
  have length : (w :: word).length - 1 = word.length := rfl
  rw [List.cons_append, removeFrom, if_pos found, length, removeFrom_skip, List.drop_left]

end Away

/-! ## Numerals of digits alone -/

/-- The lowest `width` places of a number in base sixteen, the highest first. -/
def hexPlaces : (width : Nat) → (n : Nat) → List Nat
  | 0, _ => []
  | width + 1, n => hexPlaces width (n / 16) ++ [n % 16]

theorem hexPlaces_lt {width n : Nat} : ∀ d ∈ hexPlaces width n, d < 16 := by
  induction width generalizing n with
  | zero => simp [hexPlaces]
  | succ width ih =>
    intro d hd
    rcases List.mem_append.1 hd with higher | lowest
    · exact ih d higher
    · rw [List.mem_singleton.1 lowest]
      exact Nat.mod_lt n (by decide)

/-- The digits of a number are the digits of its places. -/
theorem hexDigits_eq_map (width n : Nat) : hexDigits width n = (hexPlaces width n).map hexDigit := by
  induction width generalizing n with
  | zero => rfl
  | succ width ih => rw [hexDigits, hexPlaces, List.map_append, ih, List.map_singleton]

theorem ofDigits_concat (base : Nat) (ds : List Nat) (d : Nat) :
    ofDigits base (ds ++ [d]) = ofDigits base ds * base + d := by
  simp [ofDigits, List.foldl_append]

/-- The places of a number give it back, as far as they reach. -/
theorem ofDigits_hexPlaces (width n : Nat) : ofDigits 16 (hexPlaces width n) = n % 16 ^ width := by
  induction width generalizing n with
  | zero => simp [hexPlaces, ofDigits, Nat.mod_one]
  | succ width ih =>
    rw [hexPlaces, ofDigits_concat, ih, Nat.pow_succ, Nat.mul_comm (16 ^ width), Nat.mod_mul]
    omega

/-- A numeral of some digits is less than the power of its base with as many places. -/
theorem ofDigits_lt {base : Nat} {ds : List Nat} (h : ∀ d ∈ ds, d < base) :
    ofDigits base ds < base ^ ds.length := by
  induction ds using List.reverseRecOn with
  | nil => simp [ofDigits]
  | append_singleton ds d ih =>
    have higher := ih fun e he => h e (List.mem_append_left _ he)
    have lowest : d < base := h d (List.mem_append_right _ List.mem_cons_self)
    rw [ofDigits_concat, List.length_append, List.length_singleton, Nat.pow_succ]
    calc ofDigits base ds * base + d < ofDigits base ds * base + base := by omega
      _ = (ofDigits base ds + 1) * base := by rw [Nat.add_mul, Nat.one_mul]
      _ ≤ base ^ ds.length * base := Nat.mul_le_mul_right base higher

section Numerals
variable {value? : Char → Option Nat} {c : Char} {cs : List Char} {d : Nat} {ds : List Nat}

/-- The characters have the values of some digits, one each. -/
def Denote (value? : Char → Option Nat) (cs : List Char) (ds : List Nat) : Prop :=
  cs.map value? = ds.map some

theorem denote_cons : Denote value? (c :: cs) (d :: ds) ↔ value? c = some d ∧ Denote value? cs ds := by
  simp [Denote]

theorem Denote.length_eq (h : Denote value? cs ds) : cs.length = ds.length := by
  simpa [Denote] using congrArg List.length h

/-- A character among digits is one. -/
theorem Denote.isSome (h : Denote value? cs ds) (hc : c ∈ cs) : (value? c).isSome = true := by
  have found : value? c ∈ ds.map some := h ▸ List.mem_map_of_mem hc
  obtain ⟨d, -, hd⟩ := List.mem_map.1 found
  rw [← hd]
  rfl

/-- Where all characters are digits, they are read one by one. -/
theorem separatedDigits?_of_denote (line : value? '_' = none) (nonempty : cs ≠ [])
    (digits : Denote value? cs ds) : separatedDigits? value? cs = some ds := by
  induction cs generalizing ds with
  | nil => exact absurd rfl nonempty
  | cons c rest ih =>
    cases ds with
    | nil => cases digits.length_eq
    | cons d ds =>
      obtain ⟨first, others⟩ := denote_cons.1 digits
      cases rest with
      | nil =>
        obtain rfl : ds = [] := List.length_eq_zero_iff.1 others.length_eq.symm
        rw [separatedDigits?, first]
        rfl
      | cons e rest =>
        -- The next character is a digit, so it is no low line between two.
        have other : e ≠ '_' := by
          rintro rfl
          have digit := others.isSome List.mem_cons_self
          rw [line] at digit
          cases digit
        rw [separatedDigits?, first]
        simp only [other, ↓reduceIte, ih (List.cons_ne_nil e rest) others, Option.map_some]

theorem hexValue?_line : hexValue? '_' = none := by decide

/-- Where all characters are digits of ASCII, nothing is taken away in front of the numeral. -/
theorem hexadecimal?_of_denote (nonempty : cs ≠ []) (ascii : ∀ c ∈ cs, IsHexDigit c)
    (digits : Denote hexValue? cs ds) : Numeral.hexadecimal? cs = some (ofDigits 16 ds) := by
  have untrimmed : trimChars isBlank cs = cs :=
    trimChars_eq_self fun c hc => (ascii c hc).not_isBlank
  have unmarked : Numeral.dropHexMark cs = cs := by
    unfold Numeral.dropHexMark
    split
    · next z x rest =>
      have second : IsHexDigit x := ascii x (List.mem_cons_of_mem _ List.mem_cons_self)
      have noMark : ¬ (decimalValue? z = some 0 ∧ (x = 'x' ∨ x = 'X')) := by
        rintro ⟨-, rfl | rfl⟩
        · exact absurd second (by decide)
        · exact absurd second (by decide)
      rw [if_neg noMark]
    · rfl
  unfold Numeral.hexadecimal?
  rw [untrimmed]
  split
  · exact absurd (ascii '+' List.mem_cons_self) (by decide)
  · rw [unmarked, separatedDigits?_of_denote hexValue?_line nonempty digits, Option.map_some]

end Numerals

/-! ## Spellings -/

namespace Uuid

/-- A spelling of an identifier: its digits in either case with hyphens among them, between braces,
and perhaps the words `urn:uuid:` in front, between braces too. -/
structure Spelling (u : Uuid) where
  outer : List Char := []
  words : List Char := []
  inner : List Char := []
  body : List Char
  tail : List Char := []
  braces : ∀ c ∈ outer ++ (inner ++ tail), isBrace c = true
  urn : words = [] ∨ words = "urn:uuid:".toList
  /-- Apart from hyphens and the case of letters the body is the digits of the identifier. -/
  digits : (body.filter (· != '-')).map Char.toLower = hexDigits 32 u.value

namespace Spelling
variable {u : Uuid}

/-- The characters of a spelling. -/
def chars (s : u.Spelling) : List Char := s.outer ++ (s.words ++ (s.inner ++ (s.body ++ s.tail)))

/-- A spelling as a text. -/
def text (s : u.Spelling) : String := String.ofList s.chars

/-- What stands in the body and is no hyphen is a digit. -/
theorem isHexDigit (s : u.Spelling) : ∀ c ∈ s.body.filter (· != '-'), IsHexDigit c := by
  intro c hc
  have small : c.toLower ∈ hexDigits 32 u.value := by
    rw [← s.digits]
    exact List.mem_map_of_mem hc
  rw [hexDigits_eq_map] at small
  obtain ⟨d, hd, same⟩ := List.mem_map.1 small
  apply isHexDigit_of_toLower
  rw [← same]
  exact isHexDigit_hexDigit (hexPlaces_lt d hd)

theorem body_cases (s : u.Spelling) {c : Char} (hc : c ∈ s.body) : c = '-' ∨ IsHexDigit c := by
  by_cases hyphen : c = '-'
  · exact .inl hyphen
  · exact .inr (s.isHexDigit c (List.mem_filter.2 ⟨hc, bne_iff_ne.2 hyphen⟩))

/-- The digits of a spelling have the values of those of the identifier. -/
theorem denote (s : u.Spelling) :
    Denote hexValue? (s.body.filter (· != '-')) (hexPlaces 32 u.value) := by
  have cases : hexValue? = hexValue? ∘ Char.toLower := funext fun c => (hexValue?_toLower c).symm
  have places : (hexPlaces 32 u.value).map (hexValue? ∘ hexDigit) = (hexPlaces 32 u.value).map some :=
    List.map_congr_left fun d hd => hexValue?_hexDigit (hexPlaces_lt d hd)
  show (s.body.filter (· != '-')).map hexValue? = (hexPlaces 32 u.value).map some
  rw [cases, ← List.map_map, s.digits, hexDigits_eq_map, List.map_map, places]

/-- The words begin with a letter that occurs in them only. -/
theorem letter_not_mem (s : u.Spelling) :
    'u' ∉ s.outer ∧ 'u' ∉ s.inner ++ (s.body ++ s.tail) := by
  have unbraced : 'u' ∉ s.outer ++ (s.inner ++ s.tail) := by
    intro mem
    exact absurd (s.braces 'u' mem) (by decide)
  have undigit : 'u' ∉ s.body := by
    intro mem
    rcases s.body_cases mem with hyphen | digit
    · exact absurd hyphen (by decide)
    · exact absurd digit (by decide)
  simp only [List.mem_append, not_or] at unbraced ⊢
  exact ⟨unbraced.1, unbraced.2.1, undigit, unbraced.2.2⟩

/-- Leaving the words out leaves the rest. -/
theorem removeWords_chars (s : u.Spelling) :
    removeWord "uuid:" (removeWord "urn:" s.chars) = s.outer ++ (s.inner ++ (s.body ++ s.tail)) := by
  obtain ⟨outside, behind⟩ := s.letter_not_mem
  unfold chars
  generalize s.inner ++ (s.body ++ s.tail) = rest at behind
  rcases s.urn with words | words
  · have apart : 'u' ∉ s.outer ++ rest := by
      rw [List.mem_append, not_or]
      exact ⟨outside, behind⟩
    rw [words, List.nil_append]
    have first : removeWord "urn:" (s.outer ++ rest) = s.outer ++ rest := removeFrom_eq_self apart
    rw [first]
    exact removeFrom_eq_self apart
  · -- The second word begins as the first one does, and goes on in another way.
    have first : removeWord "urn:" (s.outer ++ (s.words ++ rest)) =
        s.outer ++ ("uuid:".toList ++ rest) := by
      rw [words]
      refine (removeFrom_append outside).trans (congrArg (s.outer ++ ·) ?_)
      refine removeFrom_word.trans ?_
      show "uuid:".toList ++ removeWord "urn:" rest = _
      exact congrArg ("uuid:".toList ++ ·) (removeFrom_eq_self behind)
    rw [first]
    refine (removeFrom_append outside).trans (congrArg (s.outer ++ ·) ?_)
    exact removeFrom_word.trans (removeFrom_eq_self behind)

/-- Without words, braces and hyphens a spelling is its digits. -/
theorem bare_chars (s : u.Spelling) : bare s.chars = s.body.filter (· != '-') := by
  have front : ∀ c ∈ s.outer ++ s.inner, isBrace c = true := by
    intro c hc
    rcases List.mem_append.1 hc with h | h
    · exact s.braces c (List.mem_append_left _ h)
    · exact s.braces c (List.mem_append_right _ (List.mem_append_left _ h))
  have back : ∀ c ∈ s.tail, isBrace c = true := fun c hc =>
    s.braces c (List.mem_append_right _ (List.mem_append_right _ hc))
  have middle : ∀ c ∈ s.body, isBrace c = false := by
    intro c hc
    rcases s.body_cases hc with rfl | digit
    · decide
    · exact digit.not_isBrace
  rw [bare, s.removeWords_chars, ← List.append_assoc, trimChars_append front middle back]

end Spelling

/-- Every spelling of an identifier is read as the identifier. -/
theorem read_spelling {u : Uuid} (bound : u.value < 2 ^ 128) (s : u.Spelling) :
    read s.text = .ok u := by
  have length : (s.body.filter (· != '-')).length = 32 := by
    rw [← List.length_map Char.toLower, s.digits, length_hexDigits]
  have nonempty : s.body.filter (· != '-') ≠ [] := by
    intro empty
    rw [empty] at length
    cases length
  have places : u.value < 16 ^ 32 := by omega
  have value : Numeral.hexadecimal? (s.body.filter (· != '-')) = some u.value := by
    rw [hexadecimal?_of_denote nonempty s.isHexDigit s.denote, ofDigits_hexPlaces,
      Nat.mod_eq_of_lt places]
  unfold read
  simp only [Spelling.text, String.toList_ofList, s.bare_chars, length, value]
  exact if_pos bound

/-- The canonical text has hyphens among the digits and nothing else. -/
theorem filter_text (u : Uuid) :
    u.text.toList.filter (· != '-') = hexDigits 32 u.value := by
  have plain : ∀ c ∈ hexDigits 32 u.value, (c != '-') = true := by
    intro c hc
    rw [hexDigits_eq_map] at hc
    obtain ⟨d, hd, rfl⟩ := List.mem_map.1 hc
    exact bne_iff_ne.2 ((isHexDigit_hexDigit (hexPlaces_lt d hd)).ne (by decide))
  have part : ∀ part : List Char, part.Sublist (hexDigits 32 u.value) →
      part.filter (· != '-') = part := fun part within =>
    List.filter_eq_self.2 fun c hc => plain c (within.subset hc)
  have hyphen : ('-' != '-') = false := rfl
  rw [text, String.toList_ofList]
  generalize hexDigits 32 u.value = ds at part
  have group : ∀ from' count, ((ds.drop from').take count).filter (· != '-') =
      (ds.drop from').take count := fun from' count =>
    part _ ((List.take_sublist _ _).trans (List.drop_sublist _ _))
  simp only [List.filter_append, List.filter_cons, hyphen, Bool.false_eq_true, ↓reduceIte,
    group, part _ (List.take_sublist 8 ds), part _ (List.drop_sublist 20 ds)]
  rw [← List.take_add, ← List.take_add, ← List.take_add, List.take_append_drop]

/-- The canonical text as a spelling. -/
def canonical (u : Uuid) : u.Spelling where
  body := u.text.toList
  braces := by simp
  urn := .inl rfl
  digits := by
    have small : (hexPlaces 32 u.value).map (Char.toLower ∘ hexDigit) =
        (hexPlaces 32 u.value).map hexDigit :=
      List.map_congr_left fun d hd => toLower_hexDigit (hexPlaces_lt d hd)
    rw [filter_text, hexDigits_eq_map, List.map_map, small]

/-- The canonical text of an identifier is read as the identifier. -/
theorem read_text {u : Uuid} (bound : u.value < 2 ^ 128) : read u.text = .ok u := by
  have same : u.canonical.text = u.text := by
    simp [Spelling.text, Spelling.chars, canonical]
  rw [← same]
  exact read_spelling bound u.canonical

end Uuid

/-! ## Any text -/

section AnyText
variable {value? : Char → Option Nat} {cs : List Char} {ds : List Nat} {n : Nat}

theorem length_separatedDigits? (h : separatedDigits? value? cs = some ds) :
    ds.length ≤ cs.length := by
  fun_induction separatedDigits? value? cs generalizing ds with
  | case1 => cases h
  | case2 c =>
    obtain ⟨v, -, rfl⟩ := Option.map_eq_some_iff.1 h
    exact Nat.le_refl _
  | case3 => cases h
  | case4 c rest v hv ih =>
    obtain ⟨ds, hds, rfl⟩ := Option.map_eq_some_iff.1 h
    have shorter := ih hds
    simp only [List.length_cons]
    omega
  | case5 c d rest v hv hd ih =>
    obtain ⟨ds, hds, rfl⟩ := Option.map_eq_some_iff.1 h
    exact Nat.succ_le_succ (ih hds)

theorem length_dropHexMark (cs : List Char) : (Numeral.dropHexMark cs).length ≤ cs.length := by
  unfold Numeral.dropHexMark
  split
  · split
    · split
      · simp only [List.length_cons]
        omega
      · simp only [List.length_cons]
        omega
    · exact Nat.le_refl _
  · exact Nat.le_refl _

theorem length_trimChars (p : Char → Bool) (cs : List Char) :
    (trimChars p cs).length ≤ cs.length := by
  have left := (List.dropWhile_sublist (l := cs) p).length_le
  have right := (List.dropWhile_sublist (l := (cs.dropWhile p).reverse) p).length_le
  rw [List.length_reverse] at right
  rw [trimChars, List.length_reverse]
  omega

/-- The digits of a numeral, if there are no more of them than a text has characters, are a number
of as many places. -/
theorem lt_of_separatedDigits? (h : (separatedDigits? hexValue? cs).map (ofDigits 16) = some n)
    {width : Nat} (room : cs.length ≤ width) : n < 16 ^ width := by
  obtain ⟨ds, hds, rfl⟩ := Option.map_eq_some_iff.1 h
  have digits := separatedDigits?_lt (fun c v hv => hexValue?_lt hv) hds
  have count := length_separatedDigits? hds
  calc ofDigits 16 ds < 16 ^ ds.length := ofDigits_lt digits
    _ ≤ 16 ^ width := Nat.pow_le_pow_right (by decide) (by omega)

/-- A numeral of base sixteen has as many places as characters at most, whatever of blanks, signs,
marks and low lines is among them. -/
theorem hexadecimal?_lt (h : Numeral.hexadecimal? cs = some n) : n < 16 ^ cs.length := by
  have room := length_trimChars isBlank cs
  unfold Numeral.hexadecimal? at h
  split at h
  · next rest heq =>
    rw [heq, List.length_cons] at room
    have marked := length_dropHexMark rest
    exact lt_of_separatedDigits? h (by omega)
  · have marked := length_dropHexMark (trimChars isBlank cs)
    exact lt_of_separatedDigits? h (by omega)

end AnyText

namespace Uuid

/-- What becomes of any text: it names an identifier, or has too few or too many characters, or what
is left of it is no numeral. That a numeral would be too large does not happen. -/
theorem read_cases (s : String) :
    (∃ u, read s = .ok u ∧ u.value < 2 ^ 128) ∨
    (read s = .error .length ∧ (bare s.toList).length ≠ 32) ∨
    (read s = .error (.digits (String.ofList (bare s.toList))) ∧
      Numeral.hexadecimal? (bare s.toList) = none) := by
  by_cases length : (bare s.toList).length = 32
  · cases numeral : Numeral.hexadecimal? (bare s.toList) with
    | none =>
      refine .inr (.inr ⟨?_, rfl⟩)
      simp only [read, length, numeral, ↓reduceIte]
    | some n =>
      have bound : n < 16 ^ 32 := length ▸ hexadecimal?_lt numeral
      refine .inl ⟨⟨n⟩, ?_, bound⟩
      simp only [read, length, numeral, ↓reduceIte]
      exact if_pos bound
  · refine .inr (.inl ⟨?_, length⟩)
    simp only [read, length, ↓reduceIte]

end Uuid

end Runboard
