/-!
# `Runboard.Text.Blank`: white space and trimming

Two classes of blanks are in use. `isBlank` is the Unicode property *White_Space*; `isSpace` adds
the four ASCII separators U+001C to U+001F, which that property leaves out. Trimming removes the
characters of a class from both ends of a text and nothing else.

## Contents

* `isBlank`, `isSpace`: the two classes;
* `trimChars`, `trim`: removal from both ends;
* `IsTrimmed`, `isTrimmed_trimChars`: texts with nothing to remove;
* `eq_trimChars_padded`, `trimChars_padded`: what is removed from a text, and what is left of it.
-/

namespace Runboard.Text

/-- The Unicode property *White_Space*. -/
def isBlank (c : Char) : Bool :=
  let n := c.toNat
  (0x09 ≤ n && n ≤ 0x0d) || n == 0x20 || n == 0x85 || n == 0xa0 || n == 0x1680 ||
    (0x2000 ≤ n && n ≤ 0x200a) || n == 0x2028 || n == 0x2029 || n == 0x202f || n == 0x205f ||
    n == 0x3000

/-- A blank, or one of the information separators U+001C to U+001F. -/
def isSpace (c : Char) : Bool :=
  isBlank c || (0x1c ≤ c.toNat && c.toNat ≤ 0x1f)

/-- Removes the characters of the class `p` from both ends. -/
def trimChars (p : Char → Bool) (cs : List Char) : List Char :=
  ((cs.dropWhile p).reverse.dropWhile p).reverse

/-- Removes spaces from both ends of a text. -/
def trim (s : String) : String :=
  String.ofList (trimChars isSpace s.toList)

/-! ## What is removed -/

/-- No character of the class stands at either end. -/
structure IsTrimmed (p : Char → Bool) (cs : List Char) : Prop where
  front : ∀ c ∈ cs.head?, p c = false
  back : ∀ c ∈ cs.getLast?, p c = false

section Trimmed
variable {p : Char → Bool} {cs lead body trail : List Char}

theorem isTrimmed_of_forall (other : ∀ c ∈ cs, p c = false) : IsTrimmed p cs :=
  ⟨fun c hc => other c (List.mem_of_mem_head? hc), fun c hc => other c (List.mem_of_getLast? hc)⟩

/-- Behind the characters at the front, a text is what is left of it and the characters at its
end. -/
theorem dropWhile_eq_trimChars_append (p : Char → Bool) (cs : List Char) :
    ∃ trail, (∀ c ∈ trail, p c = true) ∧ cs.dropWhile p = trimChars p cs ++ trail := by
  refine ⟨((cs.dropWhile p).reverse.takeWhile p).reverse, ?_, ?_⟩
  · intro c hc
    exact List.all_eq_true.1 List.all_takeWhile c (List.mem_reverse.1 hc)
  · rw [trimChars, ← List.reverse_append, List.takeWhile_append_dropWhile, List.reverse_reverse]

/-- Only characters of the class are removed, and only at the ends. -/
theorem eq_trimChars_padded (p : Char → Bool) (cs : List Char) :
    ∃ lead trail, (∀ c ∈ lead, p c = true) ∧ (∀ c ∈ trail, p c = true) ∧
      cs = lead ++ (trimChars p cs ++ trail) := by
  obtain ⟨trail, hollow, rest⟩ := dropWhile_eq_trimChars_append p cs
  refine ⟨cs.takeWhile p, trail, List.all_eq_true.1 List.all_takeWhile, hollow, ?_⟩
  rw [← rest, List.takeWhile_append_dropWhile]

theorem mem_of_mem_trimChars {c : Char} (hc : c ∈ trimChars p cs) : c ∈ cs := by
  obtain ⟨lead, trail, -, -, padded⟩ := eq_trimChars_padded p cs
  rw [padded]
  exact List.mem_append_right _ (List.mem_append_left _ hc)

/-- What ends a trimmed text is outside the class. -/
theorem getLast?_trimChars (p : Char → Bool) (cs : List Char) :
    ∀ c ∈ (trimChars p cs).getLast?, p c = false := by
  intro c hc
  simp only [trimChars, List.getLast?_reverse] at hc
  have := List.head?_dropWhile_not p (cs.dropWhile p).reverse
  cases h : ((cs.dropWhile p).reverse.dropWhile p).head? with
  | none => simp [h] at hc
  | some d =>
    simp only [h, Option.mem_def, Option.some.injEq] at hc
    simp only [h] at this
    simpa [hc] using this

/-- What begins a trimmed text is outside the class. -/
theorem head?_trimChars (p : Char → Bool) (cs : List Char) :
    ∀ c ∈ (trimChars p cs).head?, p c = false := by
  intro c hc
  obtain ⟨trail, -, rest⟩ := dropWhile_eq_trimChars_append p cs
  have first : (cs.dropWhile p).head? = some c := by
    rw [rest, List.head?_append, hc]
    rfl
  have other := List.head?_dropWhile_not p cs
  rw [first] at other
  simpa using other

theorem isTrimmed_trimChars (p : Char → Bool) (cs : List Char) : IsTrimmed p (trimChars p cs) :=
  ⟨head?_trimChars p cs, getLast?_trimChars p cs⟩

theorem dropWhile_eq_self_of_head? (other : ∀ c ∈ cs.head?, p c = false) : cs.dropWhile p = cs := by
  cases cs with
  | nil => rfl
  | cons c cs => exact List.dropWhile_cons_of_neg (by simp [other c rfl])

/-- Characters of the class around a text are removed, and no others. -/
theorem trimChars_padded (before : ∀ c ∈ lead, p c = true) (trimmed : IsTrimmed p body)
    (after : ∀ c ∈ trail, p c = true) : trimChars p (lead ++ (body ++ trail)) = body := by
  have afterBackwards : ∀ c ∈ trail.reverse, p c = true := fun c hc => after c (List.mem_reverse.1 hc)
  rw [trimChars, List.dropWhile_append_of_pos before]
  cases body with
  | nil =>
    have gone : (trail ++ []).dropWhile p = [] := List.dropWhile_append_of_pos after
    rw [List.append_nil] at gone
    rw [List.nil_append, gone]
    rfl
  | cons c body =>
    have kept : ((c :: body) ++ trail).dropWhile p = (c :: body) ++ trail :=
      dropWhile_eq_self_of_head? trimmed.front
    have keptBackwards : (c :: body).reverse.dropWhile p = (c :: body).reverse :=
      dropWhile_eq_self_of_head? (List.head?_reverse ▸ trimmed.back)
    rw [kept, List.reverse_append, List.dropWhile_append_of_pos afterBackwards, keptBackwards,
      List.reverse_reverse]

theorem trimChars_of_isTrimmed (trimmed : IsTrimmed p cs) : trimChars p cs = cs := by
  have none : ∀ c ∈ ([] : List Char), p c = true := fun c hc => absurd hc List.not_mem_nil
  have padded := trimChars_padded none trimmed none
  rwa [List.nil_append, List.append_nil] at padded

end Trimmed

end Runboard.Text
