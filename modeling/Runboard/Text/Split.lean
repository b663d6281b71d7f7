/-!
# `Runboard.Text.Split`: texts at the occurrences of a character

## Contents

* `splitFirst`, `splitLast`: a text at the first or last occurrence;
* `splitAll`: the parts between all occurrences;
* `splitFirst_eq_some`, `splitFirst_append`, `splitFirst_of_not_mem`: what a split says of the text;
* `splitAll_of_not_mem`: a text without the character is one part;
* `AreParts`, `splitAll_eq_iff`: the parts are without the character, and joined by it are the text.
-/

namespace Runboard.Text

/-- A text split at the first occurrence of a character. -/
def splitFirst (sep : Char) : List Char → Option (List Char × List Char)
  | [] => none
  | c :: cs =>
    if c = sep then some ([], cs)
    else (splitFirst sep cs).map fun (before, after) => (c :: before, after)

/-- A text split at the last occurrence of a character. -/
def splitLast (sep : Char) (cs : List Char) : Option (List Char × List Char) :=
  (splitFirst sep cs.reverse).map fun (after, before) => (before.reverse, after.reverse)

/-- The parts of a text between the occurrences of a character; there is always one. -/
def splitAll (sep : Char) : List Char → List (List Char)
  | [] => [[]]
  | c :: cs =>
    if c = sep then [] :: splitAll sep cs
    else
      match splitAll sep cs with
      | [] => [[c]]
      | part :: parts => (c :: part) :: parts

/-! ## Small facts -/

theorem splitFirst_append {sep : Char} {before : List Char} (after : List Char)
    (h : sep ∉ before) : splitFirst sep (before ++ sep :: after) = some (before, after) := by
  induction before with
  | nil => simp [splitFirst]
  | cons c cs ih =>
    simp only [List.mem_cons, not_or] at h
    simp [splitFirst, Ne.symm h.1, ih h.2]

theorem splitFirst_of_not_mem {sep : Char} {cs : List Char} (h : sep ∉ cs) :
    splitFirst sep cs = none := by
  induction cs with
  | nil => rfl
  | cons c cs ih =>
    simp only [List.mem_cons, not_or] at h
    rw [splitFirst, if_neg (Ne.symm h.1), ih h.2, Option.map_none]

theorem splitFirst_eq_some {sep : Char} {cs before after : List Char}
    (h : splitFirst sep cs = some (before, after)) :
    cs = before ++ sep :: after ∧ sep ∉ before := by
  induction cs generalizing before with
  | nil => simp [splitFirst] at h
  | cons c cs ih =>
    unfold splitFirst at h
    split at h
    · next hc =>
      simp only [Option.some.injEq, Prod.mk.injEq] at h
      obtain ⟨rfl, rfl⟩ := h
      simp [hc]
    · next hc =>
      simp only [Option.map_eq_some_iff, Prod.mk.injEq, Prod.exists] at h
      obtain ⟨b, a, hb, rfl, rfl⟩ := h
      obtain ⟨rfl, hn⟩ := ih hb
      simp [hn, Ne.symm hc]

theorem splitAll_of_not_mem {sep : Char} {cs : List Char} (h : sep ∉ cs) :
    splitAll sep cs = [cs] := by
  induction cs with
  | nil => rfl
  | cons c cs ih =>
    simp only [List.mem_cons, not_or] at h
    rw [splitAll, if_neg (Ne.symm h.1), ih h.2]

/-- The parts are those into which the library splits a list. -/
theorem splitAll_eq_splitOn (sep : Char) (cs : List Char) : splitAll sep cs = cs.splitOn sep := by
  induction cs with
  | nil => rfl
  | cons c cs ih =>
    rw [splitAll, List.splitOn_cons_eq_if_modifyHead, ih]
    by_cases same : c = sep
    · rw [if_pos same, if_pos (beq_iff_eq.2 same)]
    · rw [if_neg same, if_neg (by simpa using same)]
      cases split : cs.splitOn sep with
      | nil => exact absurd split (List.splitOn_ne_nil sep cs)
      | cons part parts => rfl

theorem not_mem_of_mem_splitAll {sep : Char} {cs part : List Char} (h : part ∈ splitAll sep cs) :
    sep ∉ part := by
  induction cs generalizing part with
  | nil =>
    obtain rfl := List.mem_singleton.1 h
    exact List.not_mem_nil
  | cons c cs ih =>
    unfold splitAll at h
    split at h
    · rcases List.mem_cons.1 h with rfl | h
      · exact List.not_mem_nil
      · exact ih h
    · next other =>
      split at h
      · obtain rfl := List.mem_singleton.1 h
        simpa using Ne.symm other
      · next first rest split =>
        have whole : ∀ part ∈ first :: rest, sep ∉ part := fun part hp => ih (split ▸ hp)
        rcases List.mem_cons.1 h with rfl | h
        · rw [List.mem_cons, not_or]
          exact ⟨Ne.symm other, whole _ List.mem_cons_self⟩
        · exact whole part (List.mem_cons_of_mem _ h)

/-- A text is some parts with a character between them, which is in none of them. -/
structure AreParts (sep : Char) (cs : List Char) (parts : List (List Char)) : Prop where
  present : parts ≠ []
  whole : ∀ part ∈ parts, sep ∉ part
  joined : [sep].intercalate parts = cs

theorem areParts_splitAll (sep : Char) (cs : List Char) : AreParts sep cs (splitAll sep cs) where
  present := by
    rw [splitAll_eq_splitOn]
    exact List.splitOn_ne_nil sep cs
  whole _ := not_mem_of_mem_splitAll
  joined := by rw [splitAll_eq_splitOn, List.intercalate_splitOn]

/-- There is one way to be parts of a text. -/
theorem splitAll_eq_iff {sep : Char} {cs : List Char} {parts : List (List Char)} :
    splitAll sep cs = parts ↔ AreParts sep cs parts := by
  constructor
  · rintro rfl
    exact areParts_splitAll sep cs
  · rintro ⟨present, whole, rfl⟩
    rw [splitAll_eq_splitOn, List.splitOn_intercalate sep whole present]

end Runboard.Text
