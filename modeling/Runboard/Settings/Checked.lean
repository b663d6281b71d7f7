/-!
# `Runboard.Settings.Checked`: results that gather every fault

A checked result is a value or the list of all faults found. Combining two checked results gives a
value only where both have one, and otherwise the faults of both, in order.

## Contents

* `Checked`, `Checked.fault`, with its applicative structure;
* `Checked.seq_eq_ok`, `Checked.map_eq_ok`: when a combination has a value.
-/

namespace Runboard

/-- A value, or the faults that stand in its way. -/
inductive Checked (ε α : Type) where
  | ok (value : α)
  | faults (list : List ε)
  deriving Repr

namespace Checked

variable {ε α β : Type}

/-- A single fault. -/
def fault (e : ε) : Checked ε α := .faults [e]

/-- Applies a function to a value. -/
def map (f : α → β) : Checked ε α → Checked ε β
  | .ok a => .ok (f a)
  | .faults es => .faults es

/-- Applies a checked function to a checked value, with the faults of both. -/
def seq : Checked ε (α → β) → Checked ε α → Checked ε β
  | .ok f, .ok a => .ok (f a)
  | .ok _, .faults es => .faults es
  | .faults es, .ok _ => .faults es
  | .faults es, .faults es' => .faults (es ++ es')

instance : Applicative (Checked ε) where
  pure := .ok
  map := map
  seq f a := seq f (a ())

@[simp] theorem map_eq_ok {f : α → β} {x : Checked ε α} {b : β} :
    f <$> x = .ok b ↔ ∃ a, x = .ok a ∧ b = f a := by
  cases x <;> simp [Functor.map, map, eq_comm]

@[simp] theorem seq_eq_ok {f : Checked ε (α → β)} {x : Checked ε α} {b : β} :
    f <*> x = .ok b ↔ ∃ g a, f = .ok g ∧ x = .ok a ∧ b = g a := by
  cases f <;> cases x <;> simp [Seq.seq, seq, eq_comm]

/-- A value under a further condition. -/
def ensure (p : α → Bool) (e : ε) : Checked ε α → Checked ε α
  | .ok a => if p a then .ok a else fault e
  | .faults es => .faults es

@[simp] theorem ensure_eq_ok {p : α → Bool} {e : ε} {x : Checked ε α} {a : α} :
    x.ensure p e = .ok a ↔ x = .ok a ∧ p a = true := by
  cases x with
  | ok b =>
    by_cases h : p b = true
    · simp only [ensure, h, ↓reduceIte, Checked.ok.injEq]
      constructor
      · rintro rfl; exact ⟨rfl, h⟩
      · exact And.left
    · simp only [ensure, h, Bool.false_eq_true, ↓reduceIte, fault, reduceCtorEq, false_iff,
        Checked.ok.injEq]
      rintro ⟨rfl, h'⟩
      exact h h'
  | faults es => simp [ensure]

end Checked

end Runboard
