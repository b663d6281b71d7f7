/-!
# `Runboard.Proofs.Stages`: sequences of stages

What the service does in stages is a sequence of results, each a value or an error. A sequence has a
value if every stage has one; and it fails where the first stage without a value does.

## Contents

* `bind_eq_ok`, `then_eq_ok`, `map_eq_ok`, `mapError_eq_ok`: sequences with a value;
* `FailsWith`, `failsWith_bind`, `failsWith_then`, `failsWith_mapError`: failures of a kind.
-/

namespace Runboard

section Stages
variable {ε ε' α β : Type}

/-! ## Values -/

/-- A sequence passes if its first stage does, and its second with what the first has found. -/
theorem bind_eq_ok {x : Except ε α} {f : α → Except ε β} {b : β} :
    x >>= f = .ok b ↔ ∃ a, x = .ok a ∧ f a = .ok b := by
  cases x <;> simp [bind, Except.bind]

/-- A check before a stage only lets it pass. -/
theorem then_eq_ok {x : Except ε Unit} {y : Except ε β} {b : β} :
    (x >>= fun _ => y) = .ok b ↔ x = .ok () ∧ y = .ok b := by
  cases x <;> simp [bind, Except.bind]

theorem map_eq_ok {x : Except ε α} {f : α → β} {b : β} :
    x.map f = .ok b ↔ ∃ a, x = .ok a ∧ f a = b := by
  cases x <;> simp [Except.map]

theorem mapError_eq_ok {x : Except ε α} {f : ε → ε'} {a : α} :
    x.mapError f = .ok a ↔ x = .ok a := by
  cases x with
  | error e => constructor <;> intro h <;> cases h
  | ok b => constructor <;> intro h <;> cases h <;> rfl

/-! ## Failures -/

/-- There is no value, but an error of a kind. -/
def FailsWith (p : ε → Prop) (x : Except ε α) : Prop := ∃ e, x = .error e ∧ p e

variable {p : ε → Prop}

@[simp] theorem failsWith_error {e : ε} : FailsWith p (.error e : Except ε α) ↔ p e := by
  simp [FailsWith]

@[simp] theorem not_failsWith_ok {a : α} : ¬ FailsWith p (.ok a) := by
  simp [FailsWith]

/-- A sequence fails where its first stage does, or after that has passed. -/
theorem failsWith_bind {x : Except ε α} {f : α → Except ε β} :
    FailsWith p (x >>= f) ↔ FailsWith p x ∨ ∃ a, x = .ok a ∧ FailsWith p (f a) := by
  cases x <;> simp [bind, Except.bind]

theorem failsWith_then {x : Except ε Unit} {y : Except ε β} :
    FailsWith p (x >>= fun _ => y) ↔ FailsWith p x ∨ x = .ok () ∧ FailsWith p y := by
  cases x <;> simp [bind, Except.bind]

theorem failsWith_mapError {q : ε' → Prop} {x : Except ε α} {f : ε → ε'} :
    FailsWith q (x.mapError f) ↔ FailsWith (fun e => q (f e)) x := by
  cases x with
  | error e =>
    show FailsWith q (.error (f e)) ↔ _
    rw [failsWith_error, failsWith_error]
  | ok a => exact iff_of_false not_failsWith_ok not_failsWith_ok

end Stages

end Runboard
