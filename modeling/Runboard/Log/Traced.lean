import Runboard.Log.Event

/-!
# `Runboard.Log.Traced`: results with the events on the way

A traced result is a value or an error, with the events that were recorded until then. In a sequence
the second part runs only if the first has a value, and its events come after those of the first.
Events stay recorded when an error follows.

## Contents

* `Traced`, `Traced.tell`, `Traced.fail`, `Traced.ofExcept`, with the structure of a monad;
* `Traced.bind_of_ok`, `Traced.bind_of_error`: what a sequence amounts to.
-/

namespace Runboard

/-- A value or an error, with the events recorded until then. -/
structure Traced (ε α : Type) where
  result : Except ε α
  events : List Event

namespace Traced

variable {ε α β : Type}

/-- Records events. -/
def tell (events : List Event) : Traced ε Unit := ⟨.ok (), events⟩

/-- An error without events. -/
def fail (e : ε) : Traced ε α := ⟨.error e, []⟩

/-- A result without events. -/
def ofExcept (r : Except ε α) : Traced ε α := ⟨r, []⟩

/-- A value with its events, or an error without. -/
def ofValue (r : Except ε (α × List Event)) : Traced ε α :=
  match r with
  | .error e => ⟨.error e, []⟩
  | .ok (a, events) => ⟨.ok a, events⟩

/-- A part after another. -/
def bind (x : Traced ε α) (f : α → Traced ε β) : Traced ε β :=
  match x.result with
  | .error e => ⟨.error e, x.events⟩
  | .ok a => ⟨(f a).result, x.events ++ (f a).events⟩

instance : Monad (Traced ε) where
  pure a := ⟨.ok a, []⟩
  bind := bind

/-- Events put in front. -/
def after (events : List Event) (x : Traced ε α) : Traced ε α := ⟨x.result, events ++ x.events⟩

theorem bind_of_ok {x : Traced ε α} {a : α} (f : α → Traced ε β) (h : x.result = .ok a) :
    (x >>= f) = (f a).after x.events := by
  show bind x f = _
  simp only [bind, h, after]

theorem bind_of_error {x : Traced ε α} {e : ε} (f : α → Traced ε β) (h : x.result = .error e) :
    (x >>= f) = ⟨.error e, x.events⟩ := by
  show bind x f = _
  simp only [bind, h]

@[simp] theorem result_pure (a : α) : (pure a : Traced ε α).result = .ok a := rfl

@[simp] theorem events_pure (a : α) : (pure a : Traced ε α).events = [] := rfl

end Traced

end Runboard
