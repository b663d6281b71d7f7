import Runboard.Json.Basic

/-!
# `Runboard.Stats.Walk`: window lengths and walks over a history

A window is a number of days that ends today. Today is not part of a history, so a window of `n`
days reaches `n - 1` entries of it, from the end. A walk yields them one by one, the most recent
first; it checks the window length at its first step and not before.

## Contents

* `WindowError`, `checkWindow`: which values are window lengths;
* `Walk`, `Walk.next`, `Walk.pull`: a walk and its steps;
* `recentEntries`: the entries of a whole walk.
-/

namespace Runboard

/-! ## Window lengths -/

/-- Why a value is no window length. -/
inductive WindowError where
  /-- It is not an integer; `kind` names what it is. -/
  | notInteger (kind : String)
  | notPositive (n : Int)
  deriving DecidableEq, Repr

/-- How a refused window length is reported. -/
def WindowError.message : WindowError → String
  | .notInteger kind => "window length must be an integer, got " ++ kind
  | .notPositive n => "window length must be positive, got " ++ toString n

/-- The length of a window, a positive integer. -/
def checkWindow : Json → Except WindowError Int
  | .int n => if n ≤ 0 then .error (.notPositive n) else .ok n
  | v => .error (.notInteger v.kind)

/-- The days of a week, today among them. -/
def weekLength : Int := 7

/-- The days of a month, today among them. -/
def monthLength : Int := 30

theorem checkWindow_int {n : Int} (h : 0 < n) : checkWindow (.int n) = .ok n := by
  simp [checkWindow, Int.not_le.2 h]

theorem checkWindow_eq_ok {v : Json} {n : Int} (h : checkWindow v = .ok n) :
    v = .int n ∧ 0 < n := by
  unfold checkWindow at h
  split at h
  · split at h
    · simp at h
    · simp only [Except.ok.injEq] at h
      subst h
      exact ⟨rfl, by omega⟩
  · simp at h

/-! ## Walks -/

/-- A walk over a history: not yet begun, or about to take the entry `offset` places from the end,
as long as `offset` does not exceed `limit`. -/
inductive Walk (α : Type) where
  | fresh (history : List α) (window : Json)
  | under (history : List α) (offset limit : Nat)

namespace Walk

variable {α : Type}

/-- The most entries of a history of `size` days that a window of `n` days reaches. -/
def reach (size : Nat) (n : Int) : Nat := min size (n - 1).toNat

/-- The entry `offset` places from the end, with the walk after it. -/
def take? (history : List α) (offset limit : Nat) : Option (α × Walk α) :=
  if offset ≤ limit then
    history[history.length - offset]?.map fun entry => (entry, .under history (offset + 1) limit)
  else none

/-- A step of a walk: the next entry with the walk after it, or nothing at its end. -/
def next : Walk α → Except WindowError (Option (α × Walk α))
  | .fresh history window =>
    match checkWindow window with
    | .error e => .error e
    | .ok n => .ok (take? history 1 (reach history.length n))
  | .under history offset limit => .ok (take? history offset limit)

/-- At most `count` steps of a walk, as the entries they yield. -/
def pull : (count : Nat) → Walk α → Except WindowError (List α)
  | 0, _ => .ok []
  | count + 1, w =>
    match w.next with
    | .error e => .error e
    | .ok none => .ok []
    | .ok (some (entry, rest)) =>
      match pull count rest with
      | .error e => .error e
      | .ok entries => .ok (entry :: entries)

@[simp] theorem pull_zero (w : Walk α) : pull 0 w = .ok [] := rfl

end Walk

/-- The entries of a history within a window, the most recent first. One step more than there are
entries ends every walk. -/
def recentEntries {α : Type} (history : List α) (window : Json) : Except WindowError (List α) :=
  (Walk.fresh history window).pull (history.length + 1)

end Runboard
