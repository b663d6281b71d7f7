import Runboard.Number.Shortest

/-!
# `Runboard.Json.Basic`: values

A JSON value, with integers of any size kept apart from doubles. An object is the list of its
fields in the order in which they were first written.

## Contents

* `Json`: the values;
* `Json.kind`: the name of a value's kind;
* `Json.truthy`: whether a value counts as present;
* `Fields.get?`, `Fields.put`: reading and writing a list of named values, with their laws.
-/

namespace Runboard

/-- A JSON value. -/
inductive Json where
  | null
  | bool (b : Bool)
  | int (n : Int)
  | float (x : Binary64)
  | str (s : String)
  | arr (items : List Json)
  | obj (fields : List (String × Json))
  deriving Repr, Inhabited

namespace Json

/-- The name of a value's kind, as messages give it. -/
def kind : Json → String
  | .null => "NoneType"
  | .bool _ => "bool"
  | .int _ => "int"
  | .float _ => "float"
  | .str _ => "str"
  | .arr _ => "list"
  | .obj _ => "dict"

/-- Zero, the empty text, the empty list, the empty object, `false` and `null` count as absent;
every other value counts as present, not-a-number included. -/
def truthy : Json → Bool
  | .null => false
  | .bool b => b
  | .int n => n != 0
  | .float x => !x.isZero
  | .str s => s != ""
  | .arr items => !items.isEmpty
  | .obj fields => !fields.isEmpty

end Json

/-! ## Lists of named values -/

namespace Fields

variable {α : Type}

/-- The value under a name. -/
def get? (fields : List (String × α)) (name : String) : Option α :=
  (fields.find? fun f => f.1 == name).map (·.2)

/-- Puts a value under a name: in the place of the value it had, else at the end. -/
def put : List (String × α) → String → α → List (String × α)
  | [], name, v => [(name, v)]
  | (n, w) :: rest, name, v => if n = name then (n, v) :: rest else (n, w) :: put rest name v

@[simp] theorem get?_nil (name : String) : get? ([] : List (String × α)) name = none := rfl

@[simp] theorem get?_cons (n : String) (v : α) (rest : List (String × α)) (name : String) :
    get? ((n, v) :: rest) name = if n = name then some v else get? rest name := by
  by_cases h : n = name <;> simp [get?, h]

theorem get?_put (fields : List (String × α)) (name other : String) (v : α) :
    get? (put fields name v) other = if name = other then some v else get? fields other := by
  induction fields with
  | nil => simp [put]
  | cons f rest ih =>
    obtain ⟨n, w⟩ := f
    by_cases h : n = name
    · subst h
      by_cases ho : n = other <;> simp [put, ho]
    · by_cases hn : n = other
      · subst hn
        simp [put, h, Ne.symm h]
      · simp [put, h, hn, ih]

/-- Putting the value that is there already changes nothing. -/
theorem put_of_get? {fields : List (String × α)} {name : String} {v : α}
    (found : get? fields name = some v) : put fields name v = fields := by
  induction fields with
  | nil => cases found
  | cons f rest ih =>
    obtain ⟨n, w⟩ := f
    rw [get?_cons] at found
    by_cases h : n = name
    · rw [if_pos h] at found
      rw [put, if_pos h, Option.some.inj found]
    · rw [if_neg h] at found
      rw [put, if_neg h, ih found]

/-- One value put under some names is found under these, and nothing else is changed. -/
theorem get?_foldl_put (names : List String) (fields : List (String × α)) (other : String) (v : α) :
    get? (names.foldl (fun fields name => put fields name v) fields) other =
      if other ∈ names then some v else get? fields other := by
  induction names generalizing fields with
  | nil => simp
  | cons name rest ih =>
    rw [List.foldl_cons, ih, get?_put]
    by_cases later : other ∈ rest
    · rw [if_pos later, if_pos (List.mem_cons_of_mem name later)]
    · simp only [later, ↓reduceIte, List.mem_cons, or_false, eq_comm]

theorem foldl_put_of_get? {names : List String} {fields : List (String × α)} {v : α}
    (found : ∀ name ∈ names, get? fields name = some v) :
    names.foldl (fun fields name => put fields name v) fields = fields := by
  induction names with
  | nil => rfl
  | cons name rest ih =>
    rw [List.foldl_cons, put_of_get? (found name List.mem_cons_self)]
    exact ih fun other later => found other (List.mem_cons_of_mem name later)

end Fields

/-- The value of an object under a name, if the value is an object that has it. -/
def Json.field? (v : Json) (name : String) : Option Json :=
  match v with
  | .obj fields => Fields.get? fields name
  | _ => none

end Runboard
