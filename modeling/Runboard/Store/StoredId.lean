import Runboard.Store.Bind
import Runboard.Store.Uuid

/-!
# `Runboard.Store.StoredId`: identifiers in `UUID` columns

A column declared `UUID` has `NUMERIC` affinity in `SQLite`: an identifier is bound as its 32 hexadecimal
digits without hyphens, and digits that read as a decimal number, such as `…0001` or `…01e5`, are stored
as that number (`INTEGER` or `REAL`) and not as a text. Comparisons in `WHERE` clauses and unique
constraints go by the stored value, so two identifiers whose digits read as the same number are one key.
A stored number is not turned back into an identifier: the result processor of the column takes a text,
and a row whose identifier is a number cannot be loaded.

## Contents

* `StoredId`, `Uuid.stored`: the value that a column holds for an identifier;
* `Uuid.KeptAsText`: identifiers that are stored as texts;
* `Uuid.sameKey`: whether two identifiers are stored as one value;
* `Uuid.loadFault?`: why a stored identifier cannot be loaded;
* `Uuid.sameKey_iff_of_keptAsText`, `Uuid.keptAsText_of_letter`: a stored text is its identifier, and one
  letter other than `e` suffices for it.
-/

namespace Runboard

open Runboard.Text

/-- What a `UUID` column holds: the digits of an identifier as a text, or the number that they read
as. -/
inductive StoredId where
  | text (id : Uuid)
  | number (value : Amount)
  deriving DecidableEq, Repr

namespace Uuid

/-- The digits of an identifier without hyphens, as they are bound. -/
def digits (u : Uuid) : List Char := hexDigits 32 u.value

/-- What a `UUID` column holds for an identifier, by its `NUMERIC` affinity. -/
@[irreducible] def stored (u : Uuid) : StoredId :=
  match Bind.written (String.ofList u.digits) with
  | .text _ => .text u
  | value => .number value

/-- An identifier is stored as a text. -/
def KeptAsText (u : Uuid) : Prop := u.stored = .text u

instance (u : Uuid) : Decidable u.KeptAsText := inferInstanceAs (Decidable (_ = _))

/-- Whether two identifiers are stored as one value, and so are one key of a table. -/
def sameKey (u v : Uuid) : Bool := u.stored == v.stored

/-- Why an identifier is not loaded: the result processor takes texts, and a number is none. -/
def loadFault? (u : Uuid) : Option GivenFault :=
  match u.stored with
  | .text _ => none
  | .number value => some (.noText value.json.kind)

/-! ## Small facts -/

variable {u v : Uuid}

theorem stored_cases (u : Uuid) : u.KeptAsText ∨ ∃ value, u.stored = .number value := by
  unfold KeptAsText stored
  cases Bind.written (String.ofList u.digits) with
  | text s => exact .inl rfl
  | whole n => exact .inr ⟨_, rfl⟩
  | real x => exact .inr ⟨_, rfl⟩

@[simp] theorem sameKey_refl (u : Uuid) : u.sameKey u = true := beq_self_eq_true _

theorem sameKey_iff : u.sameKey v = true ↔ v.stored = u.stored :=
  beq_iff_eq.trans eq_comm

theorem sameKey_comm (u v : Uuid) : u.sameKey v = v.sameKey u := BEq.comm

/-- A stored text is that of its identifier alone. -/
theorem sameKey_iff_of_keptAsText (kept : u.KeptAsText) : u.sameKey v = true ↔ u = v := by
  constructor
  · intro same
    have stored : u.stored = v.stored := eq_of_beq same
    rw [kept] at stored
    rcases v.stored_cases with kept' | ⟨value, number⟩
    · rw [kept'] at stored
      exact StoredId.text.inj stored
    · rw [number] at stored
      cases stored
  · rintro rfl
    exact u.sameKey_refl

theorem sameKey_eq_of_keptAsText (kept : u.KeptAsText) (v : Uuid) : u.sameKey v = (v == u) :=
  Bool.eq_iff_iff.2 ((sameKey_iff_of_keptAsText kept).trans (eq_comm.trans beq_iff_eq.symm))

theorem any_sameKey_of_keptAsText (kept : u.KeptAsText) (id : Option Uuid) :
    id.any u.sameKey = (id == some u) := by
  cases id with
  | none => rfl
  | some v => exact sameKey_eq_of_keptAsText kept v

theorem loadFault?_eq_none : u.loadFault? = none ↔ u.KeptAsText := by
  unfold loadFault?
  rcases u.stored_cases with kept | ⟨value, number⟩
  · rw [show u.stored = .text u from kept]
    exact ⟨fun _ => kept, fun _ => rfl⟩
  · rw [KeptAsText, number]
    exact ⟨nofun, nofun⟩

/-- One letter other than `e` among the digits suffices for a text. -/
theorem keptAsText_of_letter {c : Char} (holds : c ∈ u.digits) (letter : Bind.isNumeralChar c = false) :
    u.KeptAsText := by
  have text : Bind.written (String.ofList u.digits) = .text (String.ofList u.digits) :=
    Bind.written_of_letter (by rwa [String.toList_ofList]) letter
  unfold KeptAsText stored
  rw [text]

/-- Digits with an exponent of ten are stored as the number that they write. -/
example : stored ⟨0x1e5⟩ = .number (.whole 100000) := by decide +kernel

end Uuid

end Runboard
