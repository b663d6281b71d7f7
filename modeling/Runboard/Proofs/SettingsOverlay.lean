import Mathlib.Data.List.Induction
import Runboard.Proofs.Stages
import Runboard.Settings.Cache

/-!
# `Runboard.Proofs.SettingsOverlay`: assignments to kept settings

What is assigned to kept settings lies over what was read. A setting holds the value that was assigned
to it last, if there is one, whatever was assigned to others; and a value that is assigned to a name that
belongs to nothing is put aside under that name. None of this sees the number under which the settings
are shown.

## Contents

* `overlay`, `lastAssigned`: what was assigned;
* `KeptSettings.unnumbered`, `assign_unnumbered`: assignments and the number;
* `KeptSettings.IsPlain`, `assign_setting`, `assign_aside`: assignments to settings and to other names;
* `KeptSettings.held_overlay`, `view_overlay`: what is held and shown after plain assignments.
-/

namespace Runboard

/-- Settings with what was assigned since they were read. -/
def overlay (s : Settings) (made : List (String × Json)) : KeptSettings :=
  made.foldl (fun k a => (k.assign a.1 a.2).2) { settings := s }

theorem overlay_concat (s : Settings) (made : List (String × Json)) (a : String × Json) :
    overlay s (made ++ [a]) = ((overlay s made).assign a.1 a.2).2 := by
  rw [overlay, List.foldl_append]
  rfl

/-- The value that was assigned to a name last. -/
def lastAssigned (made : List (String × Json)) (name : String) : Option Json :=
  (made.filter fun a => a.1 == name).getLast?.map (·.2)

theorem lastAssigned_concat (made : List (String × Json)) (a : String × Json) (name : String) :
    lastAssigned (made ++ [a]) name = if a.1 = name then some a.2 else lastAssigned made name := by
  unfold lastAssigned
  rw [List.filter_append]
  by_cases same : a.1 = name <;> simp [same]

namespace KeptSettings

/-! ## Numbers -/

/-- Kept settings without the number of their reading. -/
def unnumbered (k : KeptSettings) : KeptSettings := { k with number? := none }

/-- What is shown does not depend on the number. -/
theorem view_unnumbered (k : KeptSettings) : k.unnumbered.view = k.view := rfl

/-- An assignment neither sees nor touches the number, nor the settings as they were read. -/
theorem assign_unnumbered (k : KeptSettings) (name : String) (v : Json) :
    (k.unnumbered.assign name v).2 = (k.assign name v).2.unnumbered ∧
      (k.assign name v).2.number? = k.number? := by
  unfold assign
  split
  · exact ⟨rfl, rfl⟩
  · split
    · exact ⟨rfl, rfl⟩
    · split
      all_goals try exact ⟨rfl, rfl⟩
      split
      · unfold putAside
        rw [show k.unnumbered.aside = k.aside from rfl]
        split <;> exact ⟨rfl, rfl⟩
      · split <;> exact ⟨rfl, rfl⟩

/-- Settings as they were read show what they are. -/
theorem view_fresh (s : Settings) : ({ settings := s } : KeptSettings).view = .ok s.view := by
  rcases s with ⟨_, _, _, _, _, _, _, _, _, origins, _, _, _, _⟩
  cases origins <;> rfl

/-! ## Plain assignments -/

/-- The name of a setting, or a name that belongs to nothing. -/
def IsPlain (name : String) : Prop :=
  name ∈ Settings.names ∨ isAside name = true ∧ readOnlyNames.contains name = false

theorem not_mem_names_of_isAside {name : String} (aside : isAside name = true) :
    name ∉ Settings.names := by
  intro member
  simp [isAside, member] at aside

/-- A value that is assigned to a setting is held. -/
theorem assign_setting (k : KeptSettings) {name : String} (listed : name ∈ Settings.names)
    (v : Json) : (k.assign name v).2 = k.hold name v := by
  simp only [Settings.names, List.mem_cons, List.not_mem_nil, or_false] at listed
  rcases listed with rfl | rfl | rfl | rfl | rfl | rfl | rfl | rfl | rfl | rfl | rfl | rfl | rfl <;> rfl

/-- A value that is assigned to a name that belongs to nothing goes aside. -/
theorem assign_aside (k : KeptSettings) {name : String} (aside : isAside name = true)
    (open' : readOnlyNames.contains name = false) {fields : List (String × Json)}
    (kept : k.aside = .obj fields) (v : Json) :
    (k.assign name v).2 = { k with aside := .obj (Fields.put fields name v) } := by
  -- The names that are treated apart begin as no name that goes aside does.
  have apart : ∀ other ∈ "__class__" :: "__dict__" :: "__pydantic_extra__" ::
      "__pydantic_fields_set__" :: sharedNames, isAside other = false := by decide +kernel
  have differs : ∀ other ∈ "__class__" :: "__dict__" :: "__pydantic_extra__" ::
      "__pydantic_fields_set__" :: sharedNames, name ≠ other := by
    rintro other member rfl
    rw [apart name member] at aside
    cases aside
  have unshared : sharedNames.contains name = false := by
    rw [Bool.eq_false_iff]
    intro shared
    exact differs name (by simp [List.contains_iff_mem.1 shared]) rfl
  unfold assign
  rw [unshared, open']
  simp only [Bool.false_eq_true, ↓reduceIte]
  split
  · exact absurd rfl (differs _ (by simp))
  · exact absurd rfl (differs _ (by simp))
  · exact absurd rfl (differs _ (by simp))
  · exact absurd rfl (differs _ (by simp))
  · exact absurd rfl (differs _ (by simp))
  · rw [if_pos aside]
    unfold putAside
    rw [kept]

variable {s : Settings} {made : List (String × Json)}

theorem get?_fields (s : Settings) : ∀ f ∈ s.fields, Fields.get? s.fields f.1 = some f.2 := by
  intro f member
  simp only [Settings.fields, List.mem_cons, List.not_mem_nil, or_false] at member
  rcases member with rfl | rfl | rfl | rfl | rfl | rfl | rfl | rfl | rfl | rfl | rfl | rfl | rfl <;> rfl

theorem mem_names_of_mem_fields {f : String × Json} (member : f ∈ s.fields) :
    f.1 ∈ Settings.names :=
  List.mem_map_of_mem (f := Prod.fst) member

/-- Under plain assignments each setting holds the value that was assigned to it last, or the one that
was read. -/
theorem held_overlay (plain : ∀ a ∈ made, IsPlain a.1) : (∀ f ∈ s.fields,
    Fields.get? (overlay s made).held f.1 = some ((lastAssigned made f.1).getD f.2)) ∧
    ∃ fields, (overlay s made).aside = .obj fields ∧ ∀ name, Fields.get? fields name =
      if name ∈ Settings.names then Fields.get? s.extra name
      else (lastAssigned made name).or (Fields.get? s.extra name) := by
  induction made using List.reverseRecOn with
  | nil =>
    refine ⟨get?_fields s, s.extra, rfl, fun name => ?_⟩
    split <;> rfl
  | append_singleton made a ih =>
    obtain ⟨held, fields, aside, found⟩ :=
      ih fun b hb => plain b (List.mem_append_left _ hb)
    rw [overlay_concat]
    rcases plain a (by simp) with listed | ⟨loose, free⟩
    · rw [assign_setting _ listed]
      refine ⟨fun f member => ?_, fields, aside, fun name => ?_⟩
      · show Fields.get? (Fields.put (overlay s made).held a.1 a.2) f.1 = _
        rw [Fields.get?_put, lastAssigned_concat, held f member]
        split <;> rfl
      · rw [found name, lastAssigned_concat]
        split
        · rfl
        · next other => rw [if_neg (by rintro rfl; exact other listed)]
    · have unlisted := not_mem_names_of_isAside loose
      rw [assign_aside _ loose free aside]
      refine ⟨fun f member => ?_, _, rfl, fun name => ?_⟩
      · have other : a.1 ≠ f.1 := fun same => unlisted (same ▸ mem_names_of_mem_fields member)
        rw [lastAssigned_concat, if_neg other]
        exact held f member
      · rw [Fields.get?_put, found name, lastAssigned_concat]
        by_cases same : a.1 = name
        · subst same
          rw [if_pos rfl, if_pos rfl, if_neg unlisted]
          rfl
        · rw [if_neg same, if_neg same]

/-- Values that are all found are found in turn. -/
theorem mapM_eq_ok {ε α β : Type} {f : α → Except ε β} {g : α → β} {items : List α}
    (found : ∀ a ∈ items, f a = .ok (g a)) : items.mapM f = .ok (items.map g) := by
  induction items with
  | nil => rfl
  | cons a rest ih =>
    rw [List.mapM_cons, found a List.mem_cons_self, ih fun b hb => found b (List.mem_cons_of_mem a hb)]
    rfl

/-- What is shown after plain assignments: each setting with the value that was assigned to it last, or
else the one that was read, and the values that were assigned last to other names. -/
theorem view_overlay (plain : ∀ a ∈ made, IsPlain a.1) {view : SettingsView}
    (shown : (overlay s made).view = .ok view) :
    view.fields = s.fields.map (fun f => (f.1, (lastAssigned made f.1).getD f.2)) ∧
      ∀ name, Fields.get? view.extra name =
        if name ∈ Settings.names then Fields.get? s.extra name
        else (lastAssigned made name).or (Fields.get? s.extra name) := by
  obtain ⟨held, extra, aside, others⟩ := held_overlay (s := s) plain
  obtain ⟨fields, listed, shown⟩ := bind_eq_ok.1 shown
  obtain ⟨extra', kept, shown⟩ := bind_eq_ok.1 shown
  obtain ⟨url, -, shown⟩ := bind_eq_ok.1 shown
  obtain ⟨origins, -, shown⟩ := bind_eq_ok.1 shown
  obtain rfl := Except.ok.inj shown
  constructor
  · have values : s.fields.mapM (fun f => return (f.1, ← (overlay s made).value f.1)) =
        (.ok (s.fields.map fun f => (f.1, (lastAssigned made f.1).getD f.2)) :
          Except ViewFault (List (String × Json))) := by
      refine mapM_eq_ok fun f member => ?_
      rw [value, held f member]
      rfl
    have names : Settings.names = s.fields.map Prod.fst := rfl
    rw [names, List.mapM_map] at listed
    exact Except.ok.inj (listed.symm.trans values)
  · intro name
    have same : (overlay s made).extra = .ok extra := by rw [KeptSettings.extra, aside]
    obtain rfl := Except.ok.inj (same.symm.trans kept)
    exact others name

end KeptSettings

end Runboard
