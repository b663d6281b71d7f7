import Runboard.Proofs.SettingsOverlay

/-!
# `Runboard.Proofs.SettingsHistory`: which settings are in force

The settings that a session answers follow from its history and from the secrets that are drawn in it.
They were read when they were first asked for after they were dropped last, in an environment from which
they could be read; those asked for before that found none. What was assigned since then overlays them,
and nothing else does. Each reading draws one secret of its own, which is in force if the environment
names none, and nothing is drawn otherwise. A reading is numbered once, when it is first shown, and no
number is given twice; so two answers have one number exactly if they show one reading, and that is the
case as long as the settings are not dropped between them.

## Contents

* `SettingsStep.Asks`, `environmentAfter`, `assignments`: what a history holds;
* `SettingsCache.drawnIn`, `SettingsCache.ReadAt`: the reading that is in force after some steps;
* `SettingsCache.get_cases`, `asked_step`: what a step that asks for the settings does;
* `SettingsCache.ResultsFrom`, `resultsFrom_step`, `resultsFrom_run`: what a session comes to;
* `SettingsCache.SameKept`, `run_of_sameKept`: changes of the environment do not show;
* `SettingsCache.Numbered`, `numbered_step`, `number_run`: the numbers of readings;
* `SettingsCache.answers_of_history`: the answers of a session.
-/

namespace Runboard

/-! ## Histories -/

/-- The settings are asked for. -/
def SettingsStep.Asks : SettingsStep → Prop
  | .get => True
  | .assign _ _ => True
  | _ => False

/-- What is assigned in a step. -/
def SettingsStep.assignment? : SettingsStep → Option (String × Json)
  | .assign name v => some (name, v)
  | _ => none

/-- The environment after a step. -/
def SettingsStep.environment (e : Environment) : SettingsStep → Environment
  | .setVariables changes => (e.changeAll changes).2
  | _ => e

/-- The environment after some steps. -/
def environmentAfter (e : Environment) (steps : List SettingsStep) : Environment :=
  steps.foldl SettingsStep.environment e

/-- What is assigned in some steps, in turn. -/
def assignments (steps : List SettingsStep) : List (String × Json) :=
  steps.filterMap SettingsStep.assignment?

/-- A step that asks for the settings leaves the environment. -/
theorem SettingsStep.environment_of_asks {x : SettingsStep} (asks : x.Asks) (e : Environment) :
    x.environment e = e := by
  cases x with
  | setVariables changes => exact asks.elim
  | _ => rfl

theorem environmentAfter_concat (e : Environment) (steps : List SettingsStep) (x : SettingsStep) :
    environmentAfter e (steps ++ [x]) = x.environment (environmentAfter e steps) := by
  rw [environmentAfter, List.foldl_append]
  rfl

theorem assignments_append (xs ys : List SettingsStep) :
    assignments (xs ++ ys) = assignments xs ++ assignments ys := List.filterMap_append

namespace SettingsCache

/-- A cache that has read nothing yet, with the secrets that its readings will draw. -/
def fresh (e : Environment) (secrets : Nat → String) : SettingsCache :=
  { environment := e, secrets := secrets }

/-- The number of secrets that were drawn in some steps, one by each reading that succeeded. -/
def drawnIn (e : Environment) (secrets : Nat → String) (steps : List SettingsStep) : Nat :=
  ((fresh e secrets).run steps).2.readings

/-- Steps begin where the settings were dropped, or where everything begins. -/
def AfterDrop (before : List SettingsStep) : Prop := before = [] ∨ before.getLast? = some .drop

/-- Every step that asked for the settings found an environment from which they cannot be read. -/
def Unread (e : Environment) (secrets : Nat → String) (before idle : List SettingsStep) : Prop :=
  ∀ passed x rest, idle = passed ++ x :: rest → x.Asks →
    ∀ s, Settings.build (secrets (drawnIn e secrets (before ++ passed)))
      ⟨environmentAfter e (before ++ passed), []⟩ ≠ .ok s

/-- The settings in force after some steps were read at one of them: the first since the settings were
dropped that asked for them in an environment from which they can be read. The reading drew the first
secret that no reading before it had drawn. -/
structure ReadAt (e : Environment) (secrets : Nat → String) (steps before idle : List SettingsStep)
    (x : SettingsStep) (later : List SettingsStep) (s : Settings) : Prop where
  split : steps = before ++ idle ++ x :: later
  dropped : AfterDrop before
  undropped : SettingsStep.drop ∉ idle ++ x :: later
  unread : Unread e secrets before idle
  asks : x.Asks
  read : Settings.build (secrets (drawnIn e secrets (before ++ idle)))
    ⟨environmentAfter e (before ++ idle), []⟩ = .ok s

section History
variable {e : Environment} {secrets : Nat → String} {steps before idle later : List SettingsStep}
  {x y : SettingsStep} {s : Settings}

/-- A reading stays in force until the settings are dropped. -/
theorem ReadAt.concat (h : ReadAt e secrets steps before idle x later s) (stays : y ≠ .drop) :
    ReadAt e secrets (steps ++ [y]) before idle x (later ++ [y]) s where
  split := by rw [h.split]; simp
  dropped := h.dropped
  undropped := by
    have undropped := h.undropped
    simp only [List.mem_append, List.mem_cons, List.not_mem_nil, or_false, not_or] at undropped ⊢
    exact ⟨undropped.1, undropped.2.1, undropped.2.2, stays.symm⟩
  unread := h.unread
  asks := h.asks
  read := h.read

/-- A step that does not ask, or that finds nothing to be read, adds to those before a reading. -/
theorem Unread.concat (h : Unread e secrets before idle)
    (fails : y.Asks → ∀ s, Settings.build (secrets (drawnIn e secrets (before ++ idle)))
      ⟨environmentAfter e (before ++ idle), []⟩ ≠ .ok s) :
    Unread e secrets before (idle ++ [y]) := by
  intro passed x rest split asks
  -- The step is the last, or one of those before it.
  rcases List.eq_nil_or_concat rest with rfl | ⟨rest, z, rfl⟩
  · obtain ⟨rfl, same⟩ := List.append_inj' split rfl
    obtain rfl : y = x := by simpa using same
    exact fails asks
  · rw [List.concat_eq_append, ← List.cons_append, ← List.append_assoc] at split
    obtain ⟨rfl, -⟩ := List.append_inj' split rfl
    exact h passed x rest rfl asks

theorem unread_nil : Unread e secrets before [] := by
  intro passed x rest split
  simp at split

end History

/-! ## Asking for the settings -/

variable {c c' : SettingsCache}

/-- The settings are kept, or they are read from the environment, or they cannot be. -/
theorem get_cases (c : SettingsCache) :
    (∃ k, c.kept = some k ∧ c.get = (.ok k, c)) ∨
      (c.kept = none ∧ ∃ s, Settings.build (c.secrets c.readings) ⟨c.environment, []⟩ = .ok s ∧
        c.get = (.ok { settings := s },
          { c with readings := c.readings + 1, kept := some { settings := s } })) ∨
      (c.kept = none ∧ ∃ fs, Settings.build (c.secrets c.readings) ⟨c.environment, []⟩ = .faults fs ∧
        c.get = (.faults fs, c)) := by
  unfold get
  cases kept : c.kept with
  | some k => exact .inl ⟨k, rfl, rfl⟩
  | none =>
    cases built : Settings.build (c.secrets c.readings) ⟨c.environment, []⟩ with
    | ok s => exact .inr (.inl ⟨rfl, s, rfl, rfl⟩)
    | faults fs => exact .inr (.inr ⟨rfl, fs, rfl, rfl⟩)

/-- Showing settings gives them a number unless they have one, and keeps them. -/
theorem present_eq (c : SettingsCache) (k : KeptSettings) :
    c.present k = (k.view.mapError Fault.view |>.map fun view => (k.number?.getD c.shown, view),
      { c with
        kept := some { k with number? := some (k.number?.getD c.shown) }
        shown := if k.number?.isSome then c.shown else c.shown + 1 }) := by
  unfold present
  dsimp only
  cases k.view <;> rfl

/-- What is left by a step that asked for settings and found some: the settings with what it assigned,
and the number that they had or were given. -/
structure Asked (c : SettingsCache) (k : KeptSettings) (x : SettingsStep) (left : SettingsCache)
    (k' : KeptSettings) : Prop where
  kept : left.kept = some k'
  environment : left.environment = c.environment
  secrets : left.secrets = c.secrets
  readings : left.readings = c.readings
  settings : k'.unnumbered =
    (assignments [x]).foldl (fun k a => (k.assign a.1 a.2).2) k.unnumbered
  number : (k'.number? = k.number? ∧ left.shown = c.shown) ∨
    (k.number? = none ∧ k'.number? = some c.shown ∧ left.shown = c.shown + 1)

theorem asked_present {k k' : KeptSettings} {x : SettingsStep}
    (settings : k'.unnumbered =
      (assignments [x]).foldl (fun k a => (k.assign a.1 a.2).2) k.unnumbered)
    (number : k'.number? = k.number?) :
    Asked c k x (c.present k').2 { k' with number? := some (k'.number?.getD c.shown) } where
  kept := by rw [present_eq]
  environment := by rw [present_eq]
  secrets := by rw [present_eq]
  readings := by rw [present_eq]
  settings := settings
  number := by
    rw [present_eq, ← number]
    cases k'.number? with
    | none => exact .inr ⟨rfl, rfl, rfl⟩
    | some n => exact .inl ⟨rfl, rfl⟩

/-- A step that asks for settings and finds some leaves them with what it assigns. -/
theorem asked_step {k : KeptSettings} (read : c.get = (.ok k, c')) {x : SettingsStep}
    (asks : x.Asks) : ∃ k', Asked c' k x (c.step x).2 k' := by
  cases x with
  | get =>
    show ∃ k', Asked c' k .get c.look.2 k'
    unfold look
    rw [read]
    exact ⟨_, asked_present rfl rfl⟩
  | assign name v =>
    obtain ⟨plain, number⟩ := k.assign_unnumbered name v
    show ∃ k', Asked c' k (.assign name v) (c.assign name v).2 k'
    unfold SettingsCache.assign
    rw [read]
    dsimp only
    cases made : k.assign name v with
    | mk fault k' =>
      rw [made] at plain number
      cases fault with
      | some f => exact ⟨k', rfl, rfl, rfl, rfl, plain.symm, .inl ⟨number, rfl⟩⟩
      | none => exact ⟨_, asked_present plain.symm number⟩
  | setVariables changes => exact asks.elim
  | drop => exact asks.elim

/-- A step that asks for settings where none can be read leaves everything as it is. -/
theorem step_of_faults {fs : List SettingFault} (failed : c.get = (.faults fs, c))
    {x : SettingsStep} (asks : x.Asks) : (c.step x).2 = c := by
  cases x with
  | get =>
    show c.look.2 = c
    unfold look
    rw [failed]
  | assign name v =>
    show (c.assign name v).2 = c
    unfold SettingsCache.assign
    rw [failed]
  | setVariables changes => exact asks.elim
  | drop => exact asks.elim

/-! ## What a session comes to -/

theorem run_append (c : SettingsCache) (xs ys : List SettingsStep) :
    c.run (xs ++ ys) = ((c.run xs).1 ++ ((c.run xs).2.run ys).1, ((c.run xs).2.run ys).2) := by
  induction xs generalizing c with
  | nil => rfl
  | cons x rest ih =>
    show ((c.step x).1 :: ((c.step x).2.run (rest ++ ys)).1, ((c.step x).2.run (rest ++ ys)).2) = _
    rw [ih]
    rfl

/-- A cache is what a session comes to after some steps: its environment and its settings follow from
them, and the readings drew one secret each, the last of them for the settings in force. -/
structure ResultsFrom (e : Environment) (secrets : Nat → String) (steps : List SettingsStep)
    (c : SettingsCache) : Prop where
  reached : ((fresh e secrets).run steps).2 = c
  environment : c.environment = environmentAfter e steps
  draws : c.secrets = secrets
  empty : c.kept = none → ∃ before idle, steps = before ++ idle ∧ AfterDrop before ∧
    SettingsStep.drop ∉ idle ∧ Unread e secrets before idle
  full : ∀ k, c.kept = some k → ∃ before idle x later s,
    ReadAt e secrets steps before idle x later s ∧
      c.readings = drawnIn e secrets (before ++ idle) + 1 ∧
      k.unnumbered = overlay s (assignments (x :: later))

variable {e : Environment} {secrets : Nat → String} {steps : List SettingsStep}

theorem resultsFrom_fresh (e : Environment) (secrets : Nat → String) :
    ResultsFrom e secrets [] (fresh e secrets) where
  reached := rfl
  environment := rfl
  draws := rfl
  empty := fun _ => ⟨[], [], rfl, .inl rfl, List.not_mem_nil, unread_nil⟩
  full := fun k kept => absurd kept.symm (Option.some_ne_none k)

theorem ResultsFrom.drawnIn_eq (h : ResultsFrom e secrets steps c) :
    drawnIn e secrets steps = c.readings := by
  rw [drawnIn, h.reached]

theorem ResultsFrom.reached_step (h : ResultsFrom e secrets steps c) (x : SettingsStep) :
    ((fresh e secrets).run (steps ++ [x])).2 = (c.step x).2 := by
  rw [run_append, h.reached]
  rfl

/-- A step that asks for kept settings adds its assignment to the history. -/
theorem ResultsFrom.asked (h : ResultsFrom e secrets steps c) {k k' : KeptSettings}
    (kept : c.kept = some k) {x : SettingsStep} (asks : x.Asks) (asked : Asked c k x (c.step x).2 k') :
    ResultsFrom e secrets (steps ++ [x]) (c.step x).2 where
  reached := h.reached_step x
  environment := by
    rw [asked.environment, h.environment, environmentAfter_concat,
      SettingsStep.environment_of_asks asks]
  draws := asked.secrets.trans h.draws
  empty := fun none => by rw [asked.kept] at none; cases none
  full := by
    intro k'' same
    obtain rfl := Option.some.inj (asked.kept.symm.trans same)
    obtain ⟨before, idle, y, later, s, read, drawn, overlaid⟩ := h.full k kept
    refine ⟨before, idle, y, later ++ [x], s, read.concat (by rintro rfl; exact asks),
      asked.readings.trans drawn, ?_⟩
    rw [asked.settings, overlaid, ← List.cons_append, assignments_append, overlay, overlay,
      List.foldl_append]

/-- A step that asks for settings and reads them begins a reading, which draws a secret. -/
theorem ResultsFrom.read (h : ResultsFrom e secrets steps c) (none : c.kept = none) {s : Settings}
    (built : Settings.build (c.secrets c.readings) ⟨c.environment, []⟩ = .ok s) {k' : KeptSettings}
    {x : SettingsStep} (asks : x.Asks)
    (asked : Asked { c with readings := c.readings + 1, kept := some { settings := s } }
      { settings := s } x (c.step x).2 k') :
    ResultsFrom e secrets (steps ++ [x]) (c.step x).2 where
  reached := h.reached_step x
  environment := by
    rw [asked.environment, environmentAfter_concat, ← h.environment,
      SettingsStep.environment_of_asks asks]
  draws := asked.secrets.trans h.draws
  empty := fun none => by rw [asked.kept] at none; cases none
  full := by
    intro k'' same
    obtain rfl := Option.some.inj (asked.kept.symm.trans same)
    have drawn := h.drawnIn_eq
    obtain ⟨before, idle, rfl, dropped, undropped, unread⟩ := h.empty none
    refine ⟨before, idle, x, [], s, ?_, ?_, asked.settings⟩
    · exact
        { split := rfl
          dropped := dropped
          undropped := by
            rw [List.mem_append, not_or, List.mem_singleton]
            exact ⟨undropped, by rintro rfl; exact asks⟩
          unread := unread
          asks := asks
          read := by rw [drawn, ← h.draws, ← h.environment, built] }
    · rw [asked.readings, drawn]

/-- A step that changes variables, or asks in vain, leaves the reading that is in force. -/
theorem ResultsFrom.left (h : ResultsFrom e secrets steps c) {x : SettingsStep} (stays : x ≠ .drop)
    (environment : (c.step x).2.environment = x.environment c.environment)
    (drawn : (c.step x).2.secrets = c.secrets ∧ (c.step x).2.readings = c.readings)
    (kept : (c.step x).2.kept = c.kept)
    (plain : ∀ k, c.kept = some k → x.assignment? = none)
    (fails : x.Asks → ∀ s, Settings.build (c.secrets c.readings) ⟨c.environment, []⟩ ≠ .ok s) :
    ResultsFrom e secrets (steps ++ [x]) (c.step x).2 where
  reached := h.reached_step x
  environment := by rw [environment, environmentAfter_concat, h.environment]
  draws := drawn.1.trans h.draws
  empty := by
    intro none
    have readings := h.drawnIn_eq
    obtain ⟨before, idle, rfl, dropped, undropped, unread⟩ := h.empty (kept ▸ none)
    refine ⟨before, idle ++ [x], by simp, dropped, ?_, unread.concat ?_⟩
    · rw [List.mem_append, not_or, List.mem_singleton]
      exact ⟨undropped, stays.symm⟩
    · rw [readings, ← h.draws, ← h.environment]
      exact fails
  full := by
    intro k same
    obtain ⟨before, idle, y, later, s, read, count, overlaid⟩ := h.full k (kept ▸ same)
    refine ⟨before, idle, y, later ++ [x], s, read.concat stays, drawn.2.trans count, ?_⟩
    rw [overlaid, ← List.cons_append, assignments_append]
    simp [assignments, plain k (kept ▸ same)]

/-- A step adds itself to the history. -/
theorem resultsFrom_step (h : ResultsFrom e secrets steps c) (x : SettingsStep) :
    ResultsFrom e secrets (steps ++ [x]) (c.step x).2 := by
  by_cases asks : x.Asks
  · rcases get_cases c with ⟨k, kept, read⟩ | ⟨none, s, built, read⟩ | ⟨none, fs, built, failed⟩
    · obtain ⟨k', asked⟩ := asked_step read asks
      exact h.asked kept asks asked
    · obtain ⟨k', asked⟩ := asked_step read asks
      exact h.read none built asks asked
    · have same := step_of_faults failed asks
      refine h.left (by rintro rfl; exact asks) ?_ ?_ ?_ ?_ ?_
      · rw [same, SettingsStep.environment_of_asks asks]
      · rw [same]
        exact ⟨rfl, rfl⟩
      · rw [same]
      · intro k kept
        rw [none] at kept
        cases kept
      · intro _ s other
        rw [built] at other
        cases other
  · cases x with
    | setVariables changes =>
      exact h.left (x := .setVariables changes) nofun rfl ⟨rfl, rfl⟩ rfl (fun _ _ => rfl)
        fun asks => asks.elim
    | drop =>
      exact
        { reached := h.reached_step .drop
          environment := by rw [environmentAfter_concat]; exact h.environment
          draws := h.draws
          empty := fun _ => ⟨steps ++ [.drop], [], by simp, .inr (by simp), List.not_mem_nil, unread_nil⟩
          full := fun k kept => absurd kept.symm (Option.some_ne_none k) }
    | get => exact absurd trivial asks
    | assign name v => exact absurd trivial asks

/-- Every session comes to what follows from its history. -/
theorem resultsFrom_run (e : Environment) (secrets : Nat → String) (steps : List SettingsStep) :
    ResultsFrom e secrets steps ((fresh e secrets).run steps).2 := by
  induction steps using List.reverseRecOn with
  | nil => exact resultsFrom_fresh e secrets
  | append_singleton before x ih =>
    rw [run_append]
    exact resultsFrom_step ih x

/-! ## Changes of the environment -/

/-- Whether a variable can be set does not depend on those that are set. -/
theorem fault_change (e e' : Environment) (name : String) (v : Option Json) :
    (∃ f, e.change name v = .error f ∧ e'.change name v = .error f) ∨
      ∃ next next', e.change name v = .ok next ∧ e'.change name v = .ok next' := by
  cases v with
  | none =>
    unfold Environment.change
    cases variableHalves? name with
    | some f => exact .inl ⟨_, rfl, rfl⟩
    | none => exact .inr ⟨_, _, rfl, rfl⟩
  | some v =>
    cases v with
    | str value =>
      simp only [Environment.change]
      cases VariableFault.of? name value with
      | some f => exact .inl ⟨_, rfl, rfl⟩
      | none => exact .inr ⟨_, _, rfl, rfl⟩
    | _ =>
      simp only [Environment.change]
      cases variableHalves? name with
      | some f => exact .inl ⟨_, rfl, rfl⟩
      | none => exact .inl ⟨_, rfl, rfl⟩

theorem fault_changeAll (e e' : Environment) (changes : List (String × Option Json)) :
    (e.changeAll changes).1 = (e'.changeAll changes).1 := by
  induction changes generalizing e e' with
  | nil => rfl
  | cons change rest ih =>
    obtain ⟨name, v⟩ := change
    rw [Environment.changeAll, Environment.changeAll]
    rcases fault_change e e' name v with ⟨f, one, other⟩ | ⟨next, next', one, other⟩
    · rw [one, other]
    · rw [one, other]
      exact ih next next'

/-- Caches that keep the same settings. -/
structure SameKept (c c' : SettingsCache) : Prop where
  full : c.kept.isSome = true
  kept : c'.kept = c.kept
  shown : c'.shown = c.shown

/-- A step by which the settings are not dropped is answered by the kept settings alone. -/
theorem sameKept_step (h : SameKept c c') {x : SettingsStep} (stays : x ≠ .drop) :
    (c'.step x).1 = (c.step x).1 ∧ SameKept (c.step x).2 (c'.step x).2 := by
  obtain ⟨k, kept⟩ := Option.isSome_iff_exists.1 h.full
  have read : c.get = (.ok k, c) := by rw [get, kept]
  have read' : c'.get = (.ok k, c') := by rw [get, h.kept, kept]
  cases x with
  | setVariables changes =>
    refine ⟨?_, h.full, h.kept, h.shown⟩
    unfold step setVariables
    dsimp only
    rw [fault_changeAll c'.environment c.environment changes]
  | drop => exact absurd rfl stays
  | get =>
    unfold step look
    dsimp only
    rw [read, read']
    dsimp only
    rw [present_eq, present_eq, h.shown]
    exact ⟨rfl, rfl, rfl, rfl⟩
  | assign name v =>
    unfold step SettingsCache.assign
    dsimp only
    rw [read, read']
    dsimp only
    rcases k.assign name v with ⟨fault | _, k'⟩
    · dsimp only
      rw [present_eq, present_eq, h.shown]
      exact ⟨rfl, rfl, rfl, rfl⟩
    · exact ⟨rfl, rfl, rfl, h.shown⟩

/-- Whatever happens to the environment, the same settings are answered until they are dropped. -/
theorem run_of_sameKept (h : SameKept c c') {later : List SettingsStep} (stay : SettingsStep.drop ∉ later) :
    (c'.run later).1 = (c.run later).1 := by
  induction later generalizing c c' with
  | nil => rfl
  | cons x rest ih =>
    simp only [List.mem_cons, not_or] at stay
    obtain ⟨same, left⟩ := sameKept_step h (Ne.symm stay.1)
    rw [run, run]
    dsimp only
    rw [same, ih left stay.2]

/-! ## Numbers -/

/-- A number that is given is below those to come; and a reading that has none yet will get one that
is not below some bound. -/
structure Numbered (low : Nat) (c : SettingsCache) : Prop where
  bound : low ≤ c.shown
  number : ∀ k, c.kept = some k → ∀ n, k.number? = some n → low ≤ n ∧ n < c.shown

theorem numbered_fresh (e : Environment) (secrets : Nat → String) : Numbered 0 (fresh e secrets) :=
  ⟨Nat.le_refl 0, fun k kept => absurd kept.symm (Option.some_ne_none k)⟩

theorem Numbered.asked {low : Nat} (h : Numbered low c) {k k' : KeptSettings} (kept : ∀ n,
    k.number? = some n → low ≤ n ∧ n < c.shown) {x : SettingsStep} {left : SettingsCache}
    (asked : Asked c k x left k') : Numbered low left := by
  rcases asked.number with ⟨same, shown⟩ | ⟨-, given, shown⟩
  · refine ⟨by rw [shown]; exact h.bound, fun k'' kept'' n number => ?_⟩
    obtain rfl := Option.some.inj (asked.kept.symm.trans kept'')
    rw [shown]
    exact kept n (same ▸ number)
  · refine ⟨by rw [shown]; exact Nat.le_succ_of_le h.bound, fun k'' kept'' n number => ?_⟩
    obtain rfl := Option.some.inj (asked.kept.symm.trans kept'')
    obtain rfl := Option.some.inj (given.symm.trans number)
    rw [shown]
    exact ⟨h.bound, Nat.lt_succ_self _⟩

theorem numbered_step {low : Nat} (h : Numbered low c) (x : SettingsStep) :
    Numbered low (c.step x).2 := by
  by_cases asks : x.Asks
  · rcases get_cases c with ⟨k, kept, read⟩ | ⟨none, s, built, read⟩ | ⟨none, fs, built, failed⟩
    · obtain ⟨k', asked⟩ := asked_step read asks
      exact h.asked (h.number k kept) asked
    · obtain ⟨k', asked⟩ := asked_step read asks
      -- What was just read has no number yet.
      have unnumbered : Numbered low
          { c with readings := c.readings + 1, kept := some { settings := s } } := by
        refine ⟨h.bound, fun k kept n number => ?_⟩
        obtain rfl := Option.some.inj kept
        cases number
      exact unnumbered.asked (unnumbered.number _ rfl) asked
    · rw [step_of_faults failed asks]
      exact h
  · cases x with
    | setVariables changes => exact ⟨h.bound, h.number⟩
    | drop => exact ⟨h.bound, fun k kept => by cases kept⟩
    | get => exact absurd trivial asks
    | assign name v => exact absurd trivial asks

theorem numbered_run {low : Nat} (h : Numbered low c) (steps : List SettingsStep) :
    Numbered low (c.run steps).2 := by
  induction steps generalizing c with
  | nil => exact h
  | cons x rest ih => exact ih (numbered_step h x)

/-- A number once given stays with the settings until they are dropped. -/
theorem number_step {k : KeptSettings} (kept : c.kept = some k) {n : Nat}
    (number : k.number? = some n) {x : SettingsStep} (stays : x ≠ .drop) :
    ∃ k', (c.step x).2.kept = some k' ∧ k'.number? = some n := by
  by_cases asks : x.Asks
  · have read : c.get = (.ok k, c) := by rw [get, kept]
    obtain ⟨k', asked⟩ := asked_step read asks
    rcases asked.number with ⟨same, -⟩ | ⟨none, -⟩
    · exact ⟨k', asked.kept, same.trans number⟩
    · rw [number] at none
      cases none
  · cases x with
    | setVariables changes => exact ⟨k, kept, number⟩
    | drop => exact absurd rfl stays
    | get => exact absurd trivial asks
    | assign name v => exact absurd trivial asks

theorem number_run {k : KeptSettings} (kept : c.kept = some k) {n : Nat}
    (number : k.number? = some n) {steps : List SettingsStep}
    (stay : SettingsStep.drop ∉ steps) :
    ∃ k', (c.run steps).2.kept = some k' ∧ k'.number? = some n := by
  induction steps generalizing c k with
  | nil => exact ⟨k, kept, number⟩
  | cons x rest ih =>
    simp only [List.mem_cons, not_or] at stay
    obtain ⟨k', kept', number'⟩ := number_step kept number (Ne.symm stay.1)
    exact ih kept' number' stay.2

variable {c c' : SettingsCache} {e : Environment}

/-! ## Answers -/

/-- Settings that are asked for are shown with their number, or with the next. -/
theorem step_get_of_ok {k : KeptSettings} (read : c.get = (.ok k, c')) :
    c.step .get = (.settings ((k.view.mapError Fault.view).map fun view =>
        (k.number?.getD c'.shown, view)), (c'.present k).2) := by
  unfold step look
  dsimp only
  rw [read]
  dsimp only
  rw [present_eq]

/-- Settings that are shown are kept, under the number that is shown with them. -/
theorem step_get_eq_ok {n : Nat} {view : SettingsView}
    (shown : (c.step .get).1 = .settings (.ok (n, view))) :
    ∃ k, (c.step .get).2.kept = some k ∧ k.number? = some n ∧ k.view = .ok view := by
  cases read : c.get with
  | mk result c' =>
    cases result with
    | faults fs =>
      unfold step look at shown
      rw [read] at shown
      cases shown
    | ok k =>
      rw [step_get_of_ok read] at shown ⊢
      cases view : k.view with
      | error f =>
        rw [view] at shown
        cases shown
      | ok v =>
        rw [view] at shown
        obtain ⟨rfl, rfl⟩ := Prod.mk.inj (Except.ok.inj (SettingsAnswer.settings.inj shown))
        rw [present_eq]
        exact ⟨_, rfl, rfl, view⟩

/-- Settings that cannot be read leave nothing behind. -/
theorem step_get_eq_faults {fs : List SettingFault}
    (failed : (c.step .get).1 = .settings (.error (.settings fs))) :
    c.kept = none ∧ (c.step .get).2 = c := by
  have unshown : ∀ k c', c.get ≠ (.ok k, c') := by
    intro k c' read
    rw [step_get_of_ok read] at failed
    cases view : k.view with
    | error f =>
      rw [view] at failed
      cases failed
    | ok v =>
      rw [view] at failed
      cases failed
  rcases get_cases c with ⟨k, -, read⟩ | ⟨-, s, -, read⟩ | ⟨none, fs', -, read⟩
  · exact absurd read (unshown _ _)
  · exact absurd read (unshown _ _)
  · exact ⟨none, step_of_faults read trivial⟩

/-- What is kept, if anything, is as it was read. -/
def Clean (c : SettingsCache) : Prop :=
  ∀ k, c.kept = some k → ∃ s : Settings, k.unnumbered = { settings := s }

/-- Without assignments, what is kept is as it was read. -/
theorem Clean.run (h : c.Clean) {steps : List SettingsStep}
    (looks : ∀ x ∈ steps, x = .get ∨ ∃ changes, x = .setVariables changes) :
    (c.run steps).2.Clean := by
  induction steps generalizing c with
  | nil => exact h
  | cons x rest ih =>
    refine ih (c := (c.step x).2) ?_ fun y hy => looks y (List.mem_cons_of_mem x hy)
    rcases looks x List.mem_cons_self with rfl | ⟨changes, rfl⟩
    · intro k kept
      rcases get_cases c with ⟨k', kept', read⟩ | ⟨none, s, built, read⟩ | ⟨none, fs, built, failed⟩
      · obtain ⟨k'', asked⟩ := asked_step read (x := .get) trivial
        obtain rfl := Option.some.inj (asked.kept.symm.trans kept)
        obtain ⟨s, view⟩ := h k' kept'
        exact ⟨s, asked.settings.trans view⟩
      · obtain ⟨k'', asked⟩ := asked_step read (x := .get) trivial
        obtain rfl := Option.some.inj (asked.kept.symm.trans kept)
        exact ⟨s, asked.settings⟩
      · rw [step_of_faults failed (x := .get) trivial, none] at kept
        cases kept
    · exact h

/-- Settings without assignments are shown wherever they are kept or can be read. -/
theorem Clean.shown (h : c.Clean) {s : Settings}
    (readable : Settings.build (c.secrets c.readings) ⟨c.environment, []⟩ = .ok s) :
    ∃ n view, (c.step .get).1 = .settings (.ok (n, view)) := by
  rcases get_cases c with ⟨k, kept, read⟩ | ⟨-, s', -, read⟩ | ⟨-, fs, built, -⟩
  · obtain ⟨s', view⟩ := h k kept
    have shown : k.view = .ok s'.view := by
      rw [← k.view_unnumbered, view]
      exact KeptSettings.view_fresh s'
    rw [step_get_of_ok read, shown]
    exact ⟨_, _, rfl⟩
  · rw [step_get_of_ok read, KeptSettings.view_fresh]
    exact ⟨_, _, rfl⟩
  · rw [readable] at built
    cases built

/-- The number of settings that are shown is the one that was shown before, unless they were dropped in
between. -/
theorem number_iff {low : Nat} (h : Numbered low c) {n n' : Nat} {view view' : SettingsView}
    {mid : List SettingsStep} (shown : (c.step .get).1 = .settings (.ok (n, view)))
    (shown' : (((c.step .get).2.run mid).2.step .get).1 = .settings (.ok (n', view'))) :
    n' = n ↔ SettingsStep.drop ∉ mid := by
  obtain ⟨k, kept, number, -⟩ := step_get_eq_ok shown
  obtain ⟨k', kept', number', -⟩ := step_get_eq_ok shown'
  constructor
  · -- The numbers that are given after a drop are not below those that were given before it.
    rintro rfl dropped
    obtain ⟨passed, rest, rfl, stay⟩ := List.eq_append_cons_of_mem dropped
    have numbered : Numbered low ((c.step .get).2.run passed).2 :=
      numbered_run (numbered_step h .get) passed
    obtain ⟨k₁, kept₁, number₁⟩ := number_run kept number stay
    have below := (numbered.number k₁ kept₁ n' number₁).2
    have begins : Numbered ((c.step .get).2.run passed).2.shown
        (((c.step .get).2.run passed).2.step .drop).2 :=
      ⟨Nat.le_refl _, fun k kept => by cases kept⟩
    have ends := numbered_step (numbered_run begins rest) .get
    rw [run_append] at kept'
    exact absurd (ends.number k' kept' n' number').1 (Nat.not_le.2 below)
  · intro stay
    obtain ⟨k₁, kept₁, number₁⟩ := number_run kept number stay
    obtain ⟨k₂, kept₂, number₂⟩ := number_step kept₁ number₁ (x := .get) nofun
    obtain rfl := Option.some.inj (kept'.symm.trans kept₂)
    exact Option.some.inj (number'.symm.trans number₂)

/-- The answers of a session follow from its history. Settings that are shown were read at the first step
since they were dropped last that asked for them where they can be read, in the environment of that
step, and are overlaid with what was assigned from that step on and with nothing else: after plain
assignments each setting has the value that was assigned to it last, or else the one that was read. Each
reading draws the next secret, and nothing else draws one, so that no two readings draw the same. Once
settings are kept, no change of the environment shows until they are dropped. Settings that are shown
twice have the same number exactly if they were not dropped in between. And settings that cannot be read
leave nothing behind, so that they are shown as soon as they can be read, without being dropped. -/
theorem answers_of_history (e : Environment) (secrets : Nat → String) (steps : List SettingsStep)
    {c : SettingsCache} (reached : ((fresh e secrets).run steps).2 = c) :
    (∀ n view, (c.step .get).1 = .settings (.ok (n, view)) →
      ∃ before idle x later s, ReadAt e secrets (steps ++ [.get]) before idle x later s ∧
        drawnIn e secrets (steps ++ [.get]) = drawnIn e secrets (before ++ idle) + 1 ∧
        (overlay s (assignments (x :: later))).view = .ok view ∧
        ((∀ a ∈ assignments (x :: later), KeptSettings.IsPlain a.1) →
          view.fields = s.fields.map (fun f =>
            (f.1, (lastAssigned (assignments (x :: later)) f.1).getD f.2)) ∧
          ∀ name, Fields.get? view.extra name =
            if name ∈ Settings.names then Fields.get? s.extra name
            else (lastAssigned (assignments (x :: later)) name).or (Fields.get? s.extra name))) ∧
      (c.kept.isSome = true → ∀ changes later, SettingsStep.drop ∉ later →
        ((c.setVariables changes).2.run later).1 = (c.run later).1) ∧
      (∀ n view mid n' view', (c.step .get).1 = .settings (.ok (n, view)) →
        (((c.step .get).2.run mid).2.step .get).1 = .settings (.ok (n', view')) →
          (n' = n ↔ SettingsStep.drop ∉ mid)) ∧
      ∀ fs, (c.step .get).1 = .settings (.error (.settings fs)) →
        (c.step .get).2 = c ∧
          ∀ mid s, (∀ x ∈ mid, x = .get ∨ ∃ changes, x = .setVariables changes) →
            Settings.build (secrets (drawnIn e secrets (steps ++ mid)))
                ⟨(c.run mid).2.environment, []⟩ = .ok s →
              ∃ n view, ((c.run mid).2.step .get).1 = .settings (.ok (n, view)) := by
  refine ⟨?shown, ?unseen, ?same, ?failed⟩
  case shown =>
    intro n view shown
    obtain ⟨k, kept, -, viewed⟩ := step_get_eq_ok shown
    have results : ResultsFrom e secrets (steps ++ [.get]) (c.step .get).2 :=
      reached ▸ resultsFrom_step (resultsFrom_run e secrets steps) .get
    obtain ⟨before, idle, x, later, s, read, drawn, same⟩ := results.full k kept
    have overlaid : (overlay s (assignments (x :: later))).view = .ok view := by
      rw [← same]
      exact viewed
    exact ⟨before, idle, x, later, s, read, results.drawnIn_eq.trans drawn, overlaid,
      fun plain => KeptSettings.view_overlay plain overlaid⟩
  case unseen =>
    intro full changes later stay
    have same : SameKept c (c.setVariables changes).2 := ⟨full, rfl, rfl⟩
    exact run_of_sameKept same stay
  case same =>
    intro n view mid n' view' shown shown'
    exact number_iff (reached ▸ numbered_run (numbered_fresh e secrets) steps) shown shown'
  case failed =>
    intro fs failed
    obtain ⟨none, left⟩ := step_get_eq_faults failed
    refine ⟨left, fun mid s looks readable => Clean.shown (Clean.run ?_ looks) (s := s) ?_⟩
    · intro k kept
      rw [none] at kept
      cases kept
    · have results : ResultsFrom e secrets (steps ++ mid) (c.run mid).2 := by
        rw [← reached, ← congrArg Prod.snd (run_append _ steps mid)]
        exact resultsFrom_run e secrets (steps ++ mid)
      rw [results.draws, ← results.drawnIn_eq, readable]

/-- A limit that cannot be read is repaired, a port is assigned, and the limit is changed again. -/
def repairs : List SettingsStep :=
  [ .get, .setVariables [("MAX_APP_COUNT", some (.str "5"))], .assign "port" (.int 9),
    .setVariables [("MAX_APP_COUNT", some (.str "7"))] ]

/-- Secrets that are drawn one after another, no two of them the same. -/
def secretsInTurn (reading : Nat) : String := "drawn at reading " ++ toString reading

/-- The limit that was repaired and the port that was assigned are shown, with the first secret that was
drawn, and not the limit that came too late; after a drop the settings have another number. -/
theorem answers_of_history_repairs :
    (∃ n view, (((fresh [("MAX_APP_COUNT", "0")] secretsInTurn).run
        [.setVariables [("MAX_APP_COUNT", some (.str "5"))]]).2.step .get).1 =
          .settings (.ok (n, view))) ∧
      ∃ c, ((fresh [("MAX_APP_COUNT", "0")] secretsInTurn).run repairs).2 = c ∧
        c.kept.isSome = true ∧
        ∃ n view n' view', (c.step .get).1 = .settings (.ok (n, view)) ∧
          (∃ before idle x later s,
            ReadAt [("MAX_APP_COUNT", "0")] secretsInTurn (repairs ++ [.get]) before idle x later s ∧
              (overlay s (assignments (x :: later))).view = .ok view) ∧
          Fields.get? view.fields "secret_key" = some (.str (secretsInTurn 0)) ∧
          (((c.step .get).2.run [.drop]).2.step .get).1 = .settings (.ok (n', view')) ∧ n' ≠ n ∧
          Fields.get? view'.fields "secret_key" = some (.str (secretsInTurn 1)) := by
  obtain ⟨-, -, -, failed⟩ := answers_of_history [("MAX_APP_COUNT", "0")] secretsInTurn [] rfl
  obtain ⟨shown, -, same, -⟩ := answers_of_history [("MAX_APP_COUNT", "0")] secretsInTurn repairs rfl
  obtain ⟨c, reached, full, n, view, n', view', first, second, secret, secret'⟩ :
      ∃ c, ((fresh [("MAX_APP_COUNT", "0")] secretsInTurn).run repairs).2 = c ∧
        c.kept.isSome = true ∧
        ∃ n view n' view', (c.step .get).1 = .settings (.ok (n, view)) ∧
          (((c.step .get).2.run [.drop]).2.step .get).1 = .settings (.ok (n', view')) ∧
          Fields.get? view.fields "secret_key" = some (.str (secretsInTurn 0)) ∧
          Fields.get? view'.fields "secret_key" = some (.str (secretsInTurn 1)) :=
    ⟨_, rfl, rfl, _, _, _, _, rfl, rfl, rfl, rfl⟩
  subst reached
  constructor
  · obtain ⟨-, repaired⟩ := failed _ rfl
    exact repaired [.setVariables [("MAX_APP_COUNT", some (.str "5"))]] _
      (fun x hx => .inr ⟨_, List.mem_singleton.1 hx⟩) rfl
  · obtain ⟨before, idle, x, later, s, read, -, overlaid, -⟩ := shown n view first
    refine ⟨_, rfl, full, n, view, n', view', first, ⟨before, idle, x, later, s, read, overlaid⟩,
      secret, second, fun equal => ?_, secret'⟩
    exact (same n view [.drop] n' view' first second).1 equal (List.mem_singleton.2 rfl)

end SettingsCache

end Runboard
