import Runboard.Proofs.Reconfiguring

/-!
# `Runboard.Proofs.LevelFloor`: what the configured level keeps out

`configure_logging` gives its level to the root. A logger takes the level of the nearest of its lineage
that has one, so what the root keeps out is kept out of every logger but those that stand under one with
a level of its own. Three of these are the quiet loggers. They get `WARNING` whatever the root has: where
the root lets more through this quiets them, but where the root is set above `WARNING` their warnings
pass, which the root would have kept out.

The levels that loggers had before the call may be any; the libraries that were loaded choose them.

A service configures its journal for `INFO` or `DEBUG`, so there the floor holds for every logger that
nobody gave a lower level.

## Contents

* `lineage_child`: the lineage of dotted names;
* `LogSetup.IsUnder`, `IsUnder.dotted`, `isUnder_dotted`: loggers that stand under some names;
* `quietedLevel?`, `floorOf`, `enabled_configured`: from which level on the records of a logger pass;
* `floorOf_of_names`, `not_enabled_of_names`, `floorOf_of_under`: floors where few loggers have levels of their own;
* `floorOf_cases`, `quiet_of_removed`, `quiet_of_passing`: what quieting removes and lets through;
* `Journal.answer_log`: what a call that logs is answered;
* `Service.floored_run`: the floor of a service;
* `levels_floored`: the whole.
-/

namespace Runboard

namespace LogSetup

/-! ## Dotted names -/

/-- What stands before a dot is shorter. -/
theorem length_beforeDot_lt {name : List Char} (parent : beforeDot name ≠ []) :
    (beforeDot name).length < name.length := by
  have dropped : (name.dropWhile (· != '.')).length ≤ name.length :=
    (List.dropWhile_sublist _).length_le
  have present : 0 < (beforeDot name).length := List.length_pos_iff.2 parent
  rw [beforeDot, List.length_drop] at present ⊢
  omega

/-- Where there is fuel for the whole name, more of it makes no difference. -/
theorem ancestors_enough {fuel more : Nat} {name : List Char} (enough : name.length ≤ fuel)
    (enough' : name.length ≤ more) : ancestors fuel name = ancestors more name := by
  induction fuel generalizing more name with
  | zero =>
    obtain rfl := List.length_eq_zero_iff.1 (Nat.le_zero.1 enough)
    cases more with
    | zero => rfl
    | succ more => rfl
  | succ fuel ih =>
    cases more with
    | zero =>
      obtain rfl := List.length_eq_zero_iff.1 (Nat.le_zero.1 enough')
      rfl
    | succ more =>
      rw [ancestors, ancestors]
      by_cases orphan : beforeDot name = []
      · rw [orphan]
        rfl
      · have shorter := length_beforeDot_lt orphan
        have rest : ((beforeDot name).drop 1).length = (beforeDot name).length - 1 := List.length_drop
        rw [ih (by omega) (show ((beforeDot name).drop 1).length ≤ more by omega)]

/-- What stands before the dot of a part. -/
theorem beforeDot_append {part : List Char} (whole : '.' ∉ part) (name : List Char) :
    beforeDot (part ++ '.' :: name) = name := by
  have skipped : (part ++ '.' :: name).dropWhile (· != '.') = '.' :: name := by
    rw [List.dropWhile_append_of_pos fun c hc => by
      simpa using fun same : c = '.' => whole (same ▸ hc)]
    rfl
  rw [beforeDot, skipped]
  rfl

/-- A character that is no dot has no ancestors of its own. -/
theorem ancestors_cons {c : Char} (plain : c ≠ '.') (fuel : Nat) (name : List Char) :
    ancestors fuel (c :: name) = ancestors fuel name := by
  have same : beforeDot (c :: name) = beforeDot name := by
    rw [beforeDot, beforeDot, List.dropWhile_cons_of_pos (by simpa using plain)]
  cases fuel with
  | zero => rfl
  | succ fuel => rw [ancestors, ancestors, same]

/-- The lineage of a name with one more part is that name before the lineage that was there. -/
theorem lineage_child {logger part : String} (named : logger ≠ "") (below : logger ≠ "root")
    (closed : logger.toList.getLast? ≠ some '.') (whole : '.' ∉ part.toList) :
    lineage (logger ++ "." ++ part) = (logger ++ "." ++ part) :: lineage logger := by
  have characters : (logger ++ "." ++ part).toList.reverse =
      part.toList.reverse ++ '.' :: logger.toList.reverse := by
    simp [String.toList_append]
  have length : (logger ++ "." ++ part).length = logger.length + part.length + 1 := by
    simp only [String.length_append]
    rw [show ".".length = 1 from rfl]
    omega
  have dotted : logger ++ "." ++ part ≠ "root" := by
    intro same
    have dot : '.' ∈ (logger ++ "." ++ part).toList := by simp [String.toList_append]
    rw [same] at dot
    exact absurd dot (by decide)
  -- The parent is the whole name before the last dot, and there is fuel left for its ancestors.
  obtain ⟨c, rest, reversed⟩ : ∃ c rest, logger.toList.reverse = c :: rest := by
    refine List.exists_cons_of_ne_nil fun empty => named ?_
    exact String.toList_eq_nil_iff.1 (List.reverse_eq_nil_iff.1 empty)
  have plain : c ≠ '.' := by
    rintro rfl
    rw [← List.head?_reverse, reversed] at closed
    exact closed rfl
  have size : logger.length = rest.length + 1 := by
    rw [← String.length_toList, ← List.length_reverse, reversed, List.length_cons]
  have parent : String.ofList (c :: rest).reverse = logger := by
    rw [← reversed, List.reverse_reverse, String.ofList_toList]
  rw [lineage, lineage, if_neg dotted, if_neg below, characters, length, ancestors,
    beforeDot_append (by simpa using whole), reversed, ancestors_cons plain]
  simp only [List.isEmpty_cons, Bool.false_eq_true, ↓reduceIte, List.drop_succ_cons, List.drop_zero,
    parent]
  rw [ancestors_enough (show rest.length ≤ logger.length + part.length by omega)
    (show rest.length ≤ logger.length by omega)]

/-! ## Loggers under others -/

/-- A logger is one of some loggers, or stands under one of them. -/
def IsUnder (names : List String) (logger : String) : Prop :=
  ∃ name ∈ lineage logger, name ∈ names

instance (names : List String) (logger : String) : Decidable (IsUnder names logger) :=
  inferInstanceAs (Decidable (∃ name ∈ lineage logger, name ∈ names))

/-- A name to which a part can be added: it is not that of the root, and it does not end in a dot. -/
structure IsParent (logger : String) : Prop where
  named : logger ≠ ""
  below : logger ≠ "root"
  closed : logger.toList.getLast? ≠ some '.'

/-- A part of a name: it is not empty and has no dot. -/
def IsPart (part : String) : Prop := part ≠ "" ∧ '.' ∉ part.toList

/-- A name with further parts. -/
def dotted (name : String) (parts : List String) : String :=
  parts.foldl (fun name part => name ++ "." ++ part) name

theorem isParent_child (logger : String) {part : String} (whole : IsPart part) :
    IsParent (logger ++ "." ++ part) := by
  have dot : '.' ∈ (logger ++ "." ++ part).toList := by simp [String.toList_append]
  refine ⟨?_, ?_, ?_⟩
  · intro same
    rw [same] at dot
    cases dot
  · intro same
    rw [same] at dot
    exact absurd dot (by decide)
  · have present : part.toList ≠ [] := fun empty => whole.1 (String.toList_eq_nil_iff.1 empty)
    rw [String.toList_append, List.getLast?_append_of_ne_nil _ present]
    intro last
    exact whole.2 (List.mem_of_getLast? last)

/-- What stands under a logger goes on doing so when parts are added. -/
theorem IsUnder.dotted {names : List String} {name : String} (h : IsUnder names name)
    (parent : IsParent name) {parts : List String} (whole : ∀ part ∈ parts, IsPart part) :
    IsUnder names (dotted name parts) := by
  induction parts generalizing name with
  | nil => exact h
  | cons part rest ih =>
    obtain ⟨first, others⟩ := List.forall_mem_cons.1 whole
    refine ih ?_ (isParent_child name first) others
    obtain ⟨above, within, listed⟩ := h
    refine ⟨above, ?_, listed⟩
    rw [lineage_child parent.named parent.below parent.closed first.2]
    exact List.mem_cons_of_mem _ within

theorem mem_lineage_self {name : String} (parent : IsParent name) : name ∈ lineage name := by
  rw [lineage, if_neg parent.below]
  exact List.mem_cons_self

/-- A name with further parts stands under whatever lists it. -/
theorem isUnder_dotted {names : List String} {name : String} (listed : name ∈ names)
    (parent : IsParent name) {parts : List String} (whole : ∀ part ∈ parts, IsPart part) :
    IsUnder names (dotted name parts) :=
  IsUnder.dotted ⟨name, mem_lineage_self parent, listed⟩ parent whole

theorem isParent_of_quiet {name : String} (quiet : name ∈ quietLoggers) : IsParent name := by
  have parents : ∀ name ∈ quietLoggers,
      name ≠ "" ∧ name ≠ "root" ∧ name.toList.getLast? ≠ some '.' := by
    decide
  obtain ⟨named, below, closed⟩ := parents name quiet
  exact ⟨named, below, closed⟩

/-! ## Floors -/

section Floors
variable {s : LogSetup} {environment logger : String} {l k : Level}

/-- The level of its own that a logger has after `configure_logging`: `WARNING` if it is quieted, else
the one that it had. -/
def quietedLevel? (s : LogSetup) (name : String) : Option Level :=
  if name ∈ quietLoggers then some Level.warning else s.ownLevel? name

/-- The level from which on the records of a logger pass after `configure_logging` with a level: that of
the nearest of its lineage that has one of its own, else that of the root. -/
def floorOf (s : LogSetup) (l : Level) (logger : String) : Level :=
  ((lineage logger).findSome? s.quietedLevel?).getD l

theorem ownLevel?_configured : (s.configured environment l).ownLevel? = s.quietedLevel? := by
  funext name
  have levels : Fields.get? (s.configured environment l).levels name = _ := get?_quieted s.levels name
  rw [ownLevel?, levels, quietedLevel?]
  by_cases quiet : name ∈ quietLoggers
  · rw [if_pos quiet, if_pos quiet]
    rfl
  · rw [if_neg quiet, if_neg quiet]
    rfl

/-- The level of the nearest of the lineage decides, else that of the root. -/
theorem enabled_iff_nearest : s.enabled logger k = true ↔
    0 < k ∧ ((lineage logger).findSome? s.ownLevel?).getD s.rootLevel ≤ k := by
  rw [enabled_iff, List.headD_eq_head?_getD, List.head?_filterMap]

/-- After `configure_logging` a record passes if its level is not below the floor of its logger. -/
theorem enabled_configured : (s.configured environment l).enabled logger k = true ↔
    0 < k ∧ s.floorOf l logger ≤ k := by
  rw [enabled_iff_nearest, ownLevel?_configured]
  rfl

/-- Below the level of the root only such records pass as a level of the lineage lets through. -/
theorem floorOf_le_iff (low : k < l) : s.floorOf l logger ≤ k ↔
    ∃ m, (lineage logger).findSome? s.quietedLevel? = some m ∧ m ≤ k := by
  rw [floorOf]
  cases (lineage logger).findSome? s.quietedLevel? with
  | none => simpa using low
  | some m => simp

/-- Where some loggers have one level, and no others of a lineage have any, a logger under those has
that level. -/
theorem findSome?_of_under {level? : String → Option Level} {names : List String} {m : Level}
    (under : IsUnder names logger)
    (leveled : ∀ name ∈ lineage logger, level? name = if name ∈ names then some m else none) :
    (lineage logger).findSome? level? = some m := by
  cases found : (lineage logger).findSome? level? with
  | none =>
    obtain ⟨name, within, listed⟩ := under
    have absent := List.findSome?_eq_none_iff.1 found name within
    rw [leveled name within, if_pos listed] at absent
    cases absent
  | some k =>
    obtain ⟨name, within, own⟩ := List.exists_of_findSome?_eq_some found
    rw [leveled name within] at own
    split at own
    · exact own.symm
    · cases own

/-- Where the only level of their own that loggers have is `WARNING`, the floor of those under them, and
under the quiet ones, is `WARNING`, and that of all others is the level of the root. -/
theorem floorOf_of_names {names : List String}
    (leveled : ∀ name, s.ownLevel? name = if name ∈ names then some Level.warning else none) :
    s.floorOf l logger = if IsUnder (names ++ quietLoggers) logger then Level.warning else l := by
  have own : ∀ name, s.quietedLevel? name =
      if name ∈ names ++ quietLoggers then some Level.warning else none := by
    intro name
    rw [quietedLevel?, leveled]
    by_cases quiet : name ∈ quietLoggers
    · rw [if_pos quiet, if_pos (List.mem_append_right names quiet)]
    · simp only [quiet, List.mem_append, or_false, ↓reduceIte]
  rw [floorOf]
  by_cases under : IsUnder (names ++ quietLoggers) logger
  · rw [if_pos under, findSome?_of_under under fun name _ => own name]
    rfl
  · have bare : (lineage logger).findSome? s.quietedLevel? = none :=
      List.findSome?_eq_none_iff.2 fun name within => by
        rw [own, if_neg fun listed => under ⟨name, within, listed⟩]
    rw [if_neg under, bare]
    rfl

/-- Where the only level of their own that loggers have is `WARNING`, what is kept out below the level of
the root is what is below `WARNING`, and what is of none of those loggers. -/
theorem not_enabled_of_names {names : List String}
    (leveled : ∀ name, s.ownLevel? name = if name ∈ names then some Level.warning else none)
    (low : k < l) : (s.configured environment l).enabled logger k = false ↔
      k < Level.warning ∨ ¬ IsUnder (names ++ quietLoggers) logger := by
  have positive : (0 : Level) < Level.warning := by decide
  rw [Bool.eq_false_iff, ne_eq, enabled_configured, floorOf_of_names leveled]
  by_cases under : IsUnder (names ++ quietLoggers) logger
  · rw [if_pos under, or_iff_left (not_not_intro under), not_and, Int.not_le]
    -- What is not below `WARNING` is not `NOTSET`.
    refine ⟨fun out => ?_, fun below _ => below⟩
    exact Int.not_le.1 fun high => Int.not_le.2 (out (Int.lt_of_lt_of_le positive high)) high
  · rw [if_neg under]
    exact iff_of_true (fun passing => Int.not_le.2 low passing.2) (.inr under)

/-- The floor of a logger under the quiet ones is `WARNING`, if no other of its lineage has a level. -/
theorem floorOf_of_under (under : IsUnder quietLoggers logger)
    (others : ∀ name ∈ lineage logger, name ∉ quietLoggers → s.ownLevel? name = none) :
    s.floorOf l logger = Level.warning := by
  have own : ∀ name ∈ lineage logger, s.quietedLevel? name =
      if name ∈ quietLoggers then some Level.warning else none := by
    intro name within
    rw [quietedLevel?]
    split
    · rfl
    · next quiet => exact others name within quiet
  rw [floorOf, findSome?_of_under under own]
  rfl

/-- A level that is not above `WARNING`, nor above the levels of the lineage, is not above the floor. -/
theorem le_floorOf (low : l ≤ Level.warning)
    (own : ∀ name ∈ lineage logger, ∀ m, s.ownLevel? name = some m → l ≤ m) :
    l ≤ s.floorOf l logger := by
  rw [floorOf]
  cases found : (lineage logger).findSome? s.quietedLevel? with
  | none => exact Int.le_refl l
  | some m =>
    obtain ⟨name, within, leveled⟩ := List.exists_of_findSome?_eq_some found
    rw [quietedLevel?] at leveled
    split at leveled
    · exact Option.some.inj leveled ▸ low
    · exact own name within m leveled

/-! ## What quieting changes -/

/-- The level that quieting leaves is the one that there was, or it is that of a quiet logger. -/
theorem floorOf_cases (s : LogSetup) (l : Level) (logger : String) :
    s.floorOf l logger = ((lineage logger).findSome? s.ownLevel?).getD l ∨
      IsUnder quietLoggers logger ∧ s.floorOf l logger = Level.warning := by
  unfold floorOf IsUnder
  -- The nearest that has a level is a quiet one, or it was the nearest before.
  induction lineage logger with
  | nil => exact .inl rfl
  | cons name rest ih =>
    simp only [List.findSome?_cons]
    by_cases quiet : name ∈ quietLoggers
    · rw [quietedLevel?, if_pos quiet]
      exact .inr ⟨⟨name, List.mem_cons_self, quiet⟩, rfl⟩
    · rw [quietedLevel?, if_neg quiet]
      cases s.ownLevel? name with
      | some m => exact .inl rfl
      | none =>
        refine ih.imp_right fun ⟨⟨above, within, listed⟩, warned⟩ => ?_
        exact ⟨⟨above, List.mem_cons_of_mem name within, listed⟩, warned⟩

theorem enabled_unquieted :
    { s.configured environment l with levels := s.levels }.enabled logger k = true ↔
      0 < k ∧ ((lineage logger).findSome? s.ownLevel?).getD l ≤ k :=
  enabled_iff_nearest

/-- What quieting removes are records of what is quieted, and no warnings. -/
theorem quiet_of_removed
    (heard : { s.configured environment l with levels := s.levels }.enabled logger k = true)
    (unheard : (s.configured environment l).enabled logger k = false) :
    IsUnder quietLoggers logger ∧ k < Level.warning := by
  rw [enabled_unquieted] at heard
  rw [Bool.eq_false_iff, ne_eq, enabled_configured] at unheard
  rcases floorOf_cases s l logger with same | ⟨quiet, warned⟩
  · rw [same] at unheard
    exact absurd heard unheard
  · rw [warned] at unheard
    exact ⟨quiet, Int.not_le.1 fun high => unheard ⟨heard.1, high⟩⟩

/-- What quieting lets through are warnings of what is quieted, below the level that would have held. -/
theorem quiet_of_passing
    (unheard : { s.configured environment l with levels := s.levels }.enabled logger k = false)
    (heard : (s.configured environment l).enabled logger k = true) :
    IsUnder quietLoggers logger ∧ Level.warning ≤ k ∧
      k < ((lineage logger).findSome? s.ownLevel?).getD l := by
  rw [enabled_configured] at heard
  rw [Bool.eq_false_iff, ne_eq, enabled_unquieted] at unheard
  rcases floorOf_cases s l logger with same | ⟨quiet, warned⟩
  · rw [same] at heard
    exact absurd heard unheard
  · rw [warned] at heard
    exact ⟨quiet, heard.2, Int.not_le.1 fun high => unheard ⟨heard.1, high⟩⟩

end Floors

end LogSetup

/-! ## Calls -/

namespace Journal

/-- A call that logs is answered with what the journal of the moment writes. -/
theorem answer_log (j : Journal) (before after : List LogStep) (logger : String) (k : Level)
    (template : String) (values : List Json) {raised : Option Raised}
    (real : raised.bind Raised.fault? = none) :
    (j.run (before ++ .log logger k template values raised :: after)).1[before.length]? =
      some (.lines ((j.run before).2.log
        { logger := loggerNamed logger, level := k, template := template, values := values,
          time := (j.run before).2.now, raised := raised })) := by
  rw [answer_of_run]
  show some (withRaised raised _) = _
  rw [withRaised, real]

/-- A record that does not pass writes nothing. -/
theorem log_of_kept_out {j : Journal} {r : LogRecord}
    (out : j.setup.enabled r.logger r.level = false) : j.log r = [] := by
  rw [log, LogSetup.emit, out, if_neg Bool.false_ne_true]
  rfl

end Journal

open LogSetup

/-! ## Services -/

namespace Service

/-- In all that a service goes through, its journal is as it was, or lets nothing pass that is below
the level for which it was configured, but for loggers that had a lower level in their lineage. -/
theorem floored_run (s : Service) (steps : List ServiceStep) :
    (s.run steps).2.setup = s.setup ∨ ∃ settings : Settings,
      let l := if settings.debug then Level.debug else Level.info
      (s.run steps).2.setup = s.setup.configured settings.environment l ∧
      ∀ logger k, (∀ name ∈ lineage logger, ∀ m, s.setup.ownLevel? name = some m → l ≤ m) →
        (s.run steps).2.setup.enabled logger k = true → l ≤ k := by
  rcases started_run s steps with same | ⟨settings, configured⟩
  · exact .inl same
  · refine .inr ⟨settings, configured, ?_⟩
    intro logger k own enabled
    have low : (if settings.debug then Level.debug else Level.info) ≤ Level.warning := by
      split <;> decide
    rw [configured, enabled_configured] at enabled
    exact Int.le_trans (le_floorOf low own) enabled.2

end Service

/-! ## The whole -/

namespace Journal

/-- The level that a journal is configured for, and what passes. In any session, whatever levels loggers
had before it, after the last configuration that succeeded the records of a logger pass from its floor
on: that is the level of the nearest of its lineage that has one, where the quiet loggers have `WARNING`,
else the configured level. So what is below the configured level passes exactly if the nearest level of
the lineage lets it; if the levels that were set before are all `WARNING`, it is kept out exactly if it
is below `WARNING` or comes from none of the loggers that have a level, nor from those under them. What
is kept out is not written, and what passes is, below the configured level or not. A name with further
parts stands under whatever lists it, and under the quiet loggers the floor is `WARNING`, where no other
level is set. To quiet loggers removes what is below `WARNING` of theirs and nothing else, and it lets
through only what is from `WARNING` on and below the level that would hold without it. -/
theorem levels_floored {j : Journal} {before : List LogStep} {environment : String} {l : Level}
    (last : lastCall? before = some (environment, l)) :
    let reached := (j.run before).2
    let unquieted := { reached.setup with levels := j.setup.levels }
    (∀ logger k, reached.setup.enabled logger k = true ↔ 0 < k ∧ j.setup.floorOf l logger ≤ k) ∧
    (∀ logger k, k < l → (reached.setup.enabled logger k = true ↔
      0 < k ∧ ∃ m, (lineage logger).findSome? j.setup.quietedLevel? = some m ∧ m ≤ k)) ∧
    (∀ names, (∀ name, j.setup.ownLevel? name =
        if name ∈ names then some Level.warning else none) →
      ∀ logger k, k < l → (reached.setup.enabled logger k = false ↔
        k < Level.warning ∨ ¬ IsUnder (names ++ quietLoggers) logger)) ∧
    (∀ after logger k template values raised, raised.bind Raised.fault? = none →
      reached.setup.enabled (loggerNamed logger) k = false →
      (j.run (before ++ .log logger k template values raised :: after)).1[before.length]? =
        some (.lines [])) ∧
    (∀ after logger k template values raised text, raised.bind Raised.fault? = none →
      reached.setup.enabled (loggerNamed logger) k = true →
      (formatterFor environment).format reached.context
        { logger := loggerNamed logger, level := k, template := template, values := values,
          time := reached.now, raised := raised } = .ok text →
      (j.run (before ++ .log logger k template values raised :: after)).1[before.length]? =
        some (.lines (outputLines [text]))) ∧
    (∀ (names : List String), ∀ name ∈ names, IsParent name →
      ∀ parts : List String, (∀ part ∈ parts, IsPart part) → IsUnder names (dotted name parts)) ∧
    (∀ logger, IsUnder quietLoggers logger →
      (∀ name ∈ lineage logger, name ∉ quietLoggers → j.setup.ownLevel? name = none) →
      j.setup.floorOf l logger = Level.warning) ∧
    (∀ logger k, unquieted.enabled logger k = true → reached.setup.enabled logger k = false →
      IsUnder quietLoggers logger ∧ k < Level.warning) ∧
    ∀ logger k, unquieted.enabled logger k = false → reached.setup.enabled logger k = true →
      IsUnder quietLoggers logger ∧ Level.warning ≤ k ∧
        k < ((lineage logger).findSome? j.setup.ownLevel?).getD l := by
  intro reached unquieted
  have state : reached.setup = j.setup.configured environment l := by
    rw [setup_run, last]
    rfl
  have passes : ∀ logger k, reached.setup.enabled logger k = true ↔
      0 < k ∧ j.setup.floorOf l logger ≤ k := by
    intro logger k
    rw [state, enabled_configured]
  refine ⟨passes, ?below, ?exact, ?silent, ?written,
    fun _ _ listed parent _ whole => isUnder_dotted listed parent whole,
    fun _ under others => floorOf_of_under under others, ?removed, ?passing⟩
  case below =>
    intro logger k low
    rw [passes, floorOf_le_iff low]
  case exact =>
    intro names leveled logger k low
    rw [state]
    exact not_enabled_of_names leveled low
  case silent =>
    intro after logger k template values raised real out
    rw [j.answer_log before after logger k template values real]
    exact congrArg (some ∘ LogAnswer.lines) (log_of_kept_out out)
  case written =>
    intro after logger k template values raised text real enabled formatted
    have handler : reached.setup.handlers = [.output (formatterFor environment)] :=
      congrArg LogSetup.handlers state
    rw [j.answer_log before after logger k template values real,
      (log_of_handler handler enabled formatted).2]
  case removed =>
    intro logger k
    show { reached.setup with levels := j.setup.levels }.enabled logger k = true → _
    rw [state]
    exact quiet_of_removed
  case passing =>
    intro logger k
    show { reached.setup with levels := j.setup.levels }.enabled logger k = false → _
    rw [state]
    exact quiet_of_passing

/-- A configuration for errors. -/
def coarseSession : List LogStep := [.configure "production" "ERROR"]

/-- A record of access that is a warning. -/
def accessRecord : LogRecord :=
  { logger := "uvicorn.access", level := Level.warning, template := "slow",
    time := .ofSeconds 1700000000 }

/-- A journal that is configured for errors writes no warning of an ordinary logger, and writes one of
access, which only quieting lets through. -/
theorem levels_floored_coarse :
    (freshJournal.run (coarseSession ++ [.log "app.worker" Level.warning "slow" [] none])).1[1]? =
        some (.lines []) ∧
      IsUnder quietLoggers "uvicorn.access" ∧
      freshJournal.setup.floorOf Level.error (dotted "aiosqlite" ["core", "worker"]) =
        Level.warning ∧
      ∃ text, (freshJournal.run
        (coarseSession ++ [.log "uvicorn.access" Level.warning "slow" [] none])).1[1]? =
          some (.lines (outputLines [text])) := by
  obtain ⟨-, -, exact, silent, written, names, floors, -, passing⟩ := @levels_floored freshJournal
    coarseSession "production" Level.error (by decide)
  have unset : ∀ name, freshJournal.setup.ownLevel? name = none := fun _ => rfl
  refine ⟨?_, ?_, floors _ (names quietLoggers "aiosqlite" (by decide) ?_ ["core", "worker"] ?_) ?_, ?_⟩
  · refine silent [] "app.worker" Level.warning "slow" [] none rfl ?_
    exact (exact [] unset "app.worker" Level.warning (by decide)).2 (.inr (by decide))
  · exact (passing "uvicorn.access" Level.warning (by decide) (by decide)).1
  · exact isParent_of_quiet (by decide)
  · unfold IsPart
    decide
  · exact fun name _ _ => unset name
  · obtain ⟨text, formatted⟩ := (exists_format_iff (freshJournal.run coarseSession).2.context
      accessRecord).2 ⟨by decide, _, rfl⟩
    exact ⟨text, written [] "uvicorn.access" Level.warning "slow" [] none text rfl
      (by decide) formatted⟩

/-- A warning of access is written though the journal is configured for errors; without quieting it
would not pass. -/
theorem not_floored_access :
    levelNamed "ERROR" = .ok Level.error ∧ Level.warning < Level.error ∧
      (∃ line, (freshJournal.run
        (coarseSession ++ [.log "uvicorn.access" Level.warning "slow" [] none])).1[1]? =
          some (.lines [line])) ∧
      { (freshJournal.run coarseSession).2.setup with
          levels := freshJournal.setup.levels }.enabled "uvicorn.access" Level.warning = false := by
  refine ⟨by decide, by decide, ?_, by decide⟩
  have structured : (freshJournal.run coarseSession).2.IsStructured :=
    @isStructured_configure freshJournal "ERROR" _ LogContext.isTexts_empty rfl
  have stamped := stamp_eq_ok.2 ⟨(by decide : accessRecord.time.HasDate), rfl⟩
  obtain ⟨line, formatted, reads⟩ := @readsAs_format accessRecord _ "slow" none none none stamped rfl
  have logged := log_of_format structured (r := accessRecord) (by decide) formatted
    reads.noBreak
  have whole : (none : Option Raised).bind Raised.fault? = none := rfl
  have answered := freshJournal.answer_log coarseSession [] "uvicorn.access" Level.warning "slow" []
    whole
  exact ⟨line, answered.trans (congrArg (some ∘ LogAnswer.lines) logged)⟩

end Journal

end Runboard
