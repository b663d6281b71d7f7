import Mathlib.Data.List.Induction
import Runboard.Store.Database

/-!
# `Runboard.Proofs.EngineLife`: the life of the engine

An engine is made by a start, stands until it is given up, and is not touched by anything else. The
engine and its sessions are set one after the other, and some callers look at the engine where others
look at the sessions; so what has to hold between any two steps is that the one is there exactly when
the other is. A start does one of four things, and only one of them changes the database: it makes the
engine and its sessions together, at an address that an engine can be made from.

How an engine treats its connections is decided by its address alone. So a run has to remember the
address: an engine stands in a session only if some start of the session made it from an address that
was given or found in the settings, and no step since has given it up.

## Contents

* `Engine.Serves`, `Engine.serves_of_make`: how an engine treats its connections;
* `Database.opened`, `Database.Starts`, `Database.starts`: what a start does;
* `Database.Whole`, `Database.Whole.start`, `Database.Whole.ready_eq`: the engine and its sessions;
* `EngineSession.run_append`, `answer_of_run`: the answer of a step within a run;
* `EngineSession.MadeFrom`, `EngineSession.stands_of_run`: where an engine comes from;
* `EngineSession.life_of_run`: what each step does in every state that is reached.
-/

namespace Runboard

/-! ## Engines and their addresses -/

namespace Engine

/-- An engine keeps one connection for all and trusts it exactly if its address is that of a file
database; else, and only then, it checks each of its connections before use. -/
structure Serves (e : Engine) (url : String) : Prop where
  kept : e.staticPool = true ∧ e.prePing = false ↔ "sqlite".toList <+: url.toList
  checked : e.staticPool = false ∧ e.prePing = true ↔ ¬ "sqlite".toList <+: url.toList

theorem isFileAddress_iff {url : String} :
    isFileAddress url = true ↔ "sqlite".toList <+: url.toList := List.isPrefixOf_iff_prefix

theorem serves_of_ofDriver {url : String} {a : Address} {port : Option Int}
    {support : DriverSupport} {e : Engine} (made : ofDriver url a port support = .ok e) :
    e.Serves url := by
  unfold ofDriver at made
  split at made
  · cases made
  · split at made
    · cases made
    · obtain rfl := Except.ok.inj made
      refine ⟨?kept, ?checked⟩
      case kept =>
        show isFileAddress url = true ∧ (!isFileAddress url) = false ↔ _
        rw [Bool.not_eq_false', and_self, isFileAddress_iff]
      case checked =>
        show isFileAddress url = false ∧ (!isFileAddress url) = true ↔ _
        rw [Bool.not_eq_true', and_self, ← isFileAddress_iff, Bool.not_eq_true]

/-- Whatever else an address says, only how it begins decides how connections are treated. -/
theorem serves_of_make {url : String} {e : Engine} (made : make url = .ok e) : e.Serves url := by
  unfold make at made
  split at made
  · cases made
  · split at made
    · cases made
    · split at made
      · cases made
      · split at made
        · cases made
        · cases made
        · exact serves_of_ofDriver made

end Engine

/-! ## Starts -/

namespace Database

/-- The database right after its engine is made. -/
def opened (e : Engine) : Database := { engine := some e, sessions := some ⟨e⟩ }

/-- What a start does: nothing where an engine stands, nothing where no engine can be made, and
otherwise it makes the engine and its sessions and tells of it once. -/
inductive Starts (d : Database) (given : Option String) (cache : SettingsCache) :
    Except OpenFault (List Event) × Database × SettingsCache → Prop
  | standing (there : d.engine.isSome = true) : Starts d given cache (.ok [], d, cache)
  | addressless {fault : OpenFault} {cache' : SettingsCache} (gone : d.engine = none)
      (address : addressFor given cache = (.error fault, cache')) :
      Starts d given cache (.error fault, d, cache')
  | unmade {url : String} {fault : EngineFault} {cache' : SettingsCache} (gone : d.engine = none)
      (address : addressFor given cache = (.ok url, cache')) (unmade : Engine.make url = .error fault) :
      Starts d given cache (.error (.engine fault), d, cache')
  | made {url : String} {e : Engine} {cache' : SettingsCache} (gone : d.engine = none)
      (address : addressFor given cache = (.ok url, cache')) (made : Engine.make url = .ok e) :
      Starts d given cache (.ok [.engineReady e.backend], opened e, cache')

theorem starts (d : Database) (given : Option String) (cache : SettingsCache) :
    d.Starts given cache (d.start given cache) := by
  unfold start
  split
  · next there => exact .standing there
  · next gone =>
    have gone : d.engine = none := by simpa using gone
    split
    · next fault cache' address => exact .addressless gone address
    · next url cache' address =>
      split
      · next fault unmade => exact .unmade gone address unmade
      · next e made => exact .made gone address made

/-- A start where an engine stands does nothing, whatever address it is given. -/
theorem start_of_engine {d : Database} (there : d.engine.isSome = true) (given : Option String)
    (cache : SettingsCache) : d.start given cache = (.ok [], d, cache) := if_pos there

/-- A given address that is not empty is the one that is used. -/
theorem addressFor_given {url : String} (named : url ≠ "") (cache : SettingsCache) :
    addressFor (some url) cache = (.ok url, cache) := by
  have kept : (some url).filter (· != "") = some url := by
    rw [Option.filter_some, if_pos (bne_iff_ne.2 named)]
  rw [addressFor, kept]

/-! ## The engine and its sessions -/

/-- The sessions are those of the engine, and there are none without one. -/
def Whole (d : Database) : Prop := d.sessions = d.engine.map SessionMaker.mk

theorem whole_closed : closed.Whole := rfl

theorem whole_opened (e : Engine) : (opened e).Whole := rfl

theorem Whole.isSome_eq {d : Database} (h : d.Whole) : d.engine.isSome = d.sessions.isSome := by
  rw [h, Option.isSome_map]

theorem Whole.start {d : Database} (h : d.Whole) (given : Option String) (cache : SettingsCache) :
    (d.start given cache).2.1.Whole := by
  cases hs : d.start given cache with
  | mk result rest =>
    have made := d.starts given cache
    rw [hs] at made
    cases made with
    | standing there => exact h
    | addressless gone address => exact h
    | unmade gone address unmade => exact h
    | made gone address made => exact whole_opened _

/-- To those who look at the sessions the database is open exactly when it is to those who look at
the engine. -/
theorem Whole.ready_eq {d : Database} (h : d.Whole) (cache : SettingsCache) :
    d.ready cache = d.start none cache := by
  unfold ready
  rw [← h.isSome_eq]
  split
  · next there => exact (start_of_engine there none cache).symm
  · rfl

theorem Whole.ready {d : Database} (h : d.Whole) (cache : SettingsCache) :
    (d.ready cache).2.1.Whole := by
  rw [h.ready_eq cache]
  exact h.start none cache

end Database

/-! ## Runs -/

namespace EngineSession

theorem run_append (s : EngineSession) (xs ys : List EngineStep) :
    s.run (xs ++ ys) =
      ((s.run xs).1 ++ ((s.run xs).2.run ys).1, ((s.run xs).2.run ys).2) := by
  induction xs generalizing s with
  | nil => rfl
  | cons x rest ih =>
    show ((s.step x).1 :: ((s.step x).2.run (rest ++ ys)).1, ((s.step x).2.run (rest ++ ys)).2) = _
    rw [ih]
    rfl

theorem length_run (s : EngineSession) (steps : List EngineStep) :
    (s.run steps).1.length = steps.length := by
  induction steps generalizing s with
  | nil => rfl
  | cons x rest ih =>
    rw [run, List.length_cons]
    exact congrArg (· + 1) (ih (s.step x).2)

/-- The answer of a step stands in the place of the step. -/
theorem answer_of_run (s : EngineSession) (before after : List EngineStep) (x : EngineStep) :
    (s.run (before ++ x :: after)).1[before.length]? = some ((s.run before).2.step x).1 := by
  rw [run_append, List.getElem?_append_right (Nat.le_of_eq (length_run s before)), length_run,
    Nat.sub_self]
  rfl

theorem run_concat (s : EngineSession) (before : List EngineStep) (x : EngineStep) :
    (s.run (before ++ [x])).2 = ((s.run before).2.step x).2 := by
  rw [run_append]
  rfl

/-! ## Where an engine comes from -/

/-- A session that begins: the settings are as they are, and there is no engine. -/
def fresh (cache : SettingsCache) : EngineSession := { cache := cache }

/-- A start of the session made the engine, from an address that it was given or found in the
settings of the moment, while there was none; and no step since has given it up. -/
def MadeFrom (cache : SettingsCache) (steps : List EngineStep) (url : String) (e : Engine) : Prop :=
  ∃ before given since, steps = before ++ .start given :: since ∧ EngineStep.close ∉ since ∧
    ((fresh cache).run before).2.database = .closed ∧
    (Database.addressFor given ((fresh cache).run before).2.cache).1 = .ok url ∧
    Engine.make url = .ok e

variable {cache : SettingsCache} {steps : List EngineStep} {url : String} {e : Engine}

/-- An engine serves the address that it was made from. -/
theorem MadeFrom.serves (h : MadeFrom cache steps url e) : e.Serves url := by
  obtain ⟨-, -, -, -, -, -, -, made⟩ := h
  exact Engine.serves_of_make made

/-- An engine stands until it is given up. -/
theorem MadeFrom.concat (h : MadeFrom cache steps url e) {x : EngineStep} (stays : x ≠ .close) :
    MadeFrom cache (steps ++ [x]) url e := by
  obtain ⟨before, given, since, rfl, kept, rest⟩ := h
  refine ⟨before, given, since ++ [x], by simp, ?_, rest⟩
  rw [List.mem_append, not_or, List.mem_singleton]
  exact ⟨kept, stays.symm⟩

/-- Between any two steps of a session the database is closed, or it is open with an engine that a
start has made. -/
theorem stands_of_run (cache : SettingsCache) (steps : List EngineStep) :
    ((fresh cache).run steps).2.database = .closed ∨
      ∃ url e, MadeFrom cache steps url e ∧ ((fresh cache).run steps).2.database = .opened e := by
  -- The last step decides, given what the steps before it have left.
  induction steps using List.reverseRecOn with
  | nil => exact .inl rfl
  | append_singleton before x ih =>
    rw [run_concat]
    cases x with
    | close => exact .inl rfl
    | state =>
      rcases ih with gone | ⟨url, e, made, stands⟩
      · exact .inl gone
      · exact .inr ⟨url, e, made.concat (by simp), stands⟩
    | start given =>
      have does := ((fresh cache).run before).2.database.starts given ((fresh cache).run before).2.cache
      rcases ih with gone | ⟨url, e, made, stands⟩
      · unfold step
        dsimp only
        cases hs : ((fresh cache).run before).2.database.start given
            ((fresh cache).run before).2.cache with
        | mk result rest =>
          rw [hs] at does
          cases does with
          | standing there =>
            rw [gone] at there
            cases there
          | addressless _ address => exact .inl gone
          | unmade _ address unmade => exact .inl gone
          | made _ address made =>
            refine .inr ⟨_, _, ⟨before, given, [], rfl, List.not_mem_nil, gone, ?_, made⟩, rfl⟩
            rw [address]
      · have there : ((fresh cache).run before).2.database.engine.isSome = true := by
          rw [stands]
          rfl
        refine .inr ⟨url, e, made.concat (by simp), ?_⟩
        unfold step
        dsimp only
        rw [Database.start_of_engine there]
        exact stands

theorem whole_run (cache : SettingsCache) (steps : List EngineStep) :
    ((fresh cache).run steps).2.database.Whole := by
  rcases stands_of_run cache steps with gone | ⟨url, e, -, stands⟩
  · rw [gone]
    exact Database.whole_closed
  · rw [stands]
    exact Database.whole_opened e

/-! ## What each step does -/

/-- A start that fails leaves the database, and tells of nothing. -/
theorem step_start_of_fault {s : EngineSession} {given : Option String} {fault : OpenFault}
    (failed : (s.step (.start given)).1.fault = some fault) :
    (s.step (.start given)).1 = { database := s.database, fault := some fault } ∧
      (s.step (.start given)).2.database = s.database := by
  have does := s.database.starts given s.cache
  unfold step at failed ⊢
  dsimp only at failed ⊢
  cases hs : s.database.start given s.cache with
  | mk result rest =>
    rw [hs] at does failed
    cases does with
    | standing there => cases failed
    | addressless gone address =>
      obtain rfl := Option.some.inj failed
      exact ⟨rfl, rfl⟩
    | unmade gone address unmade =>
      obtain rfl := Option.some.inj failed
      exact ⟨rfl, rfl⟩
    | made gone address made => cases failed

/-- A start that succeeds where there was no engine makes one, and tells of it once. -/
theorem step_start_of_made {s : EngineSession} {given : Option String}
    (gone : s.database.engine = none) (succeeded : (s.step (.start given)).1.fault = none) :
    ∃ url e, (Database.addressFor given s.cache).1 = .ok url ∧ Engine.make url = .ok e ∧
      (s.step (.start given)).1 =
        { database := .opened e, events := [.engineReady e.backend] } ∧
      (s.step (.start given)).2.database = .opened e := by
  have does := s.database.starts given s.cache
  unfold step at succeeded ⊢
  dsimp only at succeeded ⊢
  cases hs : s.database.start given s.cache with
  | mk result rest =>
    rw [hs] at does succeeded
    cases does with
    | standing there =>
      rw [gone] at there
      cases there
    | addressless _ address => cases succeeded
    | unmade _ address unmade => cases succeeded
    | made _ address made =>
      refine ⟨_, _, ?_, made, rfl, rfl⟩
      rw [address]

theorem step_start_of_engine {s : EngineSession} (there : s.database.engine.isSome = true)
    (given : Option String) : s.step (.start given) = ({ database := s.database }, s) := by
  unfold step
  dsimp only
  rw [Database.start_of_engine there]

/-- Where there is no engine, a start with an address that one can be made from succeeds. -/
theorem step_start_given {s : EngineSession} (gone : s.database = .closed) (named : url ≠ "")
    (made : Engine.make url = .ok e) :
    s.step (.start (some url)) =
      ({ database := .opened e, events := [.engineReady e.backend] }, ⟨s.cache, .opened e⟩) := by
  unfold step Database.start
  dsimp only
  rw [gone, if_neg (by simp [Database.closed]), Database.addressFor_given named]
  dsimp only
  rw [made]
  rfl

/-- The states of a session and its steps. The engine is there exactly when its sessions are, so that
a session of the database is opened just where a start would open it. An engine that is there was
made by a start of the session and not given up since, and whether it keeps one connection or checks
them before use goes by how the address of that start begins. A start where an engine stands does
nothing, one that fails does nothing, and one that succeeds makes the engine of its address and tells
of it once. Giving up leaves what a session begins with, and from there an engine can be made of every
address that one can be made from. A look at the state changes nothing. -/
theorem life_of_run (cache : SettingsCache) (before : List EngineStep) :
    let s := ((fresh cache).run before).2
    (∀ x after, ((fresh cache).run (before ++ x :: after)).1[before.length]? =
      some (s.step x).1 ∧ ((fresh cache).run (before ++ [x])).2 = (s.step x).2) ∧
    (s.database.engine.isSome = true ↔ s.database.sessions.isSome = true) ∧
    (∀ c, s.database.ready c = s.database.start none c) ∧
    (∀ e, s.database.engine = some e → ∃ url, MadeFrom cache before url e ∧
      (e.staticPool = true ∧ e.prePing = false ↔ "sqlite".toList <+: url.toList) ∧
      (e.staticPool = false ∧ e.prePing = true ↔ ¬ "sqlite".toList <+: url.toList)) ∧
    (∀ given, s.database.engine.isSome = true →
      s.step (.start given) = ({ database := s.database }, s)) ∧
    (∀ given fault, (s.step (.start given)).1.fault = some fault →
      (s.step (.start given)).1 = { database := s.database, fault := some fault } ∧
      (s.step (.start given)).2.database = s.database) ∧
    (∀ given, s.database.engine = none → (s.step (.start given)).1.fault = none →
      ∃ url e, (Database.addressFor given s.cache).1 = .ok url ∧ Engine.make url = .ok e ∧
        (s.step (.start given)).1 =
          { database := .opened e, events := [.engineReady e.backend] } ∧
        (s.step (.start given)).2.database = .opened e) ∧
    s.step .close = ({ database := .closed }, fresh s.cache) ∧
    (∀ url e, url ≠ "" → Engine.make url = .ok e →
      (s.step .close).2.step (.start (some url)) =
        ( { database := .opened e, events := [.engineReady e.backend] },
          { cache := s.cache, database := .opened e })) ∧
    s.step .state = ({ database := s.database }, s) := by
  intro s
  have whole : s.database.Whole := whole_run cache before
  refine ⟨?place, ?sessions, ?callers, ?engine, ?standing, ?failed, ?made, rfl, ?again, rfl⟩
  case place =>
    intro x after
    exact ⟨answer_of_run (fresh cache) before after x, run_concat (fresh cache) before x⟩
  case sessions => rw [whole.isSome_eq]
  case callers => exact whole.ready_eq
  case engine =>
    intro e there
    rcases stands_of_run cache before with gone | ⟨url, e', made, stands⟩
    · rw [show s.database = .closed from gone] at there
      cases there
    · rw [show s.database = .opened e' from stands] at there
      obtain rfl := Option.some.inj there
      exact ⟨url, made, made.serves.kept, made.serves.checked⟩
  case standing =>
    intro given there
    exact step_start_of_engine there given
  case failed =>
    intro given fault failed
    exact step_start_of_fault failed
  case made =>
    intro given gone succeeded
    exact step_start_of_made gone succeeded
  case again =>
    intro url e named made
    exact step_start_given (s := fresh s.cache) rfl named made

/-- Settings that were not read yet, in an environment without variables. -/
def bareCache : SettingsCache where
  environment := []
  secrets := fun _ => "drawn"

/-- Attempts to open a database: by a text that is no address, by the settings, and in memory. -/
def attempts : List EngineStep :=
  [.start (some "nonsense"), .start none, .start (some "sqlite+aiosqlite:///:memory:")]

/-- Without variables the settings name a server. Its engine stands after the attempts; a further
start leaves it, and once it is given up a database in memory can be opened. -/
theorem life_of_run_attempts :
    ∃ s, s = ((fresh bareCache).run attempts).2 ∧
      (∃ e url, s.database.engine = some e ∧ e.prePing = true ∧
        MadeFrom bareCache attempts url e ∧ ¬ "sqlite".toList <+: url.toList) ∧
      s.step (.start (some "nonsense")) = ({ database := s.database }, s) ∧
      ((s.step .close).2.step (.start (some "sqlite+aiosqlite:///:memory:"))).1.events =
        [.engineReady "sqlite"] := by
  refine ⟨_, rfl, ?engine, ?standing, ?again⟩
  case engine =>
    have there : ∃ e, ((fresh bareCache).run attempts).2.database.engine = some e ∧
        e.staticPool = false ∧ e.prePing = true := ⟨_, rfl, rfl, rfl⟩
    obtain ⟨e, there, pool, ping⟩ := there
    obtain ⟨-, -, -, engine, -⟩ := life_of_run bareCache attempts
    obtain ⟨url, made, -, checked⟩ := engine e there
    exact ⟨e, url, there, ping, made, checked.1 ⟨pool, ping⟩⟩
  case standing =>
    obtain ⟨-, -, -, -, standing, -⟩ := life_of_run bareCache attempts
    exact standing (some "nonsense") rfl
  case again =>
    have makes : ∃ e, Engine.make "sqlite+aiosqlite:///:memory:" = .ok e ∧ e.backend = "sqlite" :=
      ⟨_, rfl, rfl⟩
    obtain ⟨e, makes, backend⟩ := makes
    obtain ⟨-, -, -, -, -, -, -, -, again, -⟩ := life_of_run bareCache attempts
    rw [again "sqlite+aiosqlite:///:memory:" e (by decide) makes, backend]

end EngineSession

end Runboard
