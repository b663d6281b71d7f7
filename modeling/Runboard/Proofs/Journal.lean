import Mathlib.Data.List.Basic
import Runboard.Service.Session

/-!
# `Runboard.Proofs.Journal`: what the journal hears in a run

What a step leaves for the journal is recorded if its logger takes records of its level. The levels
are set when a service is started up, and no other step touches them. A start sets the level of the
root to one that lets ordinary events through, and gives no logger of the service a level of its
own, so a journal that hears the ordinary events of access goes on hearing them.

Only requests touch the context, and each clears it in the end. So it is empty between any two steps,
and a request that begins finds nothing in it of those before.

A run is the reports of its steps, each made by the service that the steps before it have left.

## Contents

* `run_append`, `length_run`, `report_of_run`, `report_of_mem`: the reports of a run;
* `run_invariant`: what each step preserves;
* `Service.journal`, `journal_step`: what the journal goes by;
* `Service.standing`, with one lemma for each thing that a service does: what few steps touch;
* `setup_step_of_ne`: only a start touches the levels;
* `journal_launch`, `context_step`, `context_run`: the context is empty between steps;
* `numbered_step`, `numbered_run`: the numbers of requests only grow;
* `LogSetup.enabled_configure`, `levelNamed_levelNameFor`: what a start leaves enabled;
* `Service.Hears`, `hears_step`, `hears_run`: ordinary events of access are heard.
-/

namespace Runboard

/-! ## Runs -/

namespace Service

theorem run_append (s : Service) (xs ys : List ServiceStep) :
    s.run (xs ++ ys) =
      ((s.run xs).1 ++ ((s.run xs).2.run ys).1, ((s.run xs).2.run ys).2) := by
  induction xs generalizing s with
  | nil => rfl
  | cons x rest ih =>
    show ((s.report x).1 :: ((s.report x).2.run (rest ++ ys)).1,
      ((s.report x).2.run (rest ++ ys)).2) = _
    rw [ih]
    rfl

theorem length_run (s : Service) (steps : List ServiceStep) :
    (s.run steps).1.length = steps.length := by
  induction steps generalizing s with
  | nil => rfl
  | cons x rest ih =>
    rw [run, List.length_cons]
    exact congrArg (· + 1) (ih (s.report x).2)

/-- The report of a step stands in the place of the step, and is made by the service that the steps
before it have left. -/
theorem report_of_run (s : Service) (before after : List ServiceStep) (x : ServiceStep) :
    (s.run (before ++ x :: after)).1[before.length]? = some ((s.run before).2.report x).1 := by
  rw [run_append, List.getElem?_append_right (Nat.le_of_eq (length_run s before)), length_run,
    Nat.sub_self]
  rfl

/-- Every report of a run is made in a state that is reached. -/
theorem report_of_mem {s : Service} {steps : List ServiceStep} {report : StepReport}
    (listed : report ∈ (s.run steps).1) :
    ∃ before x, before ++ [x] <+: steps ∧ report = ((s.run before).2.report x).1 := by
  induction steps generalizing s with
  | nil => cases listed
  | cons x rest ih =>
    rcases List.mem_cons.1 listed with rfl | later
    · exact ⟨[], x, by simp, rfl⟩
    · obtain ⟨before, y, within, rfl⟩ := ih later
      exact ⟨x :: before, y, List.cons_prefix_cons.2 ⟨rfl, within⟩, rfl⟩

/-- What each step of a run preserves holds at its end. -/
theorem run_invariant {p : Service → Prop} {steps : List ServiceStep}
    (preserved : ∀ x ∈ steps, ∀ s : Service, p s → p (s.step x).2) {s : Service} (begins : p s) :
    p (s.run steps).2 := by
  induction steps generalizing s with
  | nil => exact begins
  | cons x rest ih =>
    have first : p (s.step x).2 := preserved x List.mem_cons_self s begins
    exact ih (fun y hy => preserved y (List.mem_cons_of_mem x hy)) first

/-! ## Levels and context -/

/-- What the journal of a service goes by: the levels, the context of the moment, and the number of
requests without an identifier. -/
def journal (s : Service) : LogSetup × LogContext × Nat := (s.setup, s.context, s.numbered)

/-- What few steps touch: what was fixed when the service was put together, and what the journal goes
by. -/
def standing (s : Service) : Facade × LogSetup × LogContext × Nat := (s.facade, s.journal)

section Journal
variable {s : Service}

theorem standing_withSession {α : Type} (work : Database → Traced StepFault α) :
    (s.withSession work).2.standing = s.standing := by
  unfold withSession
  split <;> rfl

theorem standing_insert (table : Table) (columns : Columns) :
    (s.insert table columns).2.standing = s.standing := by
  unfold insert
  split
  · rfl
  · split <;> rfl

theorem standing_insertAll (table : Table) (rows : List Columns) :
    (s.insertAll table rows).2.standing = s.standing := by
  induction rows generalizing s with
  | nil => rfl
  | cons columns rest ih => exact ih.trans (standing_insert table columns)

theorem standing_insertWithin (table : Table) (columns : Columns) (keep : Bool) (failing : String) :
    (s.insertWithin table columns keep failing).2.standing = s.standing := by
  have opened := @standing_withSession s _
    (fun d => (.ofExcept ((addedTo d table columns).mapError .row) : Traced StepFault Tables))
  unfold insertWithin
  split
  · next heq =>
    rw [heq] at opened
    exact opened
  · next heq =>
    rw [heq] at opened
    dsimp only
    split <;> cases keep <;> exact opened

theorem standing_advance (seconds : Int) : (s.advance seconds).2.standing = s.standing := by
  unfold advance
  split <;> rfl

theorem standing_changeTables (change : Database → Except TableFault Database) :
    (s.changeTables change).2.standing = s.standing := by
  unfold changeTables
  split
  · rfl
  · split <;> rfl

theorem standing_shutDown : s.shutDown.2.standing = s.standing := by
  unfold shutDown
  split <;> rfl

/-- A start leaves the facade, the context and the numbers. -/
theorem standing_startUp :
    s.startUp.2.facade = s.facade ∧ s.startUp.2.journal.2 = s.journal.2 := by
  unfold startUp
  dsimp only
  split
  · exact ⟨rfl, rfl⟩
  · split <;> next heq =>
      have left := fun s : Service => @standing_changeTables s Database.created
      exact ⟨(congrArg (fun x => x.2.facade) heq).symm.trans (congrArg (·.1) (left _)),
        (congrArg (fun x => x.2.journal.2) heq).symm.trans (congrArg (·.2.2) (left _))⟩

theorem journal_changeEnvironment (changes : List (String × Option Json))
    (dropSettings rebuilding : Bool) :
    (s.changeEnvironment changes dropSettings rebuilding).2.journal = s.journal := by
  unfold changeEnvironment
  split
  · rfl
  · cases rebuilding with
    | false => rfl
    | true =>
      show (rebuild _).2.journal = s.journal
      unfold rebuild
      split <;> rfl

/-- What a step does to the journal: a start may change the levels, a request goes its own way, and
any other step leaves all as it is. -/
theorem journal_step (s : Service) (x : ServiceStep) :
    (s.step x).2.journal = s.journal ∨
      (x = .startUp ∧ (s.step x).2.journal.2 = s.journal.2) ∨
      ∃ cache r, (s.step x).2 = ({ s with cache := cache }.request r).2 := by
  cases x with
  | ask q => exact .inl (congrArg Prod.snd (standing_withSession _))
  | insert table rows => exact .inl (congrArg Prod.snd (standing_insertAll table rows))
  | insertWithin table row keep failing =>
    exact .inl (congrArg Prod.snd (standing_insertWithin table row keep failing))
  | request r order =>
    cases order with
    | none => exact .inr (.inr ⟨s.cache, r, rfl⟩)
    | some order =>
      show (s.requestWith r (some order)).2.journal = s.journal ∨ _ ∨
        ∃ cache r', (s.requestWith r (some order)).2 = ({ s with cache := cache }.request r').2
      unfold requestWith
      dsimp only
      split
      · exact .inl rfl
      · exact .inr (.inr ⟨_, _, rfl⟩)
  | advance seconds => exact .inl (congrArg Prod.snd (standing_advance seconds))
  | environment changes dropSettings rebuilding =>
    exact .inl (journal_changeEnvironment changes dropSettings rebuilding)
  | createTables => exact .inl (congrArg Prod.snd (standing_changeTables Database.created))
  | dropTables => exact .inl (congrArg Prod.snd (standing_changeTables Database.dropped))
  | close => exact .inl rfl
  | startUp => exact .inr (.inl ⟨rfl, standing_startUp.2⟩)
  | shutDown => exact .inl (congrArg Prod.snd standing_shutDown)

/-- Only a start touches the levels. -/
theorem setup_step_of_ne {x : ServiceStep} (other : x ≠ .startUp) :
    (s.step x).2.setup = s.setup := by
  rcases journal_step s x with same | ⟨start, -⟩ | ⟨cache, r, made⟩
  · exact congrArg Prod.fst same
  · exact absurd start other
  · rw [made]
    rfl

/-- A start leaves the levels as they were, or configures them for the settings. -/
theorem setup_startUp : s.startUp.2.setup = s.setup ∨ ∃ settings : Settings,
    s.setup.configure settings.environment (levelNameFor settings) = .ok s.startUp.2.setup := by
  unfold startUp
  dsimp only
  split
  · exact .inl rfl
  · next kept cache _ =>
    cases configured : s.setup.configure kept.settings.environment (levelNameFor kept.settings) with
    | error fault =>
      refine .inl ?_
      dsimp only
      split <;> next heq =>
        exact (congrArg (fun x => x.2.setup) heq).symm.trans
          (congrArg (·.2.1) (standing_changeTables _))
    | ok setup =>
      refine .inr ⟨kept.settings, configured.trans (congrArg Except.ok ?_)⟩
      dsimp only
      split <;> next heq =>
        exact (congrArg (·.2.1) (standing_changeTables _)).symm.trans
          (congrArg (fun x => x.2.setup) heq)

/-- No step leaves anything in the context: a request clears it, and no other step touches it. -/
theorem context_step (clear : s.context = .empty) (x : ServiceStep) :
    (s.step x).2.context = .empty := by
  rcases journal_step s x with same | ⟨-, same⟩ | ⟨cache, r, made⟩
  · exact (congrArg (·.2.1) same).trans clear
  · exact (congrArg Prod.fst same).trans clear
  · rw [made]
    rfl

theorem context_run (clear : s.context = .empty) (steps : List ServiceStep) :
    (s.run steps).2.context = .empty :=
  run_invariant (p := (·.context = .empty)) (fun x _ _ clear => context_step clear x) clear

/-- No step goes back in the numbers of requests. -/
theorem numbered_step (s : Service) (x : ServiceStep) : s.numbered ≤ (s.step x).2.numbered := by
  rcases journal_step s x with same | ⟨-, same⟩ | ⟨cache, r, made⟩
  · exact Nat.le_of_eq (congrArg (·.2.2) same).symm
  · exact Nat.le_of_eq (congrArg Prod.snd same).symm
  · rw [made]
    show s.numbered ≤ ({ s with cache := cache }.requestId r).2
    unfold requestId
    split
    · exact Nat.le_refl _
    · exact Nat.le_succ _

theorem numbered_run (s : Service) (steps : List ServiceStep) :
    s.numbered ≤ (s.run steps).2.numbered :=
  run_invariant (p := (s.numbered ≤ ·.numbered))
    (fun x _ s' reached => Nat.le_trans reached (numbered_step s' x)) (Nat.le_refl _)

/-- A service that was put together has the levels that it found, nothing in its context, and has numbered
no request. -/
theorem journal_launch {environment : Environment} {secrets : Nat → String} {room : StackRoom}
    {setup : LogSetup} {now : Instant} {withDatabase : Bool}
    (h : Service.launch environment secrets room setup now withDatabase = .ok s) :
    s.journal = (setup, .empty, 0) := by
  unfold launch at h
  split at h
  · cases h
  · obtain rfl := Checked.ok.inj h
    rfl

end Journal

end Service

/-! ## What is heard -/

/-- The logger of access. -/
def accessLogger : String := "exec_stats.security.auth"

namespace LogSetup

/-- The level of its own that a logger has. -/
def ownLevel? (s : LogSetup) (name : String) : Option Level :=
  match Fields.get? s.levels name with
  | some l => if l = 0 then none else some l
  | none => none

theorem enabled_iff {s : LogSetup} {logger : String} {l : Level} :
    s.enabled logger l = true ↔
      0 < l ∧ ((lineage logger).filterMap s.ownLevel?).headD s.rootLevel ≤ l := by
  rw [enabled, Bool.and_eq_true, decide_eq_true_eq, decide_eq_true_eq]
  rfl

/-- Whether a logger is heard depends on the levels of its lineage and on the root. -/
theorem enabled_of_lineage {s s' : LogSetup} {logger : String} {l : Level}
    (own : ∀ name ∈ lineage logger, Fields.get? s'.levels name = Fields.get? s.levels name)
    (root : s'.rootLevel ≤ l) (heard : s.enabled logger l = true) : s'.enabled logger l = true := by
  have levels : (lineage logger).filterMap s'.ownLevel? = (lineage logger).filterMap s.ownLevel? := by
    refine List.filterMap_congr fun name hname => ?_
    rw [ownLevel?, ownLevel?, own name hname]
  rw [enabled_iff] at heard ⊢
  rw [levels]
  -- A logger whose lineage has a level keeps it; the others have the level of the root.
  cases found : (lineage logger).filterMap s.ownLevel? with
  | nil => exact ⟨heard.1, root⟩
  | cons first rest =>
    rw [found] at heard
    exact heard

/-- Configuring at a level that lets ordinary events through leaves those of access heard. -/
theorem enabled_configure {s s' : LogSetup} {environment level : String} {l : Level}
    (named : levelNamed level = .ok l) (low : l ≤ Level.info)
    (configured : s.configure environment level = .ok s')
    (heard : s.enabled accessLogger Level.info = true) :
    s'.enabled accessLogger Level.info = true := by
  rw [configure_eq, named] at configured
  obtain rfl := Except.ok.inj configured
  have apart : ∀ name ∈ lineage accessLogger, name ∉ quietLoggers := by decide
  refine enabled_of_lineage (fun name hname => ?_) low heard
  exact (get?_quieted s.levels name).trans (if_neg (apart name hname))

end LogSetup

namespace Service

/-- The journal records the ordinary events of access. -/
def Hears (s : Service) : Prop := s.setup.enabled accessLogger Level.info = true

/-- The level of a service has a name. -/
theorem levelNamed_levelNameFor (settings : Settings) :
    levelNamed (levelNameFor settings) =
      .ok (if settings.debug then Level.debug else Level.info) := by
  rw [levelNameFor]
  cases settings.debug with
  | true => rfl
  | false => rfl

/-- Whatever a service does, it goes on hearing. -/
theorem hears_step {s : Service} (h : s.Hears) (x : ServiceStep) : (s.step x).2.Hears := by
  by_cases start : x = .startUp
  · subst start
    show s.startUp.2.setup.enabled accessLogger Level.info = true
    rcases @setup_startUp s with same | ⟨settings, configured⟩
    · rw [same]
      exact h
    · -- Whether the service is debugged or not, the level of the root is low enough.
      have low : (if settings.debug then Level.debug else Level.info) ≤ Level.info := by
        split <;> decide
      exact LogSetup.enabled_configure (levelNamed_levelNameFor settings) low configured h
  · show (s.step x).2.setup.enabled accessLogger Level.info = true
    rw [setup_step_of_ne start]
    exact h

/-- In all that a service goes through, it goes on hearing. -/
theorem hears_run {s : Service} (h : s.Hears) (steps : List ServiceStep) :
    (s.run steps).2.Hears :=
  run_invariant (p := Hears) (fun x _ _ hears => hears_step hears x) h

end Service

end Runboard
