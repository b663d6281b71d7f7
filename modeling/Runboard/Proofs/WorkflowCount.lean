import Runboard.Proofs.ChartAnswer

/-!
# `Runboard.Proofs.WorkflowCount`: workflows that were never executed

The page of the workflows tells how many workflows an organization has, and how many of them have no
execution. Of each workflow at most one execution is counted, since one is enough to know that it was
executed: a count up to a limit is the smaller one of the limit and the full count, so it is zero up
to one exactly if it is zero at all.

Executions of other workflows do not count, be they of the same organization, of another or of none,
and whatever their states are. Workflows whose identifiers are stored as one number count as one here; but
the page tells nothing of such workflows, since their rows are not loaded.

## Contents

* `Store.executionCount_full`, `Store.executionCount_limited`, `Store.probe_iff`: counts without a
  limit and with one;
* `Tables.Unexecuted`, `Tables.length_workflowsOf`, `Tables.countP_workflowsOf`: the two figures;
* `Service.workflows_counted`: what the page tells, and how it is counted.
-/

namespace Runboard

/-! ## Counting executions -/

namespace Store
variable {v : TableView} {t : Tables}

/-- All executions under the key of a workflow are counted, and no others. -/
theorem executionCount_full (seen : v.tables = .ok t) (workflow : Option Uuid) :
    executionCount v workflow none =
      .ok (t.executions.countP fun e => workflow.any (·.sameKey e.workflowId)) := by
  rw [executionCount, Page.ask_eq seen, List.countP_eq_length_filter]
  rfl

/-- Where the identifier of a workflow is stored as a text, these are its own executions. -/
theorem executionCount_full_of_text (seen : v.tables = .ok t) {workflow : Option Uuid}
    (texts : AreTexts [workflow]) :
    executionCount v workflow none =
      .ok (t.executions.countP fun e => some e.workflowId == workflow) := by
  have all : executionCount v workflow none = .ok (t.executionsOf workflow).length := by
    rw [executionCount, Page.ask_eq seen]
    rfl
  rw [all, Tables.executionsOf_eq texts, List.countP_eq_length_filter]

/-- A count up to a limit is the full one as far as the limit. -/
theorem executionCount_limited (v : TableView) (workflow : Option Uuid) {limit : Int}
    (low : 0 ≤ limit) (high : limit < 2 ^ 63) :
    executionCount v workflow (some limit) =
      (executionCount v workflow none).map (min limit.toNat) := by
  have fits : Option.all fitsWord (some limit) = true := fitsWord_of_nonneg low high
  unfold executionCount ask
  cases v.tables with
  | error fault => rfl
  | ok t =>
    simp only [fits, ↓reduceIte, Tables.executionCount, pageOf_of_nonneg _ low, List.length_take]
    rfl

/-- One execution is found exactly if there is one. -/
theorem probe_iff (v : TableView) (workflow : Option Uuid) :
    executionCount v workflow (some 1) = .ok 0 ↔ executionCount v workflow none = .ok 0 := by
  rw [executionCount_limited v workflow (by decide) (by decide)]
  cases executionCount v workflow none with
  | error fault =>
    constructor
    · intro found
      cases found
    · intro found
      cases found
  | ok n =>
    have least : min (1 : Int).toNat n = 0 ↔ n = 0 := by omega
    simp only [Except.map, Except.ok.injEq, least]

/-- What names no workflow has no executions, up to whatever limit. -/
theorem executionCount_none (seen : v.tables = .ok t) {limit : Option Int}
    (fits : limit.all fitsWord = true) : executionCount v none limit = .ok 0 := by
  have none : t.executionsOf none = [] := List.filter_eq_nil_iff.2 fun e _ => Bool.noConfusion
  rw [executionCount, Page.ask_eq seen, if_pos fits, Tables.executionCount, none]
  unfold pageOf
  cases limit <;> simp

end Store

/-! ## The two figures -/

namespace Tables

/-- No execution is one of the workflow, in whatever state. -/
def Unexecuted (t : Tables) (w : WorkflowRow) : Prop :=
  ∀ e ∈ t.executions, w.id ≠ some e.workflowId

instance (t : Tables) (w : WorkflowRow) : Decidable (t.Unexecuted w) :=
  inferInstanceAs (Decidable (∀ e ∈ t.executions, w.id ≠ some e.workflowId))

theorem isEmpty_executionsOf_iff (t : Tables) {w : WorkflowRow} (texts : AreTexts [w.id]) :
    (t.executionsOf w.id).isEmpty = true ↔ t.Unexecuted w := by
  rw [List.isEmpty_iff, executionsOf_eq texts, List.filter_eq_nil_iff]
  constructor
  · intro none e he same
    exact none e he (beq_iff_eq.2 same.symm)
  · intro none e he same
    exact none e he (eq_of_beq same).symm

section Figures
variable (t : Tables) {u : Uuid} (kept : u.KeptAsText)
include kept

theorem length_workflowsOf : (t.workflowsOf u).length = t.workflows.countP (·.orgId = u) := by
  rw [(workflowsOf_perm t kept).length_eq, List.countP_eq_length_filter]
  rfl

theorem countP_workflowsOf (texts : AreTexts ((t.workflowsOf u).flatMap WorkflowRow.ids)) :
    ((t.workflowsOf u).countP fun w => (t.executionsOf w.id).isEmpty) =
      t.workflows.countP fun w => w.orgId = u ∧ t.Unexecuted w := by
  have unexecuted : ((t.workflowsOf u).countP fun w => (t.executionsOf w.id).isEmpty) =
      (t.workflowsOf u).countP fun w => t.Unexecuted w := by
    refine List.countP_congr fun w hw => ?_
    have loaded := areTexts_of_mem (areTexts_flatMap.1 texts w hw)
      (List.mem_cons_of_mem _ List.mem_cons_self)
    rw [isEmpty_executionsOf_iff t loaded, decide_eq_true_iff]
  rw [unexecuted, (workflowsOf_perm t kept).countP_eq, List.countP_filter]
  apply List.countP_congr
  intro w _
  rw [Bool.and_eq_true, decide_eq_true_iff, beq_iff_eq, decide_eq_true_iff]
  exact And.comm

end Figures

end Tables

/-! ## Answers -/

namespace Service

/-- The workflows of an organization are counted, and so are those that were never executed. Whoever
is admitted to the organization is told how many of its workflows there are and how many of them have no
execution, in whatever state, so the second number is never the greater one; but only if nothing stands in
the way of the check of access and all these workflows are loaded, and otherwise there is no prepared
answer. A count up to a limit is the smaller one of the limit and the full count of the executions under
the key of the workflow, which are its own if its identifier is stored as a text. One is enough to tell a
workflow that was never executed, and what names no workflow has no executions. -/
theorem workflows_counted (v : TableView) :
    (∀ (s : Service) (r : Request) (k : KeptSettings) (cache : SettingsCache) (c : Caller) (t : Tables),
      r.Visits .workflows → s.cache.get = (.ok k, cache) → r.IsFrom s.room k.settings s.now c →
      s.database.view = v → v.tables = .ok t → t.Admits c →
      ∃ u, Uuid.ofJson? c.orgId = some u ∧
        (¬ t.Chokes c → AreTexts ((t.workflowsOf u).flatMap WorkflowRow.ids) →
          ∃ all unexecuted : Nat, all = t.workflows.countP (·.orgId = u) ∧
          unexecuted = (t.workflows.countP fun w => w.orgId = u ∧ t.Unexecuted w) ∧
          unexecuted ≤ all ∧
          (s.answer r).1.response.status = 200 ∧
          (s.answer r).1.response.body = .json (.obj [("success", .bool true), ("data", .obj [
            ("workflows", .int all), ("unexecuted_workflows", .int unexecuted)])])) ∧
        (t.Chokes c ∨ ¬ AreTexts ((t.workflowsOf u).flatMap WorkflowRow.ids) →
          (s.answer r).1.response = .internalError)) ∧
    (∀ (workflow : Option Uuid) (limit : Int), 0 ≤ limit → limit < 2 ^ 63 →
      Store.executionCount v workflow (some limit) =
        (Store.executionCount v workflow none).map (min limit.toNat)) ∧
    (∀ (t : Tables) (workflow : Option Uuid), v.tables = .ok t →
      Store.executionCount v workflow none =
        .ok (t.executions.countP fun e => workflow.any (·.sameKey e.workflowId)) ∧
      (AreTexts [workflow] → Store.executionCount v workflow none =
        .ok (t.executions.countP fun e => some e.workflowId == workflow))) ∧
    (∀ workflow : Option Uuid,
      Store.executionCount v workflow (some 1) = .ok 0 ↔
        Store.executionCount v workflow none = .ok 0) ∧
    ∀ (t : Tables) (id : Json) (limit : Option Int), v.tables = .ok t →
      Uuid.ofJson? id = none → limit.all fitsWord = true →
      Store.executionCount v (Uuid.ofJson? id) limit = .ok 0 := by
  refine ⟨?answers, ?limited, ?full, Store.probe_iff v, ?malformed⟩
  case answers =>
    rintro s r k cache c t visits kept isFrom rfl seen admitted
    obtain ⟨u, parsed, -⟩ := id admitted.1
    have loaded : Page.loadedIds k.settings t c.orgId .workflows =
        (t.workflowsOf u).flatMap WorkflowRow.ids := by
      rw [Page.loadedIds, workflowsNamed_eq parsed]
    refine ⟨u, parsed, ?_, ?_⟩
    · intro clear texts
      obtain ⟨user, named⟩ := isFrom.userId
      have text : u.KeptAsText :=
        admitted.1.keptAsText (fun number => clear (.inr (.inr (.inl number)))) parsed
      have read : pageResult k.settings s.database.view c .workflows =
          .ok (.workflows (t.workflows.countP (·.orgId = u))
            (t.workflows.countP fun w => w.orgId = u ∧ t.Unexecuted w)) := by
        rw [pageResult, (authorized_iff seen named).2 ⟨admitted, clear⟩]
        simp only [Page.read, Page.readWorkflows_eq seen (loaded.symm ▸ texts),
          workflowsNamed_eq parsed]
        rw [t.length_workflowsOf text, t.countP_workflowsOf text texts]
        rfl
      have fewer : (t.workflows.countP fun w => w.orgId = u ∧ t.Unexecuted w) ≤
          t.workflows.countP (·.orgId = u) := by
        apply List.countP_mono_left
        intro w _ counted
        exact decide_eq_true (of_decide_eq_true counted).1
      exact ⟨_, _, rfl, rfl, fewer, answer_of_data visits kept isFrom seen read rfl⟩
    · intro number
      rw [← loaded] at number
      exact unanswered_of_number visits kept isFrom seen admitted number
  case limited =>
    intro workflow limit low high
    exact Store.executionCount_limited v workflow low high
  case full =>
    intro t workflow seen
    exact ⟨Store.executionCount_full seen workflow, Store.executionCount_full_of_text seen⟩
  case malformed =>
    intro t id limit seen malformed fits
    rw [malformed]
    exact Store.executionCount_none seen fits

/-- Tables with workflows of two organizations, two of them with one name, and executions of one
workflow, of a workflow of the other organization, and of a workflow that does not exist. -/
def workedAcme : Tables :=
  { acme with
    workflows :=
      [⟨some ⟨0xa0⟩, ⟨0xa⟩, "sync"⟩, ⟨some ⟨0xa1⟩, ⟨0xa⟩, "sync"⟩, ⟨some ⟨0xb0⟩, ⟨0xb⟩, "sync"⟩,
        ⟨some ⟨0xa2⟩, ⟨0xa⟩, "clean"⟩, ⟨some ⟨0xb1⟩, ⟨0xb⟩, "clean"⟩]
    executions :=
      [⟨none, ⟨0xa0⟩, .finished⟩, ⟨none, ⟨0xa0⟩, .aborted⟩, ⟨none, ⟨0xb0⟩, .executing⟩,
        ⟨none, ⟨0xc0⟩, .finished⟩] }

theorem keepsTexts_workedAcme : workedAcme.KeepsTexts := by
  constructor <;> decide +kernel

/-- A member is told of three workflows of which two were never executed, and of two executions one
is enough to know. -/
theorem workflows_counted_workedAcme :
    ((plainService workedAcme).answer
        (plainVisit "/api/v1/dashboard/workflows" "u-1" acmeId false)).1.response.body =
      .json (.obj [("success", .bool true), ("data", .obj [("workflows", .int 3),
        ("unexecuted_workflows", .int 2)])]) ∧
    Store.executionCount (plainService workedAcme).database.view (some ⟨0xa0⟩) (some 1) = .ok 1 ∧
    Store.executionCount (plainService workedAcme).database.view (some ⟨0xa0⟩) (some 5) = .ok 2 ∧
    Store.executionCount (plainService workedAcme).database.view (Uuid.ofJson? (.str "sync"))
      (some 5) = .ok 0 := by
  obtain ⟨answers, limited, full, -, malformed⟩ :=
    workflows_counted (plainService workedAcme).database.view
  have seen := tables_plainService workedAcme
  have visits : (plainVisit "/api/v1/dashboard/workflows" "u-1" acmeId false).Visits .workflows :=
    visits_withBearer rfl rfl trivial
  have isFrom := isFrom_acmeVisit "/api/v1/dashboard/workflows" "u-1" false (by decide) (by decide)
  obtain ⟨admitted, clear⟩ := admits_acmeMember (t := workedAcme) rfl rfl
  have counted := (full workedAcme (some ⟨0xa0⟩) seen).2 (by decide +kernel)
  refine ⟨?body, ?one, ?five, ?malformed⟩
  case body =>
    obtain ⟨u, parsed, shown, -⟩ := answers (plainService workedAcme) _ _ _ _ workedAcme visits
      (kept_plainService workedAcme) isFrom rfl seen admitted
    obtain rfl := Option.some.inj (acmeId_parsed.symm.trans parsed)
    have texts := Page.areTexts_loadedIds keepsTexts_workedAcme plainSettings (.str acmeId) .workflows
    rw [Page.loadedIds, workflowsNamed_eq acmeId_parsed] at texts
    obtain ⟨all, unexecuted, rfl, rfl, -, -, body⟩ := shown clear texts
    exact body
  case one =>
    rw [limited _ 1 (by decide) (by decide), counted]
    rfl
  case five =>
    rw [limited _ 5 (by decide) (by decide), counted]
    rfl
  case malformed => exact malformed workedAcme _ _ seen (by decide +kernel) (by decide)

/-- A member of an organization whose identifier is stored as a number is not told of its workflows, which
are none. -/
theorem not_workflows_counted_exponentAcme :
    (plainVisit "/api/v1/dashboard/workflows" "u-1" exponentId false).IsFrom plainRoom plainSettings
        (plainService exponentAcme).now (Token.namedCaller "u-1" "" exponentId false) ∧
      exponentAcme.Admits (Token.namedCaller "u-1" "" exponentId false) ∧
      ((plainService exponentAcme).answer
        (plainVisit "/api/v1/dashboard/workflows" "u-1" exponentId false)).1.response =
          .internalError := by
  have visits : (plainVisit "/api/v1/dashboard/workflows" "u-1" exponentId false).Visits
      .workflows := visits_withBearer rfl rfl trivial
  refine ⟨isFrom_exponentVisit _ "u-1" (by decide) (by decide), admits_exponentAcme, ?_⟩
  exact answer_of_exponentVisit ⟨_, List.mem_singleton.2 rfl, rfl⟩ (by decide) (by decide) visits

end Service

end Runboard
