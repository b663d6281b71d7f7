import Runboard.Error
import Runboard.Stats.History
import Runboard.Store.Insert

/-!
# `Runboard.Store.Query`: reading the tables

The queries of the service. An organization is named by a value whose text is read as an identifier; a
value that names none finds nothing, and most queries about it return without a `SELECT`. Identifiers are
compared as they are stored (`Uuid.sameKey`), and the rows that a query fetches are loaded with their
identifiers: where one of them is stored as a number, the result processor of its column raises, and the
query has no answer (`load`). Lists are ordered by name (`ORDER BY`), equal names in the order in which
they were added, and cut by `LIMIT` and `OFFSET`.

## Contents

* `StoreFault`, `load`: why a query has no answer;
* `AreTexts`, `load_of_areTexts`, `load_of_not_areTexts`: which identifiers are loaded;
* `Organization`: an organization that was found;
* `sortByName`, `pageOf`: the order of lists and their pages;
* `Tables.org?`, `Tables.member?`, `Tables.statistics?`, `Tables.daysOf`, `Tables.snapshotOf`,
  `Tables.workflowsOf`, `Tables.executionCount`, `Tables.visibleApps`: the tables themselves, with what
  they come to for identifiers that are stored as texts (`Tables.org?_eq` and its like);
* `Store.org`, `Store.isMember`, `Store.statistics`, `Store.workflows`, `Store.executionCount`,
  `Store.apps`: the queries.
-/

namespace Runboard

/-- Why a query has no answer. -/
inductive StoreFault where
  | table (fault : TableFault)
  | bind (fault : BindFault)
  /-- An identifier of a row is stored as a number. -/
  | storedId (fault : Uuid.GivenFault)
  /-- A day of a history is not read as a text. -/
  | dayKind
  | failure (failure : Failure)

/-- Why one of some identifiers cannot be loaded, the first that cannot. -/
def loadFault? (ids : List (Option Uuid)) : Option Uuid.GivenFault :=
  ids.findSome? (·.bind Uuid.loadFault?)

/-- Loads the identifiers of rows. -/
def load (ids : List (Option Uuid)) : Except StoreFault Unit :=
  match loadFault? ids with
  | some fault => .error (.storedId fault)
  | none => .ok ()

/-- The identifiers among some that are given are stored as texts. -/
def AreTexts (ids : List (Option Uuid)) : Prop := ∀ u, some u ∈ ids → u.KeptAsText

section Loading
variable {ids ids' : List (Option Uuid)}

theorem areTexts_nil : AreTexts [] := fun _ none => absurd none List.not_mem_nil

theorem areTexts_append : AreTexts (ids ++ ids') ↔ AreTexts ids ∧ AreTexts ids' := by
  simp only [AreTexts, List.mem_append, or_imp, forall_and]

instance (ids : List (Option Uuid)) : Decidable (AreTexts ids) :=
  decidable_of_iff (ids.all fun id => id.all fun u => decide u.KeptAsText) <| by
    simp only [List.all_eq_true, Option.all_eq_true, decide_eq_true_iff]
    exact ⟨fun texts u hu => texts (some u) hu u rfl, fun texts id hid u hu => texts u (hu ▸ hid)⟩

theorem areTexts_of_mem {id : Option Uuid} (texts : AreTexts ids) (h : id ∈ ids) : AreTexts [id] :=
  fun u hu => texts u (List.mem_singleton.1 hu ▸ h)

theorem areTexts_flatMap {α : Type} {rows : List α} {f : α → List (Option Uuid)} :
    AreTexts (rows.flatMap f) ↔ ∀ r ∈ rows, AreTexts (f r) := by
  constructor
  · intro texts r hr u hu
    exact texts u (List.mem_flatMap.2 ⟨r, hr, hu⟩)
  · intro texts u hu
    obtain ⟨r, hr, hu⟩ := List.mem_flatMap.1 hu
    exact texts r hr u hu

/-- What is stored as a text is loaded, and nothing else is. -/
theorem loadFault?_eq_none : loadFault? ids = none ↔ AreTexts ids := by
  rw [loadFault?, List.findSome?_eq_none_iff]
  constructor
  · intro none u hu
    exact Uuid.loadFault?_eq_none.1 (none (some u) hu)
  · intro texts id hid
    cases id with
    | none => rfl
    | some u => exact Uuid.loadFault?_eq_none.2 (texts u hid)

theorem load_of_areTexts (texts : AreTexts ids) : load ids = .ok () := by
  rw [load, loadFault?_eq_none.2 texts]

theorem load_of_not_areTexts (number : ¬ AreTexts ids) :
    ∃ fault, loadFault? ids = some fault ∧ load ids = .error (.storedId fault) := by
  obtain ⟨fault, found⟩ := Option.ne_none_iff_exists'.1 (mt loadFault?_eq_none.1 number)
  exact ⟨fault, found, by rw [load, found]⟩

end Loading

/-- An organization under its identifier. -/
structure Organization where
  id : Uuid
  name : String
  deriving DecidableEq, Repr

/-- How an organization is shown. -/
def Organization.display (o : Organization) : String := "<Organization(name='" ++ o.name ++ "')>"

/-! ## The tables -/

/-- Rows in the order of their names. -/
def sortByName {α : Type} (name : α → String) (rows : List α) : List α :=
  rows.mergeSort fun a b => decide (name a ≤ name b)

theorem sortByName_perm {α : Type} (name : α → String) (rows : List α) :
    (sortByName name rows).Perm rows :=
  List.mergeSort_perm rows _

/-- The rows from an offset on, up to a limit if there is one; a negative limit is none, a negative
offset zero. -/
def pageOf {α : Type} (rows : List α) (limit : Option Int) (offset : Int) : List α :=
  let rest := rows.drop offset.toNat
  match limit with
  | none => rest
  | some n => if n < 0 then rest else rest.take n.toNat

theorem pageOf_subset {α : Type} (rows : List α) (limit : Option Int) (offset : Int) :
    pageOf rows limit offset ⊆ rows := by
  unfold pageOf
  have rest : rows.drop offset.toNat ⊆ rows := List.drop_subset _ _
  cases limit with
  | none => exact rest
  | some n =>
    dsimp only
    split
    · exact rest
    · exact List.Subset.trans (List.take_subset _ _) rest

/-- A page between bounds that are not negative is a part of the rows. -/
theorem pageOf_of_nonneg {α : Type} (rows : List α) {limit offset : Int} (h : 0 ≤ limit) :
    pageOf rows (some limit) offset = (rows.drop offset.toNat).take limit.toNat :=
  if_neg (Int.not_lt.2 h)

namespace Tables

/-- The organization of an identifier. -/
def org? (t : Tables) (id : Uuid) : Option Organization :=
  (t.orgs.find? fun r => r.id.any id.sameKey).map fun r => ⟨id, r.name⟩

/-- The row of a user as a member of an organization. -/
def member? (t : Tables) (org : Uuid) (user : String) : Option MemberRow :=
  t.members.find? fun r => org.sameKey r.orgId && r.userId == user

/-- The counters of an organization. -/
def statistics? (t : Tables) (org : Uuid) : Option StatisticsRow :=
  t.statistics.find? fun r => org.sameKey r.orgId

/-- The completed days of an organization, in the order in which they were added. -/
def daysOf (t : Tables) (org : Uuid) : List DayRow :=
  t.days.filter fun r => org.sameKey r.orgId

/-- The history of an organization, in the order in which its days were added. -/
def history (t : Tables) (org : Uuid) : List (DayEntry Amount) := (t.daysOf org).map DayRow.entry

/-- The snapshot of an organization with some counters, and the event of a changed order. -/
def snapshotOf (t : Tables) (org : Uuid) (row : StatisticsRow) : Snapshot Amount × List Event :=
  let (ordered, events) := orderHistory org.text (t.history org)
  ({ orgId := org.text
     today := row.today
     month := row.month
     totalApiUsage := row.totalApiUsage
     dailyApiUsage := row.dailyApiUsage
     history := ordered }, events)

/-- The workflows of an organization. -/
def workflowsOf (t : Tables) (org : Uuid) : List WorkflowRow :=
  sortByName WorkflowRow.name (t.workflows.filter fun r => org.sameKey r.orgId)

/-- The executions of a workflow, if one is named. -/
def executionsOf (t : Tables) (workflow : Option Uuid) : List ExecutionRow :=
  t.executions.filter fun r => workflow.any (·.sameKey r.workflowId)

/-- The number of executions of a workflow; counting stops at a limit. -/
def executionCount (t : Tables) (workflow : Option Uuid) (limit : Option Int) : Nat :=
  (pageOf (t.executionsOf workflow) limit 0).length

/-- Whether an organization, if one is named, may use an app. -/
def visible (org : Option Uuid) (r : AppRow) : Bool :=
  r.isPublic || org.any fun u => r.orgId.any u.sameKey

/-- The apps that an organization may use. -/
def visibleApps (t : Tables) (org : Option Uuid) : List AppRow :=
  sortByName AppRow.name (t.apps.filter (visible org))

/-! An organization whose identifier is stored as a text is looked for by the identifier itself. -/

section KeptAsText
variable {t : Tables} {u : Uuid} (kept : u.KeptAsText)
include kept

theorem org?_eq : t.org? u = (t.orgs.find? fun r => r.id == some u).map fun r => ⟨u, r.name⟩ := by
  simp only [org?, Uuid.any_sameKey_of_keptAsText kept]

theorem member?_eq (user : String) :
    t.member? u user = t.members.find? fun r => r.orgId == u && r.userId == user := by
  simp only [member?, Uuid.sameKey_eq_of_keptAsText kept]

theorem statistics?_eq : t.statistics? u = t.statistics.find? fun r => r.orgId == u := by
  simp only [statistics?, Uuid.sameKey_eq_of_keptAsText kept]

theorem daysOf_eq : t.daysOf u = t.days.filter fun r => r.orgId == u := by
  simp only [daysOf, Uuid.sameKey_eq_of_keptAsText kept]

theorem workflowsOf_eq :
    t.workflowsOf u = sortByName WorkflowRow.name (t.workflows.filter fun r => r.orgId == u) := by
  simp only [workflowsOf, Uuid.sameKey_eq_of_keptAsText kept]

theorem visible_eq : visible (some u) = fun r => r.isPublic || r.orgId == some u := by
  funext r
  simp only [visible, Option.any_some, Uuid.any_sameKey_of_keptAsText kept]

end KeptAsText

theorem executionsOf_eq {t : Tables} {workflow : Option Uuid} (texts : AreTexts [workflow]) :
    t.executionsOf workflow = t.executions.filter fun r => some r.workflowId == workflow := by
  cases workflow with
  | none => rfl
  | some u =>
    have kept : u.KeptAsText := texts u (List.mem_singleton.2 rfl)
    simp only [executionsOf, Option.any_some, Uuid.sameKey_eq_of_keptAsText kept, Option.some_beq_some]

end Tables

/-! ## Queries -/

namespace Store

/-- An answer from the tables. -/
def ask {α : Type} (v : TableView) (answer : Tables → Except StoreFault α) :
    Except StoreFault α :=
  match v.tables with
  | .error fault => .error (.table fault)
  | .ok t => answer t

/-- The organization that a value names. -/
def org (v : TableView) (id : Json) : Except StoreFault (Option Organization) :=
  match Uuid.ofJson? id with
  | none => .ok none
  | some u =>
    ask v fun t =>
      match t.org? u with
      | none => .ok none
      | some o => (load [o.id]).map fun _ => some o

/-- Whether the user that a value names is a member of the organization that a value names. The primary
key of the row is loaded if there is one. -/
def isMember (v : TableView) (id user : Json) : Except StoreFault Bool :=
  match Uuid.ofJson? id with
  | none => .ok false
  | some u =>
    ask v fun t => do
      let named ← (Bind.text user).mapError .bind
      match named.bind (t.member? u) with
      | none => return false
      | some r => (load [r.id]).map fun _ => true

/-- The snapshot of the organization that a value names. The row of counters is loaded first, then the
rows of days; a row's organization is loaded before its day, and its own identifier after it. -/
def statistics (v : TableView) (id : Json) :
    Except StoreFault (Snapshot Amount × List Event) :=
  match Uuid.ofJson? id with
  | none => .error (.failure (.statisticsNotFound id))
  | some u =>
    ask v fun t =>
      match t.statistics? u with
      | none => .error (.failure (.statisticsNotFound id))
      | some row =>
        match loadFault? row.ids with
        | some fault => .error (.storedId fault)
        | none =>
          if v.readsDays || (t.daysOf u).isEmpty then
            (load ((t.daysOf u).flatMap DayRow.ids)).map fun _ => t.snapshotOf u row
          else .error .dayKind

/-- The workflows of the organization that a value names. -/
def workflows (v : TableView) (id : Json) : Except StoreFault (List WorkflowRow) :=
  match Uuid.ofJson? id with
  | none => .ok []
  | some u =>
    ask v fun t =>
      (load ((t.workflowsOf u).flatMap WorkflowRow.ids)).map fun _ => t.workflowsOf u

/-- The number of executions of a workflow, up to a limit. -/
def executionCount (v : TableView) (workflow : Option Uuid) (limit : Option Int) :
    Except StoreFault Nat :=
  ask v fun t =>
    if limit.all fitsWord then .ok (t.executionCount workflow limit) else .error (.bind .tooLarge)

/-- A page of the apps that the organization named by a value may use. -/
def apps (v : TableView) (id : Json) (limit offset : Option Int) :
    Except StoreFault (List AppRow) :=
  ask v fun t =>
    if limit.all fitsWord && offset.all fitsWord then
      let page := pageOf (t.visibleApps (Uuid.ofJson? id)) limit (offset.getD 0)
      (load (page.flatMap AppRow.ids)).map fun _ => page
    else .error (.bind .tooLarge)

end Store

end Runboard
