import Mathlib.Algebra.Group.Nat.Defs
import Runboard.Proofs.ChartAnswer

/-!
# `Runboard.Proofs.AppPages`: apps and their pages

An organization may use the apps that are public, whoever owns them, and its own. A value that names
no organization may use the public ones only. These apps stand in the order of their names, each as
often as it was added, and apps of one name stand as they were added. A page is a part of that list:
it is as long as its limit, as far as the list reaches, and starts at its offset. So pages of one
size, each of which starts where the one before ends, put one after another, are the list again.

A page is there if the identifiers of its apps and of their owners are stored as texts. Where one is
stored as a number its row is not loaded, and the page that it stands on raises.

## Contents

* `sortByName_sorted`, `filter_sortByName`: the order of names;
* `Tables.visible_iff`, `Tables.filter_visible_own`, `Tables.filter_visible_shared`,
  `Tables.length_visibleApps`: who may use an app;
* `Store.apps_eq`, `Store.mem_apps`, `Store.appsOfPages`, `Store.appsOfPages_eq`: pages, and pages one
  after another;
* `Service.apps_paged`: what the pages are, and what is told of them.
-/

namespace Runboard

/-! ## The order of names -/

section ByName
variable {α : Type} (name : α → String) (rows : List α)

theorem sortByName_sorted : (sortByName name rows).Pairwise fun a b => name a ≤ name b :=
  pairwise_mergeSort_key name rows

/-- Rows of one name stay as they were added. -/
theorem filter_sortByName (s : String) :
    (sortByName name rows).filter (name · = s) = rows.filter (name · = s) :=
  filter_mergeSort_key name rows s

end ByName

/-! ## Who may use an app -/

namespace Tables
variable (t : Tables) (org : Option Uuid)

/-- An app may be used by everybody if it is public, and by the organization under whose key its owner is
stored. -/
theorem visible_iff (a : AppRow) :
    visible org a = true ↔
      a.isPublic = true ∨ ∃ u, org = some u ∧ ∃ w, a.orgId = some w ∧ u.sameKey w = true := by
  rw [visible, Bool.or_eq_true]
  cases org with
  | none => simp
  | some u => simp only [Option.any_some, Option.any_eq_true, Option.some.injEq, exists_eq_left']

/-- An app that is loaded belongs to the organization under whose key its owner is stored. -/
theorem visible_iff_of_areTexts {a : AppRow} (texts : AreTexts a.ids) :
    visible org a = true ↔ a.isPublic = true ∨ ∃ u, org = some u ∧ a.orgId = some u := by
  rw [visible_iff]
  refine or_congr_right (exists_congr fun u => and_congr_right fun _ => ?_)
  constructor
  · rintro ⟨w, owner, same⟩
    have kept : w.KeptAsText := texts w (owner ▸ List.mem_cons_self)
    rw [Uuid.sameKey_comm, Uuid.sameKey_iff_of_keptAsText kept] at same
    exact same ▸ owner
  · intro owner
    exact ⟨u, owner, u.sameKey_refl⟩

/-- The apps that an organization may use are the public ones and its own. -/
theorem filter_visible_own {u : Uuid} (kept : u.KeptAsText) :
    t.apps.filter (visible (some u)) =
      t.apps.filter fun a => a.isPublic = true ∨ a.orgId = some u := by
  apply List.filter_congr
  intro a _
  rw [visible_eq kept, Bool.eq_iff_iff, decide_eq_true_iff, Bool.or_eq_true, beq_iff_eq]

/-- Without an organization, they are the public ones. -/
theorem filter_visible_shared :
    t.apps.filter (visible none) = t.apps.filter fun a => a.isPublic = true := by
  apply List.filter_congr
  intro a _
  rw [Bool.eq_iff_iff, visible_iff, decide_eq_true_iff]
  simp only [reduceCtorEq, false_and, exists_const, or_false]

theorem visibleApps_perm : (t.visibleApps org).Perm (t.apps.filter (visible org)) :=
  sortByName_perm _ _

/-- An organization whose identifier is stored as a text may use the public apps and its own. -/
theorem length_visibleApps {u : Uuid} (kept : u.KeptAsText) :
    (t.visibleApps (some u)).length =
      t.apps.countP fun a => a.isPublic = true ∨ a.orgId = some u := by
  rw [(t.visibleApps_perm _).length_eq, t.filter_visible_own kept, List.countP_eq_length_filter]

/-- Apps of one name stand as they were added. -/
theorem filter_visibleApps_sublist (name : String) :
    ((t.visibleApps org).filter (·.name = name)).Sublist t.apps := by
  rw [visibleApps, filter_sortByName]
  exact List.filter_sublist.trans List.filter_sublist

end Tables

/-! ## Pages -/

section Loading
variable {ids ids' : List (Option Uuid)}

theorem load_append : load (ids ++ ids') = (load ids).bind fun _ => load ids' := by
  unfold load loadFault?
  rw [List.findSome?_append]
  cases ids.findSome? (·.bind Uuid.loadFault?) with
  | some fault => rfl
  | none => rfl

/-- What is fetched is there if it is loaded, and raises otherwise. -/
theorem map_load_cases {α : Type} (ids : List (Option Uuid)) (rows : α) :
    (AreTexts ids → (load ids).map (fun _ => rows) = .ok rows) ∧
    (¬ AreTexts ids → ∃ fault, (load ids).map (fun _ => rows) = .error (.storedId fault)) := by
  constructor
  · intro texts
    rw [load_of_areTexts texts]
    rfl
  · intro number
    obtain ⟨fault, -, stopped⟩ := load_of_not_areTexts number
    exact ⟨fault, by rw [stopped]; rfl⟩

end Loading

namespace Store
variable {v : TableView} {t : Tables}

/-- A page is a part of the apps that may be used, as it is loaded. -/
theorem apps_eq (seen : v.tables = .ok t) (id : Json) {limit offset : Int} (limited : 0 ≤ limit)
    (bounded : limit < 2 ^ 63) (begun : 0 ≤ offset) (within : offset < 2 ^ 63) :
    apps v id (some limit) (some offset) =
      (load ((((t.visibleApps (Uuid.ofJson? id)).drop offset.toNat).take limit.toNat).flatMap
        AppRow.ids)).map
        fun _ => ((t.visibleApps (Uuid.ofJson? id)).drop offset.toNat).take limit.toNat := by
  have fits : (Option.all fitsWord (some limit) && Option.all fitsWord (some offset)) = true := by
    rw [Bool.and_eq_true]
    exact ⟨fitsWord_of_nonneg limited bounded, fitsWord_of_nonneg begun within⟩
  rw [apps, Page.ask_eq seen, if_pos fits, pageOf_of_nonneg _ limited]
  rfl

/-- On no page stands an app that may not be used. -/
theorem mem_apps {id : Json} {limit offset : Option Int} {page : List AppRow}
    (read : apps v id limit offset = .ok page) {a : AppRow} (ha : a ∈ page) :
    a.isPublic = true ∨ ∃ u, Uuid.ofJson? id = some u ∧ a.orgId = some u := by
  -- Without tables, or with a bound that is too large, there is no page.
  unfold apps ask at read
  cases seen : v.tables with
  | error fault =>
    rw [seen] at read
    cases read
  | ok t =>
    rw [seen] at read
    dsimp only at read
    split at read
    · -- The page is there, so the owners of its apps are loaded.
      by_cases texts : AreTexts
          ((pageOf (t.visibleApps (Uuid.ofJson? id)) limit (offset.getD 0)).flatMap AppRow.ids)
      · rw [(map_load_cases _ _).1 texts] at read
        obtain rfl := Except.ok.inj read
        have listed := (t.visibleApps_perm _).mem_iff.1 (pageOf_subset _ _ _ ha)
        exact (Tables.visible_iff_of_areTexts _ (areTexts_flatMap.1 texts a ha)).1
          (List.mem_filter.1 listed).2
      · obtain ⟨fault, stopped⟩ := (map_load_cases _ _).2 texts
        rw [stopped] at read
        cases read
    · cases read

/-- The apps of some pages of one size, each of which starts where the one before ends. -/
def appsOfPages (v : TableView) (id : Json) (size : Nat) : Nat → Except StoreFault (List AppRow)
  | 0 => .ok []
  | pages + 1 => do
    let before ← appsOfPages v id size pages
    let page ← apps v id (some size) (some ↑(size * pages))
    return before ++ page

/-- Pages one after another are the beginning of the list, as it is loaded. -/
theorem appsOfPages_eq (seen : v.tables = .ok t) (id : Json) {size pages : Nat}
    (bounded : size < 2 ^ 63) (within : ∀ i < pages, size * i < 2 ^ 63) :
    appsOfPages v id size pages =
      (load (((t.visibleApps (Uuid.ofJson? id)).take (size * pages)).flatMap AppRow.ids)).map
        fun _ => (t.visibleApps (Uuid.ofJson? id)).take (size * pages) := by
  -- The induction is on the pages: one more starts where the beginning read so far ends.
  induction pages with
  | zero => rfl
  | succ pages ih =>
    have before := ih fun i hi => within i (Nat.lt_succ_of_lt hi)
    have offset := within pages (Nat.lt_succ_self pages)
    have page := apps_eq seen id (Int.natCast_nonneg size) (Int.ofNat_lt.2 bounded)
      (Int.natCast_nonneg (size * pages)) (Int.ofNat_lt.2 offset)
    rw [appsOfPages, before, page, Nat.mul_succ, List.take_add, List.flatMap_append, load_append]
    cases load (((t.visibleApps (Uuid.ofJson? id)).take (size * pages)).flatMap AppRow.ids) with
    | error fault => rfl
    | ok _ =>
      simp only [Int.toNat_natCast]
      cases load ((((t.visibleApps (Uuid.ofJson? id)).drop (size * pages)).take size).flatMap
          AppRow.ids) with
      | error fault => rfl
      | ok _ => rfl

/-- As many pages as it takes are the whole list, as it is loaded. -/
theorem appsOfPages_all (seen : v.tables = .ok t) (id : Json) {size : Nat} (positive : 1 ≤ size)
    (bounded : size < 2 ^ 63) (short : (t.visibleApps (Uuid.ofJson? id)).length < 2 ^ 63) :
    appsOfPages v id size ((t.visibleApps (Uuid.ofJson? id)).length / size + 1) =
      (load ((t.visibleApps (Uuid.ofJson? id)).flatMap AppRow.ids)).map
        fun _ => t.visibleApps (Uuid.ofJson? id) := by
  -- The last page starts within the list, so no offset is too large.
  have within : ∀ i < (t.visibleApps (Uuid.ofJson? id)).length / size + 1, size * i < 2 ^ 63 := by
    intro i hi
    have reached : size * i ≤ (t.visibleApps (Uuid.ofJson? id)).length :=
      Nat.le_trans (Nat.mul_le_mul_left size (Nat.le_of_lt_succ hi)) (Nat.mul_div_le _ size)
    exact Nat.lt_of_le_of_lt reached short
  rw [appsOfPages_eq seen id bounded within,
    List.take_of_length_le (Nat.le_of_lt (Nat.lt_mul_div_succ _ positive))]

end Store

/-! ## Answers -/

namespace Service

/-- Pages of apps lose and repeat nothing. The apps of which they are the pages are the public ones
and, where the value names an organization, those stored under its key, which are its own if its
identifier is stored as a text; each as often as it was added, in the order of their names, those of one
name as they were added. A page is the part of this list that starts at its offset and is as long as its
limit. Pages of one size after another, each starting where the one before ends, are the beginning of the
list, and enough of them the list. Whatever is read must be loaded: where an app on it or the owner of one
has an identifier that is stored as a number, it raises instead. No page holds an app that is not public
and not the organization's own. Whoever is admitted to the organization is told the number of these apps,
as far as the limit of the settings; but only if nothing stands in the way of the check of access and the
apps up to the limit are loaded, and otherwise there is no prepared answer. -/
theorem apps_paged (v : TableView) :
    (∀ (t : Tables) (id : Json), v.tables = .ok t → ∃ rows : List AppRow,
      (∀ u, Uuid.ofJson? id = some u →
        rows.Perm (t.apps.filter fun a =>
          a.isPublic = true ∨ ∃ w ∈ a.orgId, u.sameKey w = true) ∧
        (u.KeptAsText →
          rows.Perm (t.apps.filter fun a => a.isPublic = true ∨ a.orgId = some u))) ∧
      (Uuid.ofJson? id = none → rows.Perm (t.apps.filter fun a => a.isPublic = true)) ∧
      (rows.Pairwise fun a b => a.name ≤ b.name) ∧
      (∀ name, (rows.filter (·.name = name)).Sublist t.apps) ∧
      (∀ limit offset : Int, 0 ≤ limit → limit < 2 ^ 63 → 0 ≤ offset → offset < 2 ^ 63 →
        let page := (rows.drop offset.toNat).take limit.toNat
        (AreTexts (page.flatMap AppRow.ids) →
          Store.apps v id (some limit) (some offset) = .ok page) ∧
        (¬ AreTexts (page.flatMap AppRow.ids) →
          ∃ fault, Store.apps v id (some limit) (some offset) = .error (.storedId fault))) ∧
      (∀ size pages : Nat, size < 2 ^ 63 → (∀ i < pages, size * i < 2 ^ 63) →
        let read := rows.take (size * pages)
        (AreTexts (read.flatMap AppRow.ids) → Store.appsOfPages v id size pages = .ok read) ∧
        (¬ AreTexts (read.flatMap AppRow.ids) →
          ∃ fault, Store.appsOfPages v id size pages = .error (.storedId fault))) ∧
      ∀ size : Nat, 1 ≤ size → size < 2 ^ 63 → rows.length < 2 ^ 63 →
        (AreTexts (rows.flatMap AppRow.ids) →
          Store.appsOfPages v id size (rows.length / size + 1) = .ok rows) ∧
        (¬ AreTexts (rows.flatMap AppRow.ids) →
          ∃ fault, Store.appsOfPages v id size (rows.length / size + 1) =
            .error (.storedId fault))) ∧
    (∀ (id : Json) (limit offset : Option Int) (page : List AppRow),
      Store.apps v id limit offset = .ok page →
      ∀ a ∈ page, a.isPublic = true ∨ ∃ u, Uuid.ofJson? id = some u ∧ a.orgId = some u) ∧
    ∀ (s : Service) (r : Request) (k : KeptSettings) (cache : SettingsCache) (c : Caller) (t : Tables),
      r.Visits .apps → s.cache.get = (.ok k, cache) → r.IsFrom s.room k.settings s.now c →
      s.database.view = v → v.tables = .ok t → t.Admits c →
      0 ≤ k.settings.maxAppCount → k.settings.maxAppCount < 2 ^ 63 →
      ∃ u, Uuid.ofJson? c.orgId = some u ∧
        let counted := (t.visibleApps (some u)).take k.settings.maxAppCount.toNat
        (¬ t.Chokes c → AreTexts (counted.flatMap AppRow.ids) →
          ∃ count : Nat, count = min k.settings.maxAppCount.toNat
            (t.apps.countP fun a => a.isPublic = true ∨ a.orgId = some u) ∧
          (s.answer r).1.response.status = 200 ∧
          (s.answer r).1.response.body = .json (.obj [("success", .bool true),
            ("data", .obj [("apps", .int count)])])) ∧
        (t.Chokes c ∨ ¬ AreTexts (counted.flatMap AppRow.ids) →
          (s.answer r).1.response = .internalError) := by
  refine ⟨?paged, fun id limit offset page read a ha => Store.mem_apps read ha, ?answers⟩
  case paged =>
    intro t id seen
    refine ⟨t.visibleApps (Uuid.ofJson? id), ?own, ?shared, sortByName_sorted _ _,
      t.filter_visibleApps_sublist _, ?page, ?pages, ?all⟩
    case own =>
      intro u parsed
      rw [parsed]
      constructor
      · refine (t.visibleApps_perm _).trans (.of_eq (List.filter_congr fun a _ => ?_))
        rw [Bool.eq_iff_iff, Tables.visible_iff, decide_eq_true_iff]
        simp only [Option.some.injEq, exists_eq_left', Option.mem_def]
      · intro kept
        rw [← t.filter_visible_own kept]
        exact t.visibleApps_perm _
    case shared =>
      intro parsed
      rw [parsed, ← t.filter_visible_shared]
      exact t.visibleApps_perm _
    case page =>
      intro limit offset limited bounded begun within
      rw [Store.apps_eq seen id limited bounded begun within]
      exact map_load_cases _ _
    case pages =>
      intro size pages bounded within
      rw [Store.appsOfPages_eq seen id bounded within]
      exact map_load_cases _ _
    case all =>
      intro size positive bounded short
      rw [Store.appsOfPages_all seen id positive bounded short]
      exact map_load_cases _ _
  case answers =>
    rintro s r k cache c t visits kept isFrom rfl seen admitted limited bounded
    obtain ⟨u, parsed, -⟩ := id admitted.1
    have first : pageOf (t.visibleApps (Uuid.ofJson? c.orgId)) (some k.settings.maxAppCount) 0 =
        (t.visibleApps (some u)).take k.settings.maxAppCount.toNat := by
      rw [parsed, pageOf_of_nonneg _ limited, Int.toNat_zero, List.drop_zero]
    have loaded : Page.loadedIds k.settings t c.orgId .apps =
        ((t.visibleApps (some u)).take k.settings.maxAppCount.toNat).flatMap AppRow.ids := by
      rw [Page.loadedIds, first]
    refine ⟨u, parsed, ?_, ?_⟩
    · intro clear texts
      obtain ⟨user, named⟩ := isFrom.userId
      have text : u.KeptAsText :=
        admitted.1.keptAsText (fun number => clear (.inr (.inr (.inl number)))) parsed
      have read : pageResult k.settings s.database.view c .apps =
          .ok (.apps (min k.settings.maxAppCount.toNat
            (t.apps.countP fun a => a.isPublic = true ∨ a.orgId = some u))) := by
        rw [pageResult, (authorized_iff seen named).2 ⟨admitted, clear⟩]
        simp only [Page.read, Page.readApps_eq seen (fitsWord_of_nonneg limited bounded)
          (first.symm ▸ texts), first, List.length_take, t.length_visibleApps text]
        rfl
      exact ⟨_, rfl, answer_of_data visits kept isFrom seen read rfl⟩
    · intro number
      rw [← loaded] at number
      exact unanswered_of_number visits kept isFrom seen admitted number

/-- Tables with apps of three owners and of none, added against the order of their names. -/
def stockedAcme : Tables :=
  { acme with
    apps :=
      [⟨some ⟨0xa0⟩, "mail", true, none⟩, ⟨some ⟨0xa1⟩, "crm", false, some ⟨0xb⟩⟩,
        ⟨some ⟨0xa2⟩, "chat", true, some ⟨0xa⟩⟩, ⟨some ⟨0xa3⟩, "mail", false, some ⟨0xa⟩⟩,
        ⟨some ⟨0xa4⟩, "crm", false, none⟩, ⟨some ⟨0xa5⟩, "forms", true, some ⟨0xb⟩⟩] }

theorem keepsTexts_stockedAcme : stockedAcme.KeepsTexts := by
  constructor <;> decide +kernel

/-- A member is told of four apps, the private ones of others and of nobody left out, and two pages of
three hold all of them. -/
theorem apps_paged_stockedAcme :
    ((plainService stockedAcme).answer
        (plainVisit "/api/v1/dashboard/apps" "u-1" acmeId false)).1.response.body =
      .json (.obj [("success", .bool true), ("data", .obj [("apps", .int 4)])]) ∧
    ∃ rows : List AppRow, rows.length = 4 ∧
      Store.apps (plainService stockedAcme).database.view (.str acmeId) (some 3) (some 3) =
        .ok ((rows.drop 3).take 3) ∧
      Store.appsOfPages (plainService stockedAcme).database.view (.str acmeId) 3 2 = .ok rows ∧
      ∀ a ∈ rows, a.isPublic = true ∨ ∃ u, Uuid.ofJson? (.str acmeId) = some u ∧ a.orgId = some u := by
  obtain ⟨paged, listed, answers⟩ := apps_paged (plainService stockedAcme).database.view
  have seen := tables_plainService stockedAcme
  obtain ⟨rows, own, -, -, -, page, pages, -⟩ := paged stockedAcme (.str acmeId) seen
  have same := (own ⟨0xa⟩ acmeId_parsed).2 acmeId_keptAsText
  have length : rows.length = 4 := same.length_eq
  have texts : ∀ part : List AppRow, part ⊆ rows → AreTexts (part.flatMap AppRow.ids) :=
    fun part within => areTexts_flatMap.2 fun a ha =>
      keepsTexts_stockedAcme.apps a (List.mem_filter.1 (same.mem_iff.1 (within ha))).1
  have both := (pages 3 2 (by decide) (by decide)).1 (texts _ (List.take_subset _ _))
  rw [List.take_of_length_le (by omega)] at both
  have parts : ∀ limit offset : Int, ((rows.drop offset.toNat).take limit.toNat) ⊆ rows :=
    fun _ _ => List.Subset.trans (List.take_subset _ _) (List.drop_subset _ _)
  refine ⟨?body, rows, length,
    (page 3 3 (by decide) (by decide) (by decide) (by decide)).1 (texts _ (parts 3 3)), both, ?_⟩
  case body =>
    have visits : (plainVisit "/api/v1/dashboard/apps" "u-1" acmeId false).Visits .apps :=
      visits_withBearer rfl rfl trivial
    have isFrom := isFrom_acmeVisit "/api/v1/dashboard/apps" "u-1" false (by decide) (by decide)
    obtain ⟨admitted, clear⟩ := admits_acmeMember (t := stockedAcme) rfl rfl
    obtain ⟨u, parsed, shown, -⟩ := answers (plainService stockedAcme) _ _ _ _ stockedAcme visits
      (kept_plainService stockedAcme) isFrom rfl seen admitted (by decide) (by decide)
    obtain rfl := Option.some.inj (acmeId_parsed.symm.trans parsed)
    have listed : ∀ n, (stockedAcme.visibleApps (some ⟨0xa⟩)).take n ⊆ stockedAcme.apps :=
      fun n a ha => (List.mem_filter.1
        ((stockedAcme.visibleApps_perm _).mem_iff.1 (List.take_subset _ _ ha))).1
    obtain ⟨count, rfl, -, body⟩ := shown clear
      (areTexts_flatMap.2 fun a ha => keepsTexts_stockedAcme.apps a (listed _ ha))
    exact body
  -- Four rows fit on a page of five, so what holds of a page holds of all of them.
  have whole := (page 5 0 (by decide) (by decide) (by decide) (by decide)).1 (texts _ (parts 5 0))
  have short : rows.length ≤ Int.toNat 5 := by
    rw [length]
    decide
  rw [Int.toNat_zero, List.drop_zero, List.take_of_length_le short] at whole
  exact listed _ _ _ _ whole

/-- Apps that everybody may use, the second one under an identifier that is stored as a number. -/
def numberedApps : Tables :=
  { acme with apps := [⟨some ⟨0xa0⟩, "mail", true, none⟩, ⟨some ⟨0x1e5⟩, "chat", true, none⟩] }

/-- Both of them stand on a page of two and more, and the second one is not loaded. -/
theorem not_areTexts_numberedApps {limit : Nat} (room : 2 ≤ limit) :
    ¬ AreTexts (((numberedApps.visibleApps (some ⟨0xa⟩)).take limit).flatMap AppRow.ids) := by
  have same := numberedApps.visibleApps_perm (some ⟨0xa⟩)
  have length : (numberedApps.visibleApps (some ⟨0xa⟩)).length = 2 := same.length_eq
  rw [List.take_of_length_le (length ▸ room)]
  intro texts
  have listed : ⟨some ⟨0x1e5⟩, "chat", true, none⟩ ∈ numberedApps.visibleApps (some ⟨0xa⟩) :=
    same.mem_iff.2 (by decide)
  exact exponentId_number (areTexts_flatMap.1 texts _ listed _ (by decide))

/-- A page of apps raises if one of them cannot be loaded, and a member is not told how many apps there
are. -/
theorem not_apps_paged_numberedApps :
    (numberedApps.apps.filter fun a => a.isPublic = true ∨ a.orgId = some ⟨0xa⟩).length = 2 ∧
      (∃ fault, Store.apps (plainService numberedApps).database.view (.str acmeId) (some 3) (some 0) =
        .error (.storedId fault)) ∧
      (plainVisit "/api/v1/dashboard/apps" "u-1" acmeId false).IsFrom plainRoom plainSettings
        (plainService numberedApps).now (Token.namedCaller "u-1" "" acmeId false) ∧
      numberedApps.Admits (Token.namedCaller "u-1" "" acmeId false) ∧
      ((plainService numberedApps).answer
        (plainVisit "/api/v1/dashboard/apps" "u-1" acmeId false)).1.response = .internalError := by
  have visits : (plainVisit "/api/v1/dashboard/apps" "u-1" acmeId false).Visits .apps :=
    visits_withBearer rfl rfl trivial
  have isFrom := isFrom_acmeVisit "/api/v1/dashboard/apps" "u-1" false (by decide) (by decide)
  have seen := tables_plainService numberedApps
  have admitted := (admits_acmeMember (t := numberedApps) rfl rfl).1
  refine ⟨by decide, ?page, isFrom, admitted, ?answers⟩
  case page =>
    rw [Store.apps_eq seen _ (by decide) (by decide) (by decide) (by decide), acmeId_parsed]
    exact (map_load_cases _ _).2 (not_areTexts_numberedApps (by decide))
  case answers =>
    refine unanswered_of_number visits (kept_plainService numberedApps) isFrom seen admitted (.inr ?_)
    have org : Uuid.ofJson? (Token.namedCaller "u-1" "" acmeId false).orgId = some ⟨0xa⟩ :=
      acmeId_parsed
    rw [Page.loadedIds, org, pageOf_of_nonneg _ (by decide), Int.toNat_zero, List.drop_zero]
    exact not_areTexts_numberedApps (by decide)

end Service

end Runboard
