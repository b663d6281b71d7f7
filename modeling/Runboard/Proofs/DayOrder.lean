import Mathlib.Data.List.Chain
import Runboard.Proofs.RecentDays

/-!
# `Runboard.Proofs.DayOrder`: how a history is put in order

A history in which every entry has a day is put in the order of the days, and the entries of one day
stay as they stood among themselves. No other list has the same entries in such an order. So a
history that is in order already is left as it is, and to put it in order twice is to do it once.

A change is recorded where the ordered list is another one than the given list. That is decided by
comparing whole entries, counters and all, and yet the counters do not matter: the lists differ
exactly if, somewhere in the given one, an entry stands right before one of an earlier day.

## Contents

* `filter_inDayOrder`, `eq_of_sameDays`: the order of the days keeps each day as it is, and is the
  only one that does;
* `History.InOrder`, `History.Descends`, `History.SameDays`: what is said of entries;
* `History.inOrder_iff_not_descends`, `History.byDay_eq_self_iff`: histories that are in order
  already;
* `orderHistory_of_dated`, `orderHistory_of_undated`: the two cases of a history;
* `orderHistory_exact`: what comes of any history.
-/

namespace Runboard

/-! ## The order of the days -/

section ByDay
variable {α : Type} {day : α → Day} {things others : List α}

/-- The things of one day stay as they stood. -/
theorem filter_inDayOrder (day : α → Day) (things : List α) (d : Day) :
    (inDayOrder day things).filter (day · = d) = things.filter (day · = d) :=
  filter_mergeSort_key day things d

/-- What agrees day by day has the same members. -/
theorem mem_of_sameDays (same : ∀ d, things.filter (day · = d) = others.filter (day · = d)) {a : α}
    (ha : a ∈ things) : a ∈ others := by
  have mine : a ∈ things.filter (day · = day a) := List.mem_filter.2 ⟨ha, decide_eq_true rfl⟩
  rw [same (day a)] at mine
  exact (List.mem_filter.1 mine).1

/-- The first of an ordered list is not later than any member. -/
theorem first_le_of_mem {a b : α} (sorted : (a :: things).Pairwise fun a b => day a ≤ day b)
    (hb : b ∈ a :: things) : day a ≤ day b := by
  rcases List.mem_cons.1 hb with rfl | later
  · exact Day.le_refl _
  · exact (List.pairwise_cons.1 sorted).1 b later

/-- Lists in the order of the days that agree day by day are the same list. -/
theorem eq_of_sameDays (sorted : things.Pairwise fun a b => day a ≤ day b)
    (sorted' : others.Pairwise fun a b => day a ≤ day b)
    (same : ∀ d, things.filter (day · = d) = others.filter (day · = d)) : things = others := by
  have same' := fun d => (same d).symm
  induction things generalizing others with
  | nil =>
    cases others with
    | nil => rfl
    | cons b others =>
      exact absurd (mem_of_sameDays same' List.mem_cons_self) List.not_mem_nil
  | cons a things ih =>
    cases others with
    | nil => exact absurd (mem_of_sameDays same List.mem_cons_self) List.not_mem_nil
    | cons b others =>
      -- Each first is a member of the other list, so neither is the later one.
      have days : day a = day b :=
        Day.le_antisymm (first_le_of_mem sorted (mem_of_sameDays same' List.mem_cons_self))
          (first_le_of_mem sorted' (mem_of_sameDays same List.mem_cons_self))
      have first := same (day a)
      simp only [List.filter_cons, ← days, decide_true, ↓reduceIte] at first
      obtain ⟨rfl, -⟩ := List.cons.inj first
      have rest : ∀ d, things.filter (day · = d) = others.filter (day · = d) := by
        intro d
        have both := same d
        rw [List.filter_cons, List.filter_cons] at both
        by_cases h : day a = d
        · rw [if_pos (decide_eq_true h), if_pos (decide_eq_true h)] at both
          exact (List.cons.inj both).2
        · rw [if_neg (mt of_decide_eq_true h), if_neg (mt of_decide_eq_true h)] at both
          exact both
      rw [ih (List.pairwise_cons.1 sorted).2 (List.pairwise_cons.1 sorted').2 rest
        fun d => (rest d).symm]

end ByDay

/-! ## Histories -/

namespace History
variable {α : Type} {entries others : List (DayEntry α)}

/-- No entry stands before one of an earlier day. -/
def InOrder (entries : List (DayEntry α)) : Prop :=
  entries.Pairwise fun a b => ∀ d ∈ a.day, ∀ d' ∈ b.day, d ≤ d'

/-- An entry stands right before one of an earlier day. -/
def Descends (entries : List (DayEntry α)) : Prop :=
  ∃ before a b after, entries = before ++ a :: b :: after ∧ ∃ d ∈ a.day, ∃ d' ∈ b.day, d' < d

/-- Both histories have the same entries of each day, in the same order. -/
def SameDays (entries others : List (DayEntry α)) : Prop :=
  ∀ d : Day, entries.filter (·.day = some d) = others.filter (·.day = some d)

theorem allDated_iff : allDated entries = true ↔ ∀ e ∈ entries, e.day ≠ none := by
  simp only [allDated, List.all_eq_true, Option.isSome_iff_ne_none]

theorem byDay_perm (entries : List (DayEntry α)) : (byDay entries).Perm entries := by
  rw [byDay_eq]
  exact inDayOrder_perm sortDay entries

section Dated
variable (dated : ∀ e ∈ entries, e.day ≠ none)
include dated

/-- Where every entry has a day, it is sorted by that day. -/
theorem day_eq_sortDay {e : DayEntry α} (he : e ∈ entries) : e.day = some (sortDay e) := by
  obtain ⟨d, hd⟩ := Option.ne_none_iff_exists'.1 (dated e he)
  rw [sortDay, hd, Option.getD_some]

theorem inOrder_iff_pairwise :
    InOrder entries ↔ entries.Pairwise fun a b => sortDay a ≤ sortDay b := by
  apply List.Pairwise.iff_of_mem
  intro a b ha hb
  rw [day_eq_sortDay dated ha, day_eq_sortDay dated hb]
  simp only [Option.mem_some_iff, forall_eq']

theorem filter_day_eq (d : Day) :
    entries.filter (·.day = some d) = entries.filter (sortDay · = d) := by
  apply List.filter_congr
  intro e he
  rw [day_eq_sortDay dated he]
  simp only [Option.some.injEq]

/-- A history is in order, unless somewhere in it a day stands right before an earlier one. -/
theorem inOrder_iff_not_descends : InOrder entries ↔ ¬ Descends entries := by
  let notLater := fun a b : DayEntry α => sortDay a ≤ sortDay b
  have trans : Trans notLater notLater notLater := ⟨Day.le_trans⟩
  -- Days that are never followed by an earlier one do not descend over longer stretches either.
  rw [inOrder_iff_pairwise dated, ← List.isChain_iff_pairwise,
    List.isChain_iff_forall_rel_of_append_cons_cons]
  constructor
  · rintro level ⟨before, a, b, after, rfl, d, hd, d', hd', earlier⟩
    have notEarlier := level rfl
    rw [day_eq_sortDay dated (by simp)] at hd hd'
    obtain rfl := Option.some.inj hd
    obtain rfl := Option.some.inj hd'
    exact Day.not_lt.2 notEarlier earlier
  · rintro level a b before after rfl
    apply Day.not_lt.1
    intro earlier
    exact level ⟨before, a, b, after, rfl, _, day_eq_sortDay dated (by simp), _,
      day_eq_sortDay dated (by simp), earlier⟩

theorem dated_byDay : ∀ e ∈ byDay entries, e.day ≠ none :=
  fun e he => dated e ((byDay_perm entries).mem_iff.1 he)

theorem inOrder_byDay : InOrder (byDay entries) := by
  rw [inOrder_iff_pairwise (dated_byDay dated), byDay_eq]
  exact inDayOrder_sorted sortDay entries

theorem sameDays_byDay : SameDays (byDay entries) entries := by
  intro d
  rw [filter_day_eq dated, filter_day_eq (dated_byDay dated), byDay_eq]
  exact filter_inDayOrder sortDay entries d

/-- A history is left as it is exactly if it is in order. -/
theorem byDay_eq_self_iff : byDay entries = entries ↔ InOrder entries := by
  constructor
  · intro same
    rw [← same]
    exact inOrder_byDay dated
  · intro level
    exact List.mergeSort_of_pairwise
      (((inOrder_iff_pairwise dated).1 level).imp fun notLater => decide_eq_true notLater)

/-- There is no other history with the same days in order. -/
theorem eq_byDay (dated' : ∀ e ∈ others, e.day ≠ none) (level : InOrder others)
    (same : SameDays others entries) : others = byDay entries := by
  apply eq_of_sameDays ((inOrder_iff_pairwise dated').1 level)
    ((inOrder_iff_pairwise (dated_byDay dated)).1 (inOrder_byDay dated))
  intro d
  rw [← filter_day_eq dated', ← filter_day_eq (dated_byDay dated), same d, sameDays_byDay dated d]

end Dated

end History

/-! ## The two cases -/

section Cases
variable {α : Type} [DecidableEq α] {entries : List (DayEntry α)}

/-- A history with an entry of unknown day is left as it is. -/
theorem orderHistory_of_undated (orgId : String) (undated : ∃ e ∈ entries, e.day = none) :
    orderHistory orgId entries = (entries, []) := by
  have notDated : ¬ History.allDated entries = true := by
    rw [History.allDated_iff]
    obtain ⟨e, he, unknown⟩ := undated
    exact fun dated => dated e he unknown
  rw [orderHistory, if_neg notDated]

/-- A history in which every entry has a day is put in order, and a change is recorded where one day
stands right before an earlier one. -/
theorem orderHistory_of_dated (orgId : String) (dated : ∀ e ∈ entries, e.day ≠ none) :
    (History.Descends entries → orderHistory orgId entries =
      (History.byDay entries, [.reordered orgId entries.length])) ∧
    (¬ History.Descends entries → orderHistory orgId entries = (entries, [])) := by
  have ordered : orderHistory orgId entries = (History.byDay entries,
      if History.byDay entries = entries then [] else [.reordered orgId entries.length]) := by
    rw [orderHistory, if_pos (History.allDated_iff.2 dated)]
  rw [ordered]
  constructor
  · intro descends
    have changed : ¬ History.byDay entries = entries := by
      rw [History.byDay_eq_self_iff dated, History.inOrder_iff_not_descends dated]
      exact fun level => level descends
    rw [if_neg changed]
  · intro level
    have same : History.byDay entries = entries := by
      rw [History.byDay_eq_self_iff dated, History.inOrder_iff_not_descends dated]
      exact level
    rw [if_pos same, same]

/-- Neither a history that was put in order nor one that was left is changed a second time. -/
theorem orderHistory_orderHistory (orgId other : String) (entries : List (DayEntry α)) :
    orderHistory other (orderHistory orgId entries).1 = ((orderHistory orgId entries).1, []) := by
  by_cases dated : ∀ e ∈ entries, e.day ≠ none
  · have dated' := History.dated_byDay dated
    have level : ¬ History.Descends (History.byDay entries) :=
      (History.inOrder_iff_not_descends dated').1 (History.inOrder_byDay dated)
    by_cases descends : History.Descends entries
    · rw [(orderHistory_of_dated orgId dated).1 descends]
      exact (orderHistory_of_dated other dated').2 level
    · rw [(orderHistory_of_dated orgId dated).2 descends]
      exact (orderHistory_of_dated other dated).2 descends
  · have undated : ∃ e ∈ entries, e.day = none := by
      simpa only [not_forall, exists_prop, not_not] using dated
    rw [orderHistory_of_undated orgId undated]
    exact orderHistory_of_undated other undated

/-- What comes of any history. With an entry of unknown day, or without entries, it is left as it
is, and nothing is recorded. If every entry has a day, the result has the same entries in the order
of the days, those of one day as they stood, and is the only such list; where an entry stood right
before one of an earlier day one warning is recorded, which tells the number of entries, and
elsewhere the history is left and nothing is recorded. What came of it stays the same a second time.
The given history is a value, which nothing of this changes. -/
theorem orderHistory_exact (orgId : String) (entries : List (DayEntry α)) :
    (entries = [] ∨ (∃ e ∈ entries, e.day = none) → orderHistory orgId entries = (entries, [])) ∧
    ((∀ e ∈ entries, e.day ≠ none) → ∃ ordered events,
      orderHistory orgId entries = (ordered, events) ∧
      ordered.Perm entries ∧ History.InOrder ordered ∧ History.SameDays ordered entries ∧
      (∀ others, others.Perm entries → History.InOrder others → History.SameDays others entries →
        others = ordered) ∧
      (History.Descends entries → ∃ warning, events = [warning] ∧ warning.level = Level.warning ∧
        warning.text = "Daily statistics for org " ++ orgId ++
          " were not stored oldest-first; reordered " ++ toString entries.length ++ " entries") ∧
      (¬ History.Descends entries → ordered = entries ∧ events = [])) ∧
    ∀ other, orderHistory other (orderHistory orgId entries).1 =
      ((orderHistory orgId entries).1, []) := by
  refine ⟨?left, ?ordered, fun other => orderHistory_orderHistory orgId other entries⟩
  case left =>
    rintro (rfl | undated)
    · have dated : ∀ e ∈ ([] : List (DayEntry α)), e.day ≠ none := List.forall_mem_nil _
      have level := (History.inOrder_iff_not_descends dated).1 List.Pairwise.nil
      exact (orderHistory_of_dated orgId dated).2 level
    · exact orderHistory_of_undated orgId undated
  case ordered =>
    intro dated
    obtain ⟨changed, level⟩ := orderHistory_of_dated orgId dated
    have only : ∀ others : List (DayEntry α), others.Perm entries → History.InOrder others →
        History.SameDays others entries → others = History.byDay entries :=
      fun others perm inOrder same =>
        History.eq_byDay dated (fun e he => dated e (perm.mem_iff.1 he)) inOrder same
    by_cases descends : History.Descends entries
    · refine ⟨_, _, changed descends, History.byDay_perm entries, History.inOrder_byDay dated,
        History.sameDays_byDay dated, only, fun _ => ⟨_, rfl, rfl, rfl⟩, ?_⟩
      exact fun left => absurd descends left
    · -- What is left was in order, so it is what would have come of putting it in order.
      have inOrder := (History.inOrder_iff_not_descends dated).2 descends
      have same := (History.byDay_eq_self_iff dated).2 inOrder
      refine ⟨_, _, level descends, .refl _, inOrder, fun _ => rfl, ?_, ?_, fun _ => ⟨rfl, rfl⟩⟩
      · intro others perm inOrder' same'
        exact (only others perm inOrder' same').trans same
      · exact fun found => absurd found descends

end Cases

/-- Three entries of two days, the later day first and last. -/
def crossed : List DayEntry :=
  [⟨⟨2, 1, 0, 0⟩, some ⟨19002⟩⟩, ⟨⟨5, 5, 1, 0⟩, some ⟨19001⟩⟩, ⟨⟨3, 3, 4, 1⟩, some ⟨19002⟩⟩]

/-- Crossed entries are put in order with one warning, and both entries of the later day stay as
they stood; with an entry of unknown day before them they are left. -/
theorem orderHistory_exact_crossed : ∃ ordered warning,
    orderHistory "acme" crossed = (ordered, [warning]) ∧ warning.level = Level.warning ∧
      ordered.filter (·.day = some ⟨19002⟩) =
        [⟨⟨2, 1, 0, 0⟩, some ⟨19002⟩⟩, ⟨⟨3, 3, 4, 1⟩, some ⟨19002⟩⟩] ∧
      orderHistory "acme" (⟨⟨9, 0, 0, 0⟩, none⟩ :: crossed) =
        (⟨⟨9, 0, 0, 0⟩, none⟩ :: crossed, []) := by
  obtain ⟨-, dated, -⟩ := orderHistory_exact "acme" crossed
  obtain ⟨ordered, events, made, -, -, same, -, warned, -⟩ := dated (by decide)
  have descends : History.Descends crossed :=
    ⟨[], _, _, _, rfl, ⟨19002⟩, rfl, ⟨19001⟩, rfl, by decide⟩
  obtain ⟨warning, rfl, level, -⟩ := warned descends
  have left := (orderHistory_exact "acme" (⟨⟨9, 0, 0, 0⟩, none⟩ :: crossed)).1
  exact ⟨ordered, warning, made, level, same ⟨19002⟩, left (.inr ⟨_, List.mem_cons_self, rfl⟩)⟩

end Runboard
