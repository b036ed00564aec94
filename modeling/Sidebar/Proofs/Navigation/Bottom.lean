import Sidebar.Proofs.Navigation.Moves
import Sidebar.Proofs.Tree.Marks
import Sidebar.Proofs.Tree.Visible

/-!
# The bottom row

The navigator tells the bottom row by a walk up from it, past last siblings and open parents. It is
the row at the end of the list of visible rows, and no other: a hidden row is never the bottom one,
and a tree with any row at all has exactly one, whatever is open in it.
-/

namespace Sidebar

open Node

/-- Where nothing is listed twice, an item is the last one just when nothing stands behind it. -/
lemma getLast?_append_cons_iff {α : Type} {front back : List α} {a : α}
    (h : (front ++ a :: back).Nodup) : (front ++ a :: back).getLast? = some a ↔ back = [] := by
  rcases List.eq_nil_or_concat' back with rfl | ⟨back, b, rfl⟩
  · simp
  · have hfresh : a ∉ back ++ [b] := (List.nodup_cons.mp (List.nodup_append.mp h).2.1).1
    have hb : b ≠ a := fun hb => hfresh (by simp [hb])
    rw [← List.cons_append, ← List.append_assoc, List.getLast?_concat]
    simp [hb]

lemma Node.shownAll_eq_nil_iff {ns : List Node} : shownAll ns = [] ↔ ns = [] := by
  rw [← List.head?_eq_none_iff, Position.head?_shownAll, List.head?_eq_none_iff]

namespace Forest

variable {treeId : String} {f : Forest} {p : Position} {n : Node}

/-- In a well-formed forest just the closed nodes show no children. -/
lemma WellFormed.shownChildren_eq_nil_iff (h : f.WellFormed treeId) (hn : n ∈ f.rows) :
    n.shownChildren = [] ↔ n.isOpen = false := by
  rw [shownChildren]
  cases hopen : n.isOpen with
  | false => simp
  | true => simpa using (h.opened n hn hopen).2

/-- A row is the last visible one if it is closed and nothing is shown behind its position. -/
theorem WellFormed.getLast?_visibleRows_iff (h : f.WellFormed treeId)
    (hfill : f.roots = p.fill n) :
    f.visibleRows.getLast? = some n ↔ n.isOpen = false ∧ p.isLowest := by
  have hn := Position.mem_rows_of_fill hfill
  by_cases hp : p.isShown
  · have hrows := Position.visibleRows_eq_of_fill hfill hp
    rw [shown_eq, List.append_assoc, List.cons_append] at hrows
    have hnodup := h.nodup_visibleRows
    rw [hrows] at hnodup ⊢
    rw [getLast?_append_cons_iff hnodup, List.append_eq_nil_iff, shownAll_eq_nil_iff,
      h.shownChildren_eq_nil_iff hn, Position.isLowest_iff hp]
  · -- a hidden row is not listed, and its position is not the lowest
    constructor
    · intro hlast
      exact absurd ((h.mem_visibleRows_iff hfill).mp (List.mem_of_getLast? hlast)) hp
    · intro hlowest
      exact absurd (Position.isShown_of_isLowest hlowest.2) hp

end Forest

namespace Navigator

variable {treeId : String} {f : Forest} {bound : Int}

/-- The walk up answers what a look at the end of the list of visible rows does. -/
theorem isBottom_eq (h : f.WellFormed treeId) (hbound : ∀ n ∈ f.rows, n.row.level ≤ bound)
    {n : Node} (hn : n ∈ f.rows) :
    isBottom ⟨f, bound⟩ n = .ok (decide (f.visibleRows.getLast? = some n)) := by
  obtain ⟨p, hfill⟩ := Position.exists_fill_of_mem_rows hn
  rw [isBottom_fill h hbound hfill]
  refine congrArg Except.ok ?_
  rw [Bool.eq_iff_iff, decide_eq_true_iff, h.getLast?_visibleRows_iff hfill]
  simp

/-- A forest with rows has one bottom row. -/
theorem existsUnique_isBottom (h : f.WellFormed treeId)
    (hbound : ∀ n ∈ f.rows, n.row.level ≤ bound) (hroots : f.roots ≠ []) :
    ∃! n, n ∈ f.rows ∧ isBottom ⟨f, bound⟩ n = .ok true := by
  have hvisible : f.visibleRows ≠ [] := by
    rwa [f.visibleRows_eq_shownAll, Ne, shownAll_eq_nil_iff]
  have hlast := List.getLast?_eq_some_getLast hvisible
  have hrow := Forest.WellFormed.mem_rows_of_mem_visibleRows (List.getLast_mem hvisible)
  refine ⟨f.visibleRows.getLast hvisible, ⟨hrow, ?_⟩, ?_⟩
  · rw [isBottom_eq h hbound hrow, hlast, decide_eq_true rfl]
  · rintro n ⟨hn, hbottom⟩
    rw [isBottom_eq h hbound hn] at hbottom
    have hn_last := of_decide_eq_true (Except.ok.inj hbottom)
    exact Option.some.inj (hn_last.symm.trans hlast)

end Navigator

namespace Workbench

variable {treeId : String} {w : Workbench}

/-- In every reachable tree whose levels are within the bound, the walk up from any row, visible or
hidden, tells whether it is the last visible one. So there is one bottom row, and there is one for
each other choice of what is open. -/
theorem Reachable.isBottom_iff_last (h : w.Reachable treeId)
    (hbound : ∀ n ∈ w.store.forest.rows, n.row.level ≤ w.bound) :
    (∀ n ∈ w.store.forest.rows,
      w.navigator.isBottom n = .ok (decide (w.store.forest.visibleRows.getLast? = some n))) ∧
    (w.store.forest.roots ≠ [] →
      (∃! n, n ∈ w.store.forest.rows ∧ w.navigator.isBottom n = .ok true) ∧
      ∀ opened : Node → Bool, ∃! n, n ∈ (w.store.forest.withOpen opened).rows ∧
        Navigator.isBottom ⟨w.store.forest.withOpen opened, w.bound⟩ n = .ok true) := by
  have hwell := h.sound.wellFormed
  refine ⟨fun n hn => Navigator.isBottom_eq hwell hbound hn, fun hroots => ?_⟩
  refine ⟨Navigator.existsUnique_isBottom hwell hbound hroots, fun opened => ?_⟩
  obtain ⟨entries, hshows⟩ := h.sound.shows _ List.mem_cons_self
  refine Navigator.existsUnique_isBottom (hshows.withOpen opened).wellFormed ?_ ?_
  · intro n hn
    rw [Forest.withOpen, Forest.rows_remark, List.mem_map] at hn
    obtain ⟨m, hm, rfl⟩ := hn
    rw [level_remark]
    exact hbound m hm
  · rwa [Forest.withOpen, Forest.roots_remark, Ne, List.map_eq_nil_iff]

/-- The last root is the bottom row, also when everything is closed. The hidden file is not,
although it has no sibling behind it. -/
theorem isBottom_fourRows :
    fourRows.Reachable "files" ∧
      (∀ n ∈ fourRows.store.forest.rows, n.row.level ≤ fourRows.bound) ∧
      fourRows.store.forest.roots ≠ [] ∧
      (fourRows.store.forest.rows.map fun n =>
        (n.path, decide (fourRows.store.forest.visibleRows.getLast? = some n))) =
        [("/a", false), ("/a/b", false), ("/a/b/x", false), ("/a/c", false), ("/d", true)] ∧
      (∀ n ∈ fourRows.store.forest.rows, fourRows.navigator.isBottom n =
        .ok (decide (fourRows.store.forest.visibleRows.getLast? = some n))) ∧
      (∃! n, n ∈ fourRows.store.forest.rows ∧ fourRows.navigator.isBottom n = .ok true) ∧
      ∃! n, n ∈ (fourRows.store.forest.withOpen fun _ => false).rows ∧
        Navigator.isBottom ⟨fourRows.store.forest.withOpen fun _ => false, fourRows.bound⟩ n =
          .ok true := by
  have hreach : fourRows.Reachable "files" := ⟨_, _, rfl⟩
  have hbound : ∀ n ∈ fourRows.store.forest.rows, n.row.level ≤ fourRows.bound := by
    decide +kernel
  have hroots : fourRows.store.forest.roots ≠ [] := by decide +kernel
  have hlast : (fourRows.store.forest.rows.map fun n =>
      (n.path, decide (fourRows.store.forest.visibleRows.getLast? = some n))) =
      [("/a", false), ("/a/b", false), ("/a/b/x", false), ("/a/c", false), ("/d", true)] := by
    decide +kernel
  obtain ⟨hrows, hunique⟩ := Reachable.isBottom_iff_last hreach hbound
  obtain ⟨hcurrent, hmarks⟩ := hunique hroots
  exact ⟨hreach, hbound, hroots, hlast, hrows, hcurrent, hmarks fun _ => false⟩

end Workbench

end Sidebar
