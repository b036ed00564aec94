import Sidebar.Proofs.Editor.Tabs
import Sidebar.Proofs.Tree.Paths
import Sidebar.Proofs.Workbench.Held

/-!
# Paths at a workbench

Neither the tree nor the tabs ever make up a path, and the entries of snapshots must have one. So no
row and no tab of a workbench that a run leads to has an empty path.
-/

namespace Sidebar

open Editor

/-! ### Stores -/

namespace Store

/-- The paths of all nodes that the store holds. -/
def paths (s : Store) : List String := s.forests.flatMap fun f => f.rows.map Node.path

lemma Holds.path_mem {s : Store} {n : Node} (h : s.Holds n) : n.path ∈ s.paths := by
  obtain ⟨f, hf, hn⟩ := h
  exact List.mem_flatMap.mpr ⟨f, hf, List.mem_map_of_mem hn⟩

lemma paths_eq (s : Store) : s.paths = s.heldRows.map Row.path := by
  simp only [paths, heldRows, Forest.closedRows, List.map_flatMap, List.map_map]
  rfl

lemma paths_load (s : Store) (entries : List Entry) :
    (s.load entries).paths = Entry.pathsAll entries ++ s.paths := by
  rw [paths, forests, List.flatMap_cons, load, Forest.paths_ofEntries]
  rfl

lemma paths_expand (s : Store) (n : Node) (expand : Option Bool) :
    (s.expand n expand).paths = s.paths := by
  rw [paths_eq, heldRows_expand, ← paths_eq]

lemma paths_expandAll (s : Store) (expand : Bool) : (s.expandAll expand).paths = s.paths := by
  rw [paths_eq, heldRows_expandAll, ← paths_eq]

lemma paths_expandIn (record : SessionRecord) (s : Store) :
    (record.expandIn s).store.paths = s.paths := by
  rw [paths_eq, heldRows_expandIn, ← paths_eq]

end Store

/-! ### Runs -/

lemma Restored.tabs_focus (r : Restored) (current : Option String) :
    (r.focus current).tabs.tabs = r.tabs.tabs := by
  cases current with
  | none => rfl
  | some tid => exact Tabs.tabs_setCurrent r.tabs tid

namespace Workbench

/-- No row and no tab has an empty path. -/
structure Named (w : Workbench) : Prop where
  rows : ∀ path ∈ w.store.paths, path ≠ ""
  tabs : ∀ tab ∈ w.tabs.tabs, tab.path ≠ ""

/-- A tab that opening a node adds has the path of the node. -/
lemma named_openNode {t : Tabs} (h : ∀ tab ∈ t.tabs, tab.path ≠ "") {n : Node}
    (hn : n.path ≠ "") (load : Loader) : ∀ tab ∈ (t.openNode load n).tabs.tabs, tab.path ≠ "" := by
  rcases Tabs.openNode_cases load t n with
    ⟨_, -, -, -, htabs, -⟩ | ⟨mode, content, -, -, -, htabs, -⟩ | ⟨-, -, htabs, -⟩
  · rw [htabs]
    exact h
  · rw [htabs]
    intro tab htab
    rcases List.mem_append.mp htab with htab | htab
    · exact h tab htab
    · rw [List.mem_singleton.mp htab]
      exact hn
  · rw [htabs]
    exact h

lemma named_reopenPaths (load : Loader) (currentFile : Option WideText) {r : Restored}
    (hrows : ∀ path ∈ r.store.paths, path ≠ "") (htabs : ∀ tab ∈ r.tabs.tabs, tab.path ≠ "")
    (current : Option String) (paths : List WideText) :
    ∀ tab ∈ (Restored.reopenPaths load currentFile r current paths).1.tabs.tabs,
      tab.path ≠ "" := by
  have hopening : ∀ {r : Restored} {path : WideText} {n : Node},
      (∀ path ∈ r.store.paths, path ≠ "") → (∀ tab ∈ r.tabs.tabs, tab.path ≠ "") →
      r.store.forest.atSavedPath? path = some n →
      ∀ tab ∈ (r.tabs.openNode load n).tabs.tabs, tab.path ≠ "" := by
    intro r path n hrows htabs hfind
    obtain ⟨text, -, hfind⟩ := Option.bind_eq_some_iff.mp hfind
    obtain ⟨tid, -, hn⟩ := Option.bind_eq_some_iff.mp hfind
    have hheld := Store.holds_of_mem_rows (List.mem_of_find?_eq_some hn)
    exact named_openNode htabs (hrows _ hheld.path_mem) load
  fun_induction Restored.reopenPaths load currentFile r current paths with
  | case1 => exact htabs
  | case2 _ _ _ _ _ ih => exact ih hrows htabs
  | case3 _ _ _ _ _ hfind => exact hopening hrows htabs hfind
  | case4 _ _ _ _ _ hfind _ _ _ _ ih => exact ih hrows (hopening hrows htabs hfind)
  | case5 _ _ _ _ _ hfind _ _ _ _ _ ih => exact ih hrows (hopening hrows htabs hfind)

namespace Named

variable {w : Workbench}

lemma settle (h : w.Named) (move : Navigator → Node → Except NavigationError (Option Node)) :
    (w.settle (w.step move)).Named := by
  rcases settle_step w move with heq | ⟨n, heq⟩
  · rwa [heq]
  · rw [heq]
    exact ⟨h.rows, h.tabs⟩

theorem act (h : w.Named) (a : Action) : (w.act a).Named := by
  have onNode : ∀ key (f : Node → Workbench), (∀ n, n.path ≠ "" → (f n).Named) →
      (w.onNode key f).Named := by
    intro key f hf
    refine onNode_induction h fun n hfind => ?_
    obtain ⟨g, hg, hn⟩ := Option.bind_eq_some_iff.mp hfind
    have hheld : w.store.Holds n :=
      ⟨g, List.mem_of_find?_eq_some hg, List.mem_of_find?_eq_some hn⟩
    exact hf n (h.rows _ hheld.path_mem)
  cases a with
  | load snapshot =>
    rw [Workbench.act]
    cases hload : w.store.loadJson snapshot with
    | error e => exact h
    | ok store =>
      obtain ⟨entries, hentries, rfl⟩ := Store.exists_load_of_loadJson hload
      refine ⟨fun path (hpath : path ∈ (w.store.load entries).paths) => ?_, h.tabs⟩
      rw [Store.paths_load] at hpath
      rcases List.mem_append.mp hpath with hpath | hpath
      · exact Entry.paths_ofSnapshot hentries path hpath
      · exact h.rows path hpath
  | expand key expand =>
    refine onNode key _ fun n _ => ⟨?_, h.tabs⟩
    rw [Store.paths_expand]
    exact h.rows
  | expandAll expand =>
    refine ⟨?_, h.tabs⟩
    rw [Workbench.act, Store.paths_expandAll]
    exact h.rows
  | select key => exact onNode key _ fun n _ => ⟨h.rows, h.tabs⟩
  | click key => exact onNode key _ fun n _ => ⟨h.rows, h.tabs⟩
  | rightClick key => exact onNode key _ fun n _ => ⟨h.rows, h.tabs⟩
  | doubleClick load key => exact onNode key _ fun n hn => ⟨h.rows, named_openNode h.tabs hn load⟩
  | selectDown => exact h.settle _
  | selectUp => exact h.settle _
  | openNode load key => exact onNode key _ fun n hn => ⟨h.rows, named_openNode h.tabs hn load⟩
  | closeTab tid => exact ⟨h.rows, fun tab htab => h.tabs tab (Tabs.mem_of_mem_close htab)⟩
  | setCurrentTab tid =>
    refine ⟨h.rows, ?_⟩
    rw [Workbench.act, Tabs.tabs_setCurrent]
    exact h.tabs
  | restore record =>
    refine ⟨?_, h.tabs⟩
    rw [Workbench.act, Store.paths_expandIn]
    exact h.rows
  | restoreWithTabs load record =>
    have hrows : ∀ path ∈ (record.expandIn w.store).store.paths, path ≠ "" := by
      rw [Store.paths_expandIn]
      exact h.rows
    constructor
    · rw [Workbench.act, SessionRecord.store_applyTo]
      exact hrows
    · have htabs := named_reopenPaths load record.currentFile
        (r := { record.expandIn w.store with tabs := w.tabs }) hrows h.tabs none record.filePaths
      rw [Workbench.act, SessionRecord.applyTo]
      split
      · next heq => rw [heq] at htabs; exact htabs
      · next heq =>
        rw [heq] at htabs
        rw [Restored.tabs_focus]
        exact htabs

theorem run (h : w.Named) (actions : List Action) : (w.run actions).Named := by
  induction actions generalizing w with
  | nil => exact h
  | cons a actions ih => exact ih (h.act a)

end Named

end Workbench

end Sidebar
