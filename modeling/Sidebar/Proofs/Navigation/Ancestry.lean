import Sidebar.Proofs.Navigation.Walks
import Sidebar.Proofs.Session.RoundTrip
import Sidebar.Proofs.Tree.Ancestors

/-!
# Questions about ancestors

The navigator looks for an ancestor on the way up, comparing the ids that rows name as parents. Down
from the other node, the same is said by the lists of children alone: a row has an ancestor when it
is among the rows below it. So the tabs under a directory are those of the rows below it.
-/

namespace Sidebar

open Editor Node

/-- Where a test always has an outcome, the items that pass it are kept. -/
lemma filterM_eq_ok {ε α : Type} {test : α → Except ε Bool} {passes : α → Bool} {items : List α}
    (h : ∀ a ∈ items, test a = .ok (passes a)) :
    items.filterM test = .ok (items.filter passes) := by
  have haux : ∀ kept, items.filterAuxM test kept =
      .ok ((items.filter passes).reverse ++ kept) := by
    induction items with
    | nil => exact fun _ => rfl
    | cons a items ih =>
      intro kept
      have hrest := ih fun b hb => h b (List.mem_cons_of_mem a hb)
      rw [List.filterAuxM, h a List.mem_cons_self]
      refine (hrest _).trans (congrArg Except.ok ?_)
      cases hpass : passes a <;> simp [hpass]
  rw [List.filterM, haux []]
  simp [bind, Except.bind, pure, Except.pure]

/-- An id leads to the row that has it. -/
lemma Forest.WellFormed.bind_find?_eq_some_iff {treeId : String} {f : Forest}
    (h : f.WellFormed treeId) {tid : Option String} {n : Node} :
    tid.bind f.find? = some n ↔ n ∈ f.rows ∧ tid = some n.tid := by
  constructor
  · intro hfind
    obtain ⟨tid, rfl, hfind⟩ := Option.bind_eq_some_iff.mp hfind
    have htid : n.tid = tid := by simpa using List.find?_some hfind
    exact ⟨List.mem_of_find?_eq_some hfind, congrArg some htid.symm⟩
  · rintro ⟨hn, rfl⟩
    exact h.found n hn

namespace Navigator

variable {treeId : String} {f : Forest} {p : Position} {n : Node} {overrun : NavigationError}

/-- The walk up meets the ids of the ancestors, and ends at a root. -/
lemma meetsAbove_fill (h : f.WellFormed treeId) (hfill : f.roots = p.fill n) {moves : Nat}
    (hmoves : p.depth ≤ moves) (ancestor : Option String) :
    ∃ met, meetsAbove f overrun ancestor moves n = .ok met ∧
      (met ↔ ∃ a, f.Ancestor a n ∧ ancestor = some a.tid) := by
  induction p generalizing n moves with
  | root front back =>
    have hparent := h.parent?_fill hfill
    have hnone : n.row.parentTid = none := (h.root n (by simp [hfill, Position.fill])).2
    refine ⟨false, by rw [meetsAbove.eq_def]; simp only [hnone], ?_⟩
    simp [Forest.not_ancestor_of_parent? hparent]
  | child front back parent up ih =>
    set above := Node.node parent (front ++ n :: back) with habove
    have hparent : f.parent? n = some above := h.parent?_fill hfill
    have hrow : above ∈ f.rows := Position.mem_rows_of_fill (p := up) hfill
    have hsome : n.row.parentTid = some above.tid := (h.child above hrow n (by simp [habove])).2
    rw [meetsAbove.eq_def]
    simp only [hsome]
    by_cases hmet : ancestor = some above.tid
    · refine ⟨true, if_pos hmet, ?_⟩
      exact iff_of_true rfl ⟨above, (Forest.ancestor_iff_of_parent? hparent).mpr (Or.inl rfl), hmet⟩
    · rw [Position.depth] at hmoves
      obtain ⟨moves, rfl⟩ := Nat.exists_eq_succ_of_ne_zero (Nat.ne_of_gt (Nat.zero_lt_of_lt hmoves))
      obtain ⟨met, hanswer, hiff⟩ := ih hfill (Nat.le_of_succ_le_succ hmoves)
      refine ⟨met, ?_, hiff.trans (exists_congr fun a => and_congr_left fun ha => ?_)⟩
      · rw [if_neg hmet, h.found above hrow]
        exact hanswer
      · rw [Forest.ancestor_iff_of_parent? hparent]
        refine ⟨Or.inr, fun hup => hup.resolve_left ?_⟩
        rintro rfl
        exact hmet ha

/-- Within the bound the question always has an answer, which the lists of children give as well. -/
theorem exists_isAncestor (h : f.WellFormed treeId) {bound : Int}
    (hbound : ∀ n ∈ f.rows, n.row.level ≤ bound) (tid ancestor : Option String) :
    ∃ answer, isAncestor ⟨f, bound⟩ tid ancestor = .ok answer ∧
      (answer ↔ ∃ n a, tid.bind f.find? = some n ∧ ancestor.bind f.find? = some a ∧
        n ∈ flatten a.children) := by
  rw [isAncestor]
  cases htid : tid.bind f.find? with
  | none => exact ⟨false, rfl, by simp⟩
  | some n =>
    have hn : n ∈ f.rows := (h.bind_find?_eq_some_iff.mp htid).1
    obtain ⟨p, hfill⟩ := Position.exists_fill_of_mem_rows hn
    obtain ⟨met, hmet, hiff⟩ := @meetsAbove_fill treeId f p n (overrun ⟨f, bound⟩ n) h hfill _
      (depth_le_toNat h hbound hfill) ancestor
    refine ⟨met, hmet, hiff.trans ?_⟩
    simp only [h.ancestor_iff hn, h.bind_find?_eq_some_iff, flatten_eq_preorderAll,
      Option.some.injEq]
    constructor
    · rintro ⟨a, ⟨ha, hbelow⟩, htid⟩
      exact ⟨n, a, rfl, ⟨ha, htid⟩, hbelow⟩
    · rintro ⟨_, a, rfl, ⟨ha, htid⟩, hbelow⟩
      exact ⟨a, ⟨ha, hbelow⟩, htid⟩

end Navigator

/-! ### Tabs -/

namespace Workbench

variable {treeId : String} {w : Workbench}

/-- In every reachable tree whose levels are within the bound, an id is that of an ancestor of the
node with another id just when the one node is in the tree and the other is among the rows below it.
The tabs under a directory are those whose nodes are below it, in the order of the tabs. -/
theorem Reachable.isAncestor_iff_below (h : w.Reachable treeId)
    (hbound : ∀ n ∈ w.store.forest.rows, n.row.level ≤ w.bound) :
    (∀ tid ancestor : Option String, ∃ answer, w.navigator.isAncestor tid ancestor = .ok answer ∧
      (answer ↔ ∃ n a, tid.bind w.store.forest.find? = some n ∧
        ancestor.bind w.store.forest.find? = some a ∧ n ∈ flatten a.children)) ∧
    ∀ (t : Tabs) (node : Tab → Node),
      (∀ tab ∈ t.tabs, node tab ∈ w.store.forest.rows ∧ ∃ load, tab.ShowsFile load (node tab)) →
      ∀ ancestor : Option String, t.under w.navigator ancestor =
        .ok (t.tabs.filter fun tab =>
          ∃ a ∈ w.store.forest.rows, ancestor = some a.tid ∧ node tab ∈ flatten a.children) := by
  have hwell := h.sound.wellFormed
  have hanswer := Navigator.exists_isAncestor hwell hbound
  refine ⟨hanswer, fun t node hnodes ancestor => filterM_eq_ok fun tab htab => ?_⟩
  obtain ⟨hrow, load, hfile⟩ := hnodes tab htab
  obtain ⟨answer, hok, hiff⟩ := hanswer (some tab.tid) ancestor
  refine hok.trans (congrArg Except.ok ?_)
  rw [Bool.eq_iff_iff, hiff, decide_eq_true_iff, hfile.tid]
  simp only [Option.bind_some, hwell.found _ hrow, hwell.bind_find?_eq_some_iff, Option.some.injEq]
  constructor
  · rintro ⟨_, a, rfl, ⟨ha, htid⟩, hbelow⟩
    exact ⟨a, ha, htid, hbelow⟩
  · rintro ⟨a, ha, htid, hbelow⟩
    exact ⟨node tab, a, rfl, ⟨ha, htid⟩, hbelow⟩

/-- A workbench with a tab for a file at the root, and one for a file in a directory. -/
def twoTabs : Workbench :=
  (emptied { bound := 1 } "files").run
    (.load twoFiles :: openTwoFiles fun path => .ok (.text plainMode path))

/-- The file in the directory. -/
def fileBelow : Node :=
  .node ⟨⟨1, "files_2"⟩, "x", "/a/x", false, 1, some "files_1", false, true⟩ []

/-- The file that each of the two tabs shows. -/
def fileOfTab (tab : Tab) : Node :=
  if tab.tid = "files_2" then fileBelow
  else .node ⟨⟨1, "files_3"⟩, "b", "/b", false, 0, none, false, true⟩ []

/-- The directory is an ancestor of the file in it, and the tab of that file is under it. -/
theorem isAncestor_iff_below_twoTabs :
    twoTabs.Reachable "files" ∧
      (∀ n ∈ twoTabs.store.forest.rows, n.row.level ≤ twoTabs.bound) ∧
      (∀ tab ∈ twoTabs.tabs.tabs, fileOfTab tab ∈ twoTabs.store.forest.rows ∧
        ∃ load, tab.ShowsFile load (fileOfTab tab)) ∧
      twoTabs.navigator.isAncestor (some "files_2") (some "files_1") = .ok true ∧
      twoTabs.tabs.tabs.map Tab.path = ["/b", "/a/x"] ∧
      (twoTabs.tabs.under twoTabs.navigator (some "files_1")).map (·.map Tab.path) =
        .ok ["/a/x"] := by
  have hreach : twoTabs.Reachable "files" := ⟨_, _, rfl⟩
  have hbound : ∀ n ∈ twoTabs.store.forest.rows, n.row.level ≤ twoTabs.bound := by
    decide +kernel
  have htabs : twoTabs.tabs.tabs =
      [⟨"files_3", "/b", plainMode, "/b"⟩, ⟨"files_2", "/a/x", plainMode, "/a/x"⟩] := by
    decide +kernel
  have hfiles : ∀ tab ∈ twoTabs.tabs.tabs, fileOfTab tab ∈ twoTabs.store.forest.rows ∧
      ∃ load, tab.ShowsFile load (fileOfTab tab) := by
    intro tab htab
    rw [htabs] at htab
    refine ⟨?_, fun path => .ok (.text plainMode path), ?_⟩
    · revert tab
      decide +kernel
    · rcases List.mem_pair.mp htab with rfl | rfl <;> exact ⟨rfl, rfl, rfl, rfl⟩
  obtain ⟨hanswer, hunder⟩ := Reachable.isAncestor_iff_below hreach hbound
  refine ⟨hreach, hbound, hfiles, ?_, by rw [htabs]; rfl, ?_⟩
  · obtain ⟨answer, hok, hiff⟩ := hanswer (some "files_2") (some "files_1")
    have hbelow : answer = true := hiff.mpr
      ⟨fileBelow, .node ⟨⟨1, "files_1"⟩, "a", "/a", true, 0, none, true, false⟩ [fileBelow],
        by decide +kernel, by decide +kernel, by decide +kernel⟩
    rw [hok, hbelow]
  · rw [hunder twoTabs.tabs fileOfTab hfiles (some "files_1"), Except.map]
    refine congrArg Except.ok ?_
    decide +kernel

end Workbench

end Sidebar
