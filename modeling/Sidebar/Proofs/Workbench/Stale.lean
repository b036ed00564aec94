import Sidebar.Proofs.Workbench.Selection

/-!
# Nodes of earlier builds

Every load makes new nodes and numbers them from one, so a node of an earlier build shares its id
with a row of the tree, and the id of its parent too. The navigator refuses such a node; but the
move up never asks the navigator unless a sibling is found in front of the node, and a node that is
not in the tree has none. So up leads from it to the row that now has the id of its parent.
-/

namespace Sidebar

/-! ### Neighbours of a node that is not in the forest -/

namespace Navigator

variable {f : Forest} {bound : Int} {n : Node}

section Stale

variable (hn : ∀ m ∈ f.rows, m.key ≠ n.key)
include hn

lemma requireMember_of_stale :
    requireMember ⟨f, bound⟩ n = .error (.notInTree n.tid n.path) := by
  rw [requireMember, if_neg]
  rw [Forest.contains]
  cases hfind : f.find? n.tid with
  | none => simp
  | some m => simpa using hn m (List.mem_of_find?_eq_some hfind)

lemma lastVisible_of_stale : lastVisible ⟨f, bound⟩ n = .error (.notInTree n.tid n.path) := by
  rw [lastVisible, requireMember_of_stale hn]
  rfl

lemma nextVisible_of_stale : nextVisible ⟨f, bound⟩ n = .error (.notInTree n.tid n.path) := by
  rw [nextVisible, requireMember_of_stale hn]
  rfl

lemma isBottom_of_stale : isBottom ⟨f, bound⟩ n = .error (.notInTree n.tid n.path) := by
  rw [isBottom, requireMember_of_stale hn]
  rfl

lemma below_of_stale : below ⟨f, bound⟩ n = .error (.notInTree n.tid n.path) := by
  rw [below, isBottom_of_stale hn]
  rfl

lemma previous?_of_stale : f.previous? n = none :=
  nodeBefore_eq_none fun m hm => hn m (Forest.mem_rows_of_mem_siblings hm)

/-- The move up does not ask whether the node is in the tree. -/
lemma above_of_stale : above ⟨f, bound⟩ n = .ok (f.parent? n) := by
  rw [above, previous?_of_stale hn]
  rfl

end Stale

end Navigator

/-! ### Builds -/

namespace Store.Sound

variable {treeId : String} {s : Store} {n : Node}

/-- No node is of a later build than the tree. -/
lemma build_le (h : s.Sound treeId) (hn : s.Holds n) : n.key.build ≤ s.forest.build := by
  obtain ⟨f, hf, hn⟩ := hn
  obtain ⟨_, hshows⟩ := h.shows f hf
  rw [hshows.build n hn]
  rcases List.mem_cons.mp hf with rfl | hf
  · exact Nat.le_refl _
  · exact Nat.le_of_lt ((List.pairwise_cons.mp h.builds).1 f hf)

/-- No row of the tree is a node of an earlier build. -/
lemma key_ne_of_build_lt (h : s.Sound treeId) (hbuild : n.key.build < s.forest.build) :
    ∀ m ∈ s.forest.rows, m.key ≠ n.key := by
  intro m hm hkey
  obtain ⟨_, hshows⟩ := h.shows s.forest List.mem_cons_self
  rw [← hkey, hshows.build m hm] at hbuild
  exact Nat.lt_irrefl _ hbuild

/-- What is held is a row of the tree, or no row of the tree has its identity. -/
lemma mem_rows_or_stale (h : s.Sound treeId) (hn : s.Holds n) :
    n ∈ s.forest.rows ∨ ∀ m ∈ s.forest.rows, m.key ≠ n.key := by
  by_cases hrow : n ∈ s.forest.rows
  · exact Or.inl hrow
  · refine Or.inr fun m hm hkey => hrow ?_
    rwa [← h.eq_of_holds (holds_of_mem_rows hm) hn hkey]

end Store.Sound

namespace Workbench

variable {treeId : String} {w before : Workbench} {snapshot : Json String} {s : Store} {n : Node}

/-- A node that was held before a load is of an earlier build than the tree, from the load on. -/
lemma Reachable.exists_stale (h : before.Reachable treeId)
    (hload : before.store.loadJson snapshot = .ok s) (hn : before.store.Holds n)
    (after : List Action) (hw : w = before.run (.load snapshot :: after)) :
    w.Reachable treeId ∧ n.key.build < w.store.forest.build ∧
      ∃ n', w.store.Holds n' ∧ n'.row.closed = n.row.closed := by
  have hbuild := h.sound.build_le hn
  have hloaded : (before.act (.load snapshot)).store = s := by rw [act, hload]
  have hprecedes := precedes_run (before.act (.load snapshot)) after
  rw [hloaded] at hprecedes
  refine ⟨hw ▸ h.run _, ?_, ?_⟩
  · obtain ⟨entries, -, rfl⟩ := Store.exists_load_of_loadJson hload
    rw [hw]
    exact Nat.lt_of_lt_of_le (Nat.lt_succ_of_le hbuild) hprecedes.build
  · rw [hw]
    exact hprecedes.exists_holds (hn.loadJson hload)

/-- Whatever is done after a load, a node that was held before it is refused by the navigator and by
the move down, and down from it the selection does not move. The move up gives the row that has the
id of its parent, if there is one, and up from it that row is selected. -/
theorem Reachable.refused_after_load (h : before.Reachable treeId)
    (hload : before.store.loadJson snapshot = .ok s) {key : NodeKey}
    (hheld : before.store.node? key = some n) (after : List Action)
    (hw : w = before.run (.load snapshot :: after)) :
    ∃ n', w.store.node? key = some n' ∧ n'.row.closed = n.row.closed ∧
      (w.navigator.lastVisible n' = .error (.notInTree n'.tid n'.path) ∧
        w.navigator.nextVisible n' = .error (.notInTree n'.tid n'.path) ∧
        w.navigator.isBottom n' = .error (.notInTree n'.tid n'.path) ∧
        w.navigator.below n' = .error (.notInTree n'.tid n'.path)) ∧
      w.navigator.above n' = .ok (w.store.forest.parent? n') ∧
      (w.selection.node = some key →
        w.selectDown = .error (.notInTree n'.tid n'.path) ∧ w.act .selectDown = w ∧
          w.selectUp = .ok (w.landed (w.store.forest.parent? n'))) := by
  obtain ⟨hn, rfl⟩ := h.sound.node?_eq_some_iff.mp hheld
  obtain ⟨hreach, hbuild, n', hn', hrow⟩ := h.exists_stale hload hn after hw
  have hkey : n'.key = n.key := (congrArg Row.key hrow :)
  have hfind := hreach.sound.node?_eq_some_iff.mpr ⟨hn', hkey⟩
  have hstale := hreach.sound.key_ne_of_build_lt (hkey ▸ hbuild)
  have hbelow : w.navigator.below n' = .error (.notInTree n'.tid n'.path) :=
    Navigator.below_of_stale hstale
  have habove : w.navigator.above n' = .ok (w.store.forest.parent? n') :=
    Navigator.above_of_stale hstale
  refine ⟨n', hfind, hrow, ⟨Navigator.lastVisible_of_stale hstale,
    Navigator.nextVisible_of_stale hstale, Navigator.isBottom_of_stale hstale, hbelow⟩, habove,
    fun hselection => ?_⟩
  have hselected : w.selectedNode? = some n' := by rwa [selectedNode?, hselection]
  have hdown : w.selectDown = .error (.notInTree n'.tid n'.path) := by
    rw [selectDown, step_of_some hselected, hbelow]
    rfl
  refine ⟨hdown, ?_, ?_⟩
  · rw [act, hdown, settle]
  · rw [selectUp, step_of_some hselected, habove]
    rfl

/-! ### A row that is taken for the parent -/

/-- A file below a directory is clicked. -/
def clickedFile : Workbench :=
  (emptied {} "files").run [
    .load (.arr [.obj [("path", .str "/a"), ("type", .str "d"), ("children", .arr [
      .obj [("path", .str "/a/b")]])]]),
    .click ⟨1, "files_2"⟩]

def otherSnapshot : Json String := .arr [.obj [("path", .str "/x")]]

/-- Then another tree is loaded, in which the id of the directory is that of another file. -/
def reloaded : Workbench := clickedFile.run [.load otherSnapshot]

/-- The file of the earlier tree. -/
def clickedRow : Node :=
  .node ⟨⟨1, "files_2"⟩, "b", "/a/b", false, 1, some "files_1", false, true⟩ []

/-- The row of the tree that was loaded last. -/
def otherRow : Node := .node ⟨⟨2, "files_1"⟩, "x", "/x", false, 0, none, false, true⟩ []

lemma reachable_clickedFile : clickedFile.Reachable "files" := ⟨_, _, rfl⟩

lemma node?_clickedFile : clickedFile.store.node? ⟨1, "files_2"⟩ = some clickedRow := by
  decide +kernel

lemma node?_reloaded : reloaded.store.node? ⟨1, "files_2"⟩ = some clickedRow := by
  decide +kernel

lemma rows_reloaded : reloaded.store.forest.rows = [otherRow] := by
  decide +kernel

lemma selection_reloaded : reloaded.selection.node = some ⟨1, "files_2"⟩ := by decide +kernel

/-- The move up from the file leads to the row that has nothing to do with it, and the selection
follows. -/
theorem above_clickedRow :
    clickedFile.Reachable "files" ∧
      clickedFile.store.node? ⟨1, "files_2"⟩ = some clickedRow ∧
      (∃ s, clickedFile.store.loadJson otherSnapshot = .ok s) ∧
      reloaded.store.node? ⟨1, "files_2"⟩ = some clickedRow ∧
      reloaded.navigator.above clickedRow = .ok (some otherRow) ∧
      reloaded.selection.node = some ⟨1, "files_2"⟩ ∧
      reloaded.selectUp = .ok (reloaded.click otherRow, some otherRow) := by
  have hselected : reloaded.selectedNode? = some clickedRow := by
    rw [selectedNode?, selection_reloaded]
    exact node?_reloaded
  have hstale : ∀ m ∈ reloaded.store.forest.rows, m.key ≠ clickedRow.key := by
    simp [rows_reloaded, otherRow, clickedRow, Node.key]
  have hparent : reloaded.store.forest.parent? clickedRow = some otherRow := by
    simp [Forest.parent?, Forest.find?, rows_reloaded, otherRow, clickedRow, Node.tid]
  have habove : reloaded.navigator.above clickedRow = .ok (some otherRow) :=
    (Navigator.above_of_stale hstale).trans (congrArg Except.ok hparent)
  refine ⟨reachable_clickedFile, node?_clickedFile, ⟨_, rfl⟩, node?_reloaded, habove,
    selection_reloaded, ?_⟩
  rw [selectUp, step_of_some hselected, habove]
  rfl

theorem refused_after_load_reloaded :
    clickedFile.Reachable "files" ∧
      (∃ s, clickedFile.store.loadJson otherSnapshot = .ok s) ∧
      clickedFile.store.node? ⟨1, "files_2"⟩ = some clickedRow ∧
      reloaded.selection.node = some ⟨1, "files_2"⟩ ∧
      ∃ n, reloaded.store.node? ⟨1, "files_2"⟩ = some n ∧
        n.row.closed = clickedRow.row.closed ∧
        reloaded.selectDown = .error (.notInTree n.tid n.path) ∧
        reloaded.selectUp = .ok (reloaded.landed (reloaded.store.forest.parent? n)) := by
  obtain ⟨s, hs⟩ : ∃ s, clickedFile.store.loadJson otherSnapshot = .ok s := ⟨_, rfl⟩
  obtain ⟨n, hn, hrow, -, -, hselect⟩ :=
    Reachable.refused_after_load reachable_clickedFile hs node?_clickedFile [] rfl
  obtain ⟨hdown, -, hup⟩ := hselect selection_reloaded
  exact ⟨reachable_clickedFile, ⟨s, hs⟩, node?_clickedFile, selection_reloaded, n, hn, hrow, hdown,
    hup⟩

end Workbench

end Sidebar
