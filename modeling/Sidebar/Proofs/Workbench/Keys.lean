import Sidebar.Proofs.Workbench.Stale

/-!
# Keys and visible rows

Arrow keys start from the node that was selected last. By then it can be hidden, since a directory
above it was closed, or be of an earlier build. The keys do not ask, and may lead to another row
that is not shown. Here it is said when they do, for all that can be reached with clicks on visible
rows.
-/

namespace Sidebar

namespace Workbench

variable {treeId : String} {w w' : Workbench} {n m : Node}

/-- Loads, opening and closing, keys, and clicks on what is shown. -/
def Allows (w : Workbench) : Action → Prop
  | .load _ | .expand _ _ | .expandAll _ | .selectDown | .selectUp => True
  | .click key | .rightClick key => ∃ n ∈ w.store.forest.visibleRows, n.key = key
  | _ => False

/-- A workbench that such actions lead to. -/
inductive Explored (treeId : String) : Workbench → Prop where
  | start (bound : Int) : Explored treeId (emptied { bound := bound } treeId)
  | act {w : Workbench} {a : Action} (h : Explored treeId w) (ha : w.Allows a) :
      Explored treeId (w.act a)

lemma Explored.reachable (h : w.Explored treeId) : w.Reachable treeId := by
  induction h with
  | start bound => exact ⟨{ bound := bound }, [], rfl⟩
  | @act w a h ha ih => exact ih.run [a]

lemma Reachable.below_visible_iff (h : w.Reachable treeId) (hn : w.store.Holds n)
    (hmove : w.navigator.below n = .ok (some m)) :
    m ∈ w.store.forest.visibleRows ↔
      n ∈ w.store.forest.visibleRows ∨ w.store.forest.EndsHiddenRows n := by
  rcases h.sound.mem_rows_or_stale hn with hrow | hstale
  · exact Navigator.mem_visibleRows_of_below_iff h.sound.wellFormed hrow hmove
  · cases (Navigator.below_of_stale hstale).symm.trans hmove

/-- Up from a node of an earlier build, too, leads to a visible row only if that is the parent. -/
lemma Reachable.above_visible_iff (h : w.Reachable treeId) (hn : w.store.Holds n)
    (hmove : w.navigator.above n = .ok (some m)) :
    m ∈ w.store.forest.visibleRows ↔
      n ∈ w.store.forest.visibleRows ∨ w.store.forest.StartsBelowVisible n := by
  rcases h.sound.mem_rows_or_stale hn with hrow | hstale
  · exact Navigator.mem_visibleRows_of_above_iff h.sound.wellFormed hrow hmove
  · have hparent := Except.ok.inj ((Navigator.above_of_stale hstale).symm.trans hmove)
    have hhidden : n ∉ w.store.forest.visibleRows := fun hvisible =>
      hstale n (Forest.WellFormed.mem_rows_of_mem_visibleRows hvisible) rfl
    rw [or_iff_right hhidden, Forest.StartsBelowVisible, Navigator.previous?_of_stale hstale,
      hparent]
    simp

/-- The row that a key leads to is visible unless the selected node is not. From a hidden node down
leads to a visible row only from the end of what a closed row hides, and up only to the parent. -/
theorem Explored.leads_to_visible_iff (h : w.Explored treeId) :
    (w.selectDown = .ok (w', some m) →
      (m ∈ w'.store.forest.visibleRows ↔ ∀ n, w.selectedNode? = some n →
        n ∈ w.store.forest.visibleRows ∨ w.store.forest.EndsHiddenRows n)) ∧
    (w.selectUp = .ok (w', some m) →
      (m ∈ w'.store.forest.visibleRows ↔ ∀ n, w.selectedNode? = some n →
        n ∈ w.store.forest.visibleRows ∨ w.store.forest.StartsBelowVisible n)) := by
  have hkey : ∀ {move} {Leads : Node → Prop},
      (∀ n, w.store.Holds n → move w.navigator n = .ok (some m) →
        (m ∈ w.store.forest.visibleRows ↔ Leads n)) →
      w.step move = .ok (w', some m) →
      (m ∈ w'.store.forest.visibleRows ↔ ∀ n, w.selectedNode? = some n → Leads n) := by
    intro move Leads hmove hstep
    obtain ⟨rfl, hfrom, hroot⟩ := eq_click_of_step hstep
    show m ∈ w.store.forest.visibleRows ↔ _
    cases hselected : w.selectedNode? with
    | none => exact iff_of_true (Forest.mem_visibleRows_of_head?_roots (hroot hselected)) nofun
    | some n =>
      have hn := holds_of_selectedNode? h.reachable.sound hselected
      rw [hmove n hn (hfrom n hselected)]
      simp
  exact ⟨hkey fun n hn => h.reachable.below_visible_iff hn,
    hkey fun n hn => h.reachable.above_visible_iff hn⟩

/-! ### A directory that is closed over the selection -/

/-- A directory with two files is loaded and opened. -/
def openedDir : Workbench :=
  (emptied {} "files").run [
    .load (.arr [.obj [("path", .str "/a"), ("type", .str "d"), ("children", .arr [
      .obj [("path", .str "/a/b")], .obj [("path", .str "/a/c")]])]]),
    .expand ⟨1, "files_1"⟩ (some true)]

/-- Its first file is clicked, and then the directory is closed. -/
def closedOverFile : Workbench :=
  openedDir.run [.click ⟨1, "files_2"⟩, .expand ⟨1, "files_1"⟩ (some false)]

def firstFile : Node :=
  .node ⟨⟨1, "files_2"⟩, "b", "/a/b", false, 1, some "files_1", false, false⟩ []

def secondFile : Node :=
  .node ⟨⟨1, "files_3"⟩, "c", "/a/c", false, 1, some "files_1", false, true⟩ []

lemma explored_closedOverFile : closedOverFile.Explored "files" := by
  have hopened : openedDir.Explored "files" := by
    simp only [openedDir, run, List.foldl_cons, List.foldl_nil]
    exact .act (.act (.start _) trivial) trivial
  have hclick : openedDir.Allows (.click ⟨1, "files_2"⟩) := by
    rw [Allows]
    decide +kernel
  simp only [closedOverFile, run, List.foldl_cons, List.foldl_nil]
  exact .act (.act hopened hclick) trivial

lemma selectDown_closedOverFile :
    closedOverFile.selectDown = .ok (closedOverFile.click secondFile, some secondFile) := by
  have hselected : closedOverFile.selectedNode? = some firstFile := by decide +kernel
  have hbelow : closedOverFile.navigator.below firstFile = .ok (some secondFile) := by
    decide +kernel
  rw [selectDown, step_of_some hselected, hbelow]
  rfl

/-- The key leads from a hidden file to a hidden file. -/
theorem selectDown_to_hidden :
    closedOverFile.Explored "files" ∧
      closedOverFile.selectDown = .ok (closedOverFile.click secondFile, some secondFile) ∧
      secondFile ∉ (closedOverFile.click secondFile).store.forest.visibleRows :=
  ⟨explored_closedOverFile, selectDown_closedOverFile, by decide +kernel⟩

theorem leads_to_visible_iff_closedOverFile :
    closedOverFile.Explored "files" ∧
      closedOverFile.selectDown = .ok (closedOverFile.click secondFile, some secondFile) ∧
      (secondFile ∈ (closedOverFile.click secondFile).store.forest.visibleRows ↔
        ∀ n, closedOverFile.selectedNode? = some n →
          n ∈ closedOverFile.store.forest.visibleRows ∨
            closedOverFile.store.forest.EndsHiddenRows n) :=
  ⟨explored_closedOverFile, selectDown_closedOverFile,
    (Explored.leads_to_visible_iff explored_closedOverFile).1 selectDown_closedOverFile⟩

end Workbench

end Sidebar
