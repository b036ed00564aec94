import Sidebar.Proofs.Navigation.Hidden
import Sidebar.Proofs.Workbench.Held

/-!
# The selection

What is selected is recorded twice: the workbench keeps the node, the store its id. In a tree that
is loaded once both records name the same row after every click and every key, however the tree is
opened and closed in between, and the keys lead along the list of visible rows.
-/

namespace Sidebar

/-- The actions of one who walks through a tree: opening and closing, clicks and arrow keys. -/
def Action.IsBrowsing : Action → Prop
  | .expand _ _ | .expandAll _ | .click _ | .rightClick _ | .selectDown | .selectUp => True
  | _ => False

namespace Workbench

variable {treeId : String} {w : Workbench} {n m : Node}
  {move : Navigator → Node → Except NavigationError (Option Node)}

/-! ### Steps -/

/-- Where a step ends: the row that it leads to is selected, or all stays as it was. -/
def landed (w : Workbench) : Option Node → Workbench × Option Node
  | none => (w, none)
  | some n => (w.click n, some n)

lemma step_of_none (h : w.selectedNode? = none) :
    w.step move = .ok (w.landed w.store.forest.roots.head?) := by
  rw [step, h]
  cases w.store.forest.roots.head? <;> rfl

lemma step_of_some (h : w.selectedNode? = some n) :
    w.step move = (move w.navigator n).map w.landed := by
  simp only [step, h]
  cases move w.navigator n with
  | error e => rfl
  | ok target => cases target <;> rfl

/-- A step that leads to a row selects it. -/
lemma eq_click_of_step {w' : Workbench} (h : w.step move = .ok (w', some m)) :
    w' = w.click m ∧ (∀ n, w.selectedNode? = some n → move w.navigator n = .ok (some m)) ∧
      (w.selectedNode? = none → w.store.forest.roots.head? = some m) := by
  have hlanded : ∀ target, w.landed target = (w', some m) → w' = w.click m ∧ target = some m := by
    rintro (_ | n) htarget
    · cases htarget
    · cases htarget
      exact ⟨rfl, rfl⟩
  cases hselected : w.selectedNode? with
  | none =>
    rw [step_of_none hselected] at h
    obtain ⟨rfl, hroot⟩ := hlanded _ (Except.ok.inj h)
    exact ⟨rfl, nofun, fun _ => hroot⟩
  | some n =>
    rw [step_of_some hselected] at h
    obtain ⟨target, hmove, htarget⟩ := map_eq_ok_iff.mp h
    obtain ⟨rfl, rfl⟩ := hlanded _ htarget
    refine ⟨rfl, ?_, nofun⟩
    rintro _ ⟨⟩
    exact hmove

/-- What is selected is held, if it is a node at all. -/
lemma holds_of_selectedNode? (h : w.store.Sound treeId) (hn : w.selectedNode? = some n) :
    w.store.Holds n := by
  obtain ⟨key, -, hfind⟩ := Option.bind_eq_some_iff.mp hn
  exact (h.node?_eq_some_iff.mp hfind).1

/-! ### Both records -/

/-- Both records name the same row of the tree, or nothing, and there are no other rows to name. The
levels are within the bound on walks. -/
structure InStep (treeId : String) (w : Workbench) : Prop where
  store : w.store.Sound treeId
  retired : ∀ f ∈ w.store.retired, f.rows = []
  levels : ∀ row ∈ w.store.forest.closedRows, row.level ≤ w.bound
  records : (w.selection.node = none ∧ w.store.selectedTid = none) ∨
    ∃ row ∈ w.store.forest.closedRows,
      w.selection.node = some row.key ∧ w.store.selectedTid = some row.key.tid

namespace InStep

lemma start {snapshot : Json String} {s : Store}
    (hload : ({ treeId := treeId } : Store).loadJson snapshot = .ok s)
    (hbound : ∀ n ∈ s.forest.rows, n.row.level ≤ w.bound) :
    InStep treeId { w with store := s, selection := {} } := by
  have hsound := (Store.sound_empty treeId).loadJson hload
  obtain ⟨entries, -, rfl⟩ := Store.exists_load_of_loadJson hload
  refine ⟨hsound, ?_, ?_, Or.inl ⟨rfl, rfl⟩⟩
  · intro f hf
    obtain rfl : f = {} := List.mem_singleton.mp hf
    simp [Forest.rows, Node.flatten]
  · intro row hrow
    obtain ⟨n, hn, rfl⟩ := List.mem_map.mp hrow
    exact hbound n hn

lemma level_le (h : w.InStep treeId) : ∀ n ∈ w.store.forest.rows, n.row.level ≤ w.bound :=
  fun n hn => h.levels n.row.closed (List.mem_map_of_mem hn)

lemma mem_rows (h : w.InStep treeId) (hn : w.store.Holds n) : n ∈ w.store.forest.rows := by
  obtain ⟨f, hf, hn⟩ := hn
  rcases List.mem_cons.mp hf with rfl | hf
  · exact hn
  · rw [h.retired f hf] at hn
    exact absurd hn List.not_mem_nil

/-- Both records lead to the same node. -/
lemma selected (h : w.InStep treeId) :
    (w.selectedNode? = none ∧ w.store.selected? = none ∧ w.selection.node = none) ∨
      ∃ n, w.selectedNode? = some n ∧ w.store.selected? = some n ∧
        w.selection.node = some n.key := by
  rcases h.records with ⟨hnode, htid⟩ | ⟨row, hrow, hnode, htid⟩
  · left
    simp [selectedNode?, Store.selected?, hnode, htid]
  · right
    obtain ⟨n, hn, rfl⟩ := List.mem_map.mp hrow
    have hfind := h.store.node?_eq_some_iff.mpr ⟨Store.holds_of_mem_rows hn, rfl⟩
    have hfound := h.store.wellFormed.found n hn
    refine ⟨n, ?_, ?_, hnode⟩
    · rw [selectedNode?, hnode]
      exact hfind
    · rw [Store.selected?, htid]
      exact hfound

/-! ### What is done to them -/

lemma click (h : w.InStep treeId) (hn : n ∈ w.store.forest.rows) : (w.click n).InStep treeId where
  store := h.store.select n
  retired := h.retired
  levels := h.levels
  records := Or.inr ⟨n.row.closed, List.mem_map_of_mem hn, rfl, rfl⟩

/-- Opening and closing touches neither record. -/
lemma keep (h : w.InStep treeId) {s : Store} (hsound : s.Sound treeId)
    (hretired : ∀ f ∈ s.retired, f.rows = [])
    (hrows : s.forest.closedRows = w.store.forest.closedRows)
    (htid : s.selectedTid = w.store.selectedTid) : InStep treeId { w with store := s } where
  store := hsound
  retired := hretired
  levels := hrows ▸ h.levels
  records := by
    show (_ ∧ s.selectedTid = none) ∨ ∃ row ∈ s.forest.closedRows, _ ∧ s.selectedTid = _
    rw [hrows, htid]
    exact h.records

lemma expand (h : w.InStep treeId) (hn : w.store.Holds n) (expand : Option Bool) :
    InStep treeId { w with store := w.store.expand n expand } := by
  have hsound := h.store.expand hn expand
  rw [Store.expand] at hsound ⊢
  cases hexpanded : Store.expanded? n expand with
  | none => exact h
  | some isOpen =>
    rw [hexpanded] at hsound
    refine h.keep hsound ?_ (Forest.closedRows_modify ..) rfl
    intro f hf
    obtain ⟨g, hg, rfl⟩ := List.mem_map.mp hf
    rw [Forest.modify, Forest.rows_map, h.retired g hg, List.map_nil]

lemma settle (h : w.InStep treeId)
    (hmove : ∀ n ∈ w.store.forest.rows, ∀ m, move w.navigator n = .ok (some m) →
      m ∈ w.store.forest.rows) : (w.settle (w.step move)).InStep treeId := by
  have hlanded : ∀ target : Option Node, (∀ m, target = some m → m ∈ w.store.forest.rows) →
      (w.landed target).1.InStep treeId := by
    intro target htarget
    cases target with
    | none => exact h
    | some m => exact h.click (htarget m rfl)
  cases hselected : w.selectedNode? with
  | none =>
    rw [step_of_none hselected]
    refine hlanded _ fun m hm => ?_
    rw [Forest.rows_eq_preorderAll]
    exact Node.mem_preorderAll_of_mem (List.mem_of_head? hm)
  | some n =>
    rw [step_of_some hselected]
    cases htarget : move w.navigator n with
    | error e => exact h
    | ok target =>
      have hn := h.mem_rows (holds_of_selectedNode? h.store hselected)
      refine hlanded target fun m hm => hmove n hn m ?_
      rw [htarget, hm]

theorem act (h : w.InStep treeId) {a : Action} (ha : a.IsBrowsing) : (w.act a).InStep treeId := by
  have onNode : ∀ key (f : Node → Workbench),
      (∀ n, w.store.Holds n → (f n).InStep treeId) → (w.onNode key f).InStep treeId :=
    fun key f hf => onNode_induction h fun n hfind => hf n (h.store.node?_eq_some_iff.mp hfind).1
  cases a with
  | expand key expand => exact onNode key _ fun n hn => h.expand hn expand
  | expandAll expand =>
    exact h.keep (h.store.expandAll expand) h.retired (Forest.closedRows_expandAll ..) rfl
  | click key => exact onNode key _ fun n hn => h.click (h.mem_rows hn)
  | rightClick key => exact onNode key _ fun n hn => h.click (h.mem_rows hn)
  | selectDown =>
    exact h.settle fun n hn m hm => Navigator.mem_rows_of_below h.store.wellFormed hn hm
  | selectUp =>
    exact h.settle fun n hn m hm => Navigator.mem_rows_of_above h.store.wellFormed hn hm
  | _ => exact ha.elim

theorem run (h : w.InStep treeId) {actions : List Action}
    (hactions : ∀ a ∈ actions, a.IsBrowsing) : (w.run actions).InStep treeId := by
  induction actions generalizing w with
  | nil => exact h
  | cons a actions ih =>
    have ha := hactions a List.mem_cons_self
    exact ih (h.act ha) fun b hb => hactions b (List.mem_cons_of_mem a hb)

end InStep

/-! ### Walks through a tree -/

/-- Some walk through a tree that was loaded once, with levels within the bound, leads to the
workbench. -/
def Browsed (treeId : String) (w : Workbench) : Prop :=
  ∃ (start : Workbench) (snapshot : Json String) (s : Store) (actions : List Action),
    ({ treeId := treeId } : Store).loadJson snapshot = .ok s ∧
    (∀ n ∈ s.forest.rows, n.row.level ≤ start.bound) ∧
    (∀ a ∈ actions, a.IsBrowsing) ∧
    w = run { start with store := s, selection := {} } actions

lemma Browsed.inStep (h : w.Browsed treeId) : w.InStep treeId := by
  obtain ⟨start, snapshot, s, actions, hload, hbound, hactions, rfl⟩ := h
  exact (InStep.start hload hbound).run hactions

/-- Both records of the selection always agree. With nothing selected, a step leads to the first
root; from a visible row it leads to the next or the previous one, and stays at the ends. A row that
is selected is so in both records. -/
theorem Browsed.steps (h : w.Browsed treeId) :
    (w.selection.node = w.store.selected?.map Node.key ∧ w.selectedNode? = w.store.selected?) ∧
    (w.selectedNode? = none →
      w.selectDown = .ok (w.landed w.store.forest.roots.head?) ∧
        w.selectUp = .ok (w.landed w.store.forest.roots.head?)) ∧
    (∀ i (hi : i < w.store.forest.visibleRows.length),
      w.selectedNode? = some w.store.forest.visibleRows[i] →
        w.selectDown = .ok (w.landed w.store.forest.visibleRows[i + 1]?) ∧
          w.selectUp =
            .ok (w.landed (if i = 0 then none else w.store.forest.visibleRows[i - 1]?))) ∧
    ∀ n ∈ w.store.forest.rows,
      (w.click n).selectedNode? = some n ∧ (w.click n).store.selected? = some n := by
  have hstep := h.inStep
  have hform := hstep.store.wellFormed
  refine ⟨?_, ?_, ?_, ?_⟩
  · rcases hstep.selected with ⟨hhere, hstored, hnode⟩ | ⟨n, hhere, hstored, hnode⟩ <;>
      simp [hhere, hstored, hnode]
  · exact fun hnone => ⟨step_of_none hnone, step_of_none hnone⟩
  · intro i hi hselected
    have hdown : w.navigator.below w.store.forest.visibleRows[i] = _ :=
      Navigator.below_getElem hform hstep.level_le hi
    have hup : w.navigator.above w.store.forest.visibleRows[i] = _ :=
      Navigator.above_getElem hform hstep.level_le hi
    constructor
    · rw [selectDown, step_of_some hselected, hdown]
      rfl
    · rw [selectUp, step_of_some hselected, hup]
      rfl
  · intro n hn
    exact ⟨hstep.store.node?_eq_some_iff.mpr ⟨Store.holds_of_mem_rows hn, rfl⟩,
      hform.found n hn⟩

def oneDirectory : Json String :=
  .arr [
    .obj [("path", .str "/a"), ("type", .str "d"), ("children", .arr [
      .obj [("path", .str "/a/b")]])],
    .obj [("path", .str "/c")]]

/-- A directory is opened, and its file reached with two steps down. -/
def twoStepsDown : Workbench :=
  run { store := ({} : Store).load [.dir "a" "/a" [.file "b" "/a/b"], .file "c" "/c"], bound := 1 }
    [.expand ⟨1, "files_1"⟩ (some true), .selectDown, .selectDown]

theorem steps_twoStepsDown :
    twoStepsDown.Browsed "files" ∧
      ∃ hi : 1 < twoStepsDown.store.forest.visibleRows.length,
        twoStepsDown.selectedNode? = some twoStepsDown.store.forest.visibleRows[1] ∧
          twoStepsDown.selectDown =
            .ok (twoStepsDown.landed twoStepsDown.store.forest.visibleRows[2]?) ∧
          twoStepsDown.selectUp =
            .ok (twoStepsDown.landed twoStepsDown.store.forest.visibleRows[0]?) := by
  have hbrowsed : twoStepsDown.Browsed "files" := by
    refine ⟨{ bound := 1 }, oneDirectory, _, _, rfl, ?_, ?_, rfl⟩
    · decide +kernel
    · simp [Action.IsBrowsing]
  have hi : 1 < twoStepsDown.store.forest.visibleRows.length := by decide +kernel
  have hselected : twoStepsDown.selectedNode? = twoStepsDown.store.forest.visibleRows[1]? := by
    decide +kernel
  rw [List.getElem?_eq_getElem hi] at hselected
  exact ⟨hbrowsed, hi, hselected, (Browsed.steps hbrowsed).2.2.1 1 hi hselected⟩

end Workbench

end Sidebar
