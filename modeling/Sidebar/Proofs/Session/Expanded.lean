import Sidebar.Session
import Sidebar.Proofs.Text.WideText
import Sidebar.Proofs.Tree.Shows

/-!
# Saved directories

Restoring opens the first row with each saved path, one path after the other. Together that is one
change of the tree: a node is open afterwards when it was open before, or can be opened and is the
first row with one of the paths. A path without such a row is reported as missing.
-/

namespace Sidebar

open Node

/-- The texts of the open paths are those of no other paths. -/
lemma SessionRecord.mem_openTexts {f : Forest} {path : String} :
    (path : WideText) ∈ openTexts f ↔ path ∈ f.openPaths :=
  List.mem_map_of_injective WideText.ofString_injective

namespace Forest

/-- Whether a node is the first row with one of the paths. -/
def isNamed (f : Forest) (paths : List WideText) (n : Node) : Bool :=
  paths.any fun path => (f.atSavedPath? path).any fun m => m.tid = n.tid

/-- Whether the first row with a path can be opened. -/
def canOpen (f : Forest) (path : WideText) : Bool := (f.atSavedPath? path).any isExpandable

/-- Opens the first row with each path, where that is possible. -/
def openAt (paths : List WideText) (f : Forest) : Forest :=
  f.map fun n => { n.row with isOpen := n.isOpen || (n.isExpandable && f.isNamed paths n) }

lemma atSavedPath?_ofString (f : Forest) (path : String) :
    f.atSavedPath? path = f.atPath? path := by
  rw [atSavedPath?, WideText.narrow?_ofString, Option.bind_some]

/-- A text with surrogates in it is the path of no row. -/
lemma WellFormed.atSavedPath?_eq {treeId : String} {f : Forest} (h : f.WellFormed treeId)
    (path : WideText) : f.atSavedPath? path = f.rows.find? fun n => n.path = path := by
  cases hnarrow : path.narrow? with
  | none =>
    rw [atSavedPath?, hnarrow, Option.bind_none, eq_comm, List.find?_eq_none]
    intro n _ hpath
    rw [← of_decide_eq_true hpath, WideText.narrow?_ofString] at hnarrow
    cases hnarrow
  | some text =>
    obtain rfl := WideText.narrow?_eq_some_iff.mp hnarrow
    rw [atSavedPath?_ofString, h.atPath?_eq]
    simp only [WideText.ofString_inj]

/-- Only the id of the node matters. -/
lemma isNamed_of_tid_eq (f : Forest) (paths : List WideText) {m n : Node} (htid : m.tid = n.tid) :
    f.isNamed paths m = f.isNamed paths n := by
  simp only [isNamed, htid]

/-- The open marks afterwards. -/
theorem marks_openAt (f : Forest) (paths : List WideText) :
    ((f.openAt paths).rows.map fun n => (n.tid, n.isOpen)) =
      f.rows.map fun n => (n.tid, n.isOpen || (n.isExpandable && f.isNamed paths n)) := by
  rw [openAt, rows_map, List.map_map]
  apply List.map_congr_left
  intro n _
  simp [tid, isOpen]

lemma openAt_eq_self {f : Forest} {paths : List WideText}
    (h : ∀ n ∈ f.rows, n.isExpandable → f.isNamed paths n = false) : f.openAt paths = f := by
  have hrow : f.openAt paths = f.map row := by
    apply map_congr
    intro n hn
    by_cases hexpandable : n.isExpandable
    · simp [h n hn hexpandable, isOpen]
    · simp [hexpandable, isOpen]
  rw [hrow, map_row]

namespace Shows

variable {treeId : String} {entries : List Entry} {f g : Forest}

theorem openAt (h : f.Shows treeId entries) (paths : List WideText) :
    (f.openAt paths).Shows treeId entries := by
  apply h.map
  · intro n _
    exact ⟨_, rfl⟩
  · intro n hn hopen
    rcases Bool.or_eq_true_iff.mp hopen with hopen | hopen
    · exact h.expandable n hn hopen
    · exact (Bool.and_eq_true_iff.mp hopen).1

/-- What is asked of the row at a path is the same for all forests that show the same entries. -/
lemma any_atSavedPath?_congr (hf : f.Shows treeId entries) (hg : g.Shows treeId entries)
    (path : WideText) {p : Node → Bool} (hp : ∀ n, p (n.map bareRow) = p n) :
    (f.atSavedPath? path).any p = (g.atSavedPath? path).any p := by
  have hfind : ∀ h : Forest, h.Shows treeId entries → (h.atSavedPath? path).any p =
      ((h.rows.map fun n => (n.path, p n)).find? fun pair => (pair.1 : WideText) = path).any
        Prod.snd := by
    intro h hh
    rw [hh.wellFormed.atSavedPath?_eq, List.find?_map, Option.any_map]
    rfl
  have hrows := hf.map_rows_congr hg (fun n => (n.path, p n)) fun n => by
    simp [Node.path, bareRow, hp]
  rw [hfind f hf, hfind g hg, hrows]

lemma isNamed_congr (hf : f.Shows treeId entries) (hg : g.Shows treeId entries)
    (paths : List WideText) (n : Node) : f.isNamed paths n = g.isNamed paths n := by
  have hany : ∀ path : WideText, ((f.atSavedPath? path).any fun m => m.tid = n.tid) =
      (g.atSavedPath? path).any fun m => m.tid = n.tid := fun path =>
    hf.any_atSavedPath?_congr hg path fun m => by
      have htid : (m.map bareRow).tid = m.tid := by simp [tid, bareRow]
      rw [htid]
  simp only [isNamed, hany]

lemma canOpen_congr (hf : f.Shows treeId entries) (hg : g.Shows treeId entries) (path : WideText) :
    f.canOpen path = g.canOpen path :=
  hf.any_atSavedPath?_congr hg path fun n => by simp [isExpandable, bareRow]

/-- Where paths differ, the rows that paths name are those with one of them. -/
lemma isNamed_iff_mem (h : f.Shows treeId entries) (hpaths : (f.rows.map Node.path).Nodup)
    (paths : List WideText) {n : Node} (hn : n ∈ f.rows) :
    f.isNamed paths n ↔ (n.path : WideText) ∈ paths := by
  rw [isNamed, List.any_eq_true]
  constructor
  · rintro ⟨path, hpath, hnamed⟩
    obtain ⟨m, hfind, hm_tid⟩ := (Option.any_eq_true _ _).mp hnamed
    rw [h.wellFormed.atSavedPath?_eq] at hfind
    have hm : m ∈ f.rows := List.mem_of_find?_eq_some hfind
    obtain rfl := h.wellFormed.eq_of_tid_eq hm hn (of_decide_eq_true hm_tid)
    have hm_path : (m.path : WideText) = path := by simpa using List.find?_some hfind
    rwa [hm_path]
  · intro hmem
    refine ⟨n.path, hmem, ?_⟩
    rw [atSavedPath?_ofString, h.wellFormed.atPath?_path hpaths hn]
    simp

/-- Opening at some paths and then at others is opening at all of them. -/
lemma openAt_openAt (h : f.Shows treeId entries) (paths rest : List WideText) :
    (f.openAt paths).openAt rest = f.openAt (paths ++ rest) := by
  rw [Forest.openAt, Forest.openAt, map_map, Forest.openAt]
  apply map_congr
  intro n _
  have hnamed : (f.openAt paths).isNamed rest = f.isNamed rest :=
    funext fun m => isNamed_congr (h.openAt paths) h rest m
  have hsplit : f.isNamed (paths ++ rest) n = (f.isNamed paths n || f.isNamed rest n) := by
    simp [isNamed]
  rw [← Forest.openAt, hnamed, f.isNamed_of_tid_eq rest (n := n) (by simp [tid]), hsplit]
  simp [Node.isOpen, isExpandable, Bool.or_assoc, Bool.and_or_distrib_left]

/-! ### One path -/

lemma openAt_of_none {path : WideText}
    (hnone : f.atSavedPath? path = none) : f.openAt [path] = f :=
  openAt_eq_self fun n _ _ => by simp [isNamed, hnone]

/-- The row found at a path is opened if it can be. -/
lemma openAt_of_some (h : f.Shows treeId entries) {path : WideText} {n : Node}
    (hfind : f.atSavedPath? path = some n) :
    f.openAt [path] =
      if n.isExpandable then f.modify n.key fun row => { row with isOpen := true } else f := by
  have hwell := h.wellFormed
  have hn : n ∈ f.rows := by
    rw [hwell.atSavedPath?_eq] at hfind
    exact List.mem_of_find?_eq_some hfind
  have hother : ∀ m ∈ f.rows, m ≠ n → f.isNamed [path] m = false ∧ m.key ≠ n.key := by
    intro m hm hne
    have hm_tid : m.tid ≠ n.tid := fun heq => hne (hwell.eq_of_tid_eq hm hn heq)
    refine ⟨by simp [isNamed, hfind, hm_tid.symm], ?_⟩
    intro hkey
    exact hm_tid (congrArg NodeKey.tid hkey)
  have hself : f.isNamed [path] n := by simp [isNamed, hfind]
  by_cases hexpandable : n.isExpandable
  · rw [if_pos hexpandable]
    apply map_congr
    intro m hm
    by_cases heq : m = n
    · rw [heq]
      simp [hexpandable, hself]
    · obtain ⟨hnamed, hkey⟩ := hother m hm heq
      simp [hnamed, hkey, isOpen]
  · rw [if_neg hexpandable]
    apply openAt_eq_self
    intro m hm hm_expandable
    have hne : m ≠ n := fun heq => hexpandable (heq ▸ hm_expandable)
    exact (hother m hm hne).1

end Shows

end Forest

/-! ### Restoring -/

namespace Restored

/-- Opening saved directories has led from one state to the other. -/
structure Expands (paths : List WideText) (r after : Restored) : Prop where
  forest : after.store.forest = r.store.forest.openAt paths
  expanded : after.expanded = r.expanded ++ paths.filter r.store.forest.canOpen
  missing : after.missing = r.missing ++ paths.filter fun path => !r.store.forest.canOpen path
  reopened : after.reopened = r.reopened

variable {treeId : String} {entries : List Entry} {r : Restored}

lemma expands_nil (r : Restored) : r.Expands [] r where
  forest := (Forest.openAt_eq_self fun _ _ _ => rfl).symm
  expanded := by simp
  missing := by simp
  reopened := rfl

lemma Expands.trans (h : r.store.forest.Shows treeId entries) {middle after : Restored}
    {paths rest : List WideText} (hfirst : r.Expands paths middle)
    (hrest : middle.Expands rest after) : r.Expands (paths ++ rest) after := by
  have hcan : middle.store.forest.canOpen = r.store.forest.canOpen := by
    rw [hfirst.forest]
    exact funext fun path => Forest.Shows.canOpen_congr (h.openAt paths) h path
  constructor
  · rw [hrest.forest, hfirst.forest, h.openAt_openAt]
  · rw [hrest.expanded, hfirst.expanded, hcan, List.filter_append, List.append_assoc]
  · rw [hrest.missing, hfirst.missing, hcan, List.filter_append, List.append_assoc]
  · rw [hrest.reopened, hfirst.reopened]

/-- A path opens its first row, or is missing where that cannot be opened. -/
lemma expands_expandPath (h : r.store.forest.Shows treeId entries) (path : WideText) :
    r.Expands [path] (r.expandPath path) := by
  cases hfind : r.store.forest.atSavedPath? path with
  | none =>
    have hcan : r.store.forest.canOpen path = false := by rw [Forest.canOpen, hfind]; rfl
    have hopen := Forest.Shows.openAt_of_none hfind
    constructor <;> simp [expandPath, hfind, hcan, hopen]
  | some n =>
    have hcan : r.store.forest.canOpen path = n.isExpandable := by rw [Forest.canOpen, hfind]; rfl
    have hopen := h.openAt_of_some hfind
    by_cases hexpandable : n.isExpandable
    · rw [if_pos hexpandable] at hopen
      constructor <;>
        simp [expandPath, hfind, hcan, hexpandable, hopen, Store.expand, Store.expanded?,
          Store.modify]
    · rw [if_neg hexpandable] at hopen
      constructor <;> simp [expandPath, hfind, hcan, hexpandable, hopen]

end Restored

/-- Restoring the saved directories opens the first row with each saved path, and tells the paths
where that was possible from the others. -/
theorem SessionRecord.expands_expandIn (record : SessionRecord) {treeId : String}
    {entries : List Entry} {s : Store} (h : s.forest.Shows treeId entries) :
    Restored.Expands record.openPaths { store := s } (record.expandIn s) := by
  have hfold : ∀ (paths : List WideText) (r : Restored), r.store.forest.Shows treeId entries →
      r.Expands paths (paths.foldl Restored.expandPath r) := by
    intro paths
    induction paths with
    | nil =>
      intro r _
      exact Restored.expands_nil r
    | cons path rest ih =>
      intro r hr
      have hstep := Restored.expands_expandPath hr path
      have hshows : (r.expandPath path).store.forest.Shows treeId entries := by
        rw [hstep.forest]
        exact hr.openAt [path]
      exact hstep.trans hr (ih _ hshows)
  exact hfold record.openPaths { store := s } h

end Sidebar
