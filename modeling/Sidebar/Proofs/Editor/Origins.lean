import Sidebar.Proofs.Editor.Tabs
import Sidebar.Proofs.Workbench.Run

/-!
# What tabs were opened for

A tab belongs to the id of a node, and each build numbers its nodes from one. Tabs outlive a build,
so an id that already has a tab can come to name a different node.

A run is traced by remembering for each tab the node that it was opened for. Opening a node shows
its own file unless the tab of its id was opened for a node of an earlier build, and the two nodes
are not a file and a file with the same path.
-/

namespace Sidebar

open Editor

/-- The node that an action opens. -/
def Action.opens? : Action → Option NodeKey
  | .doubleClick _ node => some node
  | .openNode _ node => some node
  | _ => none

/-- Whether an action loads a tree, or opens nodes, closes tabs or changes between them. -/
def Action.IsEditing : Action → Prop
  | .load _ => True
  | .doubleClick _ _ => True
  | .openNode _ _ => True
  | .closeTab _ => True
  | .setCurrentTab _ => True
  | _ => False

namespace Workbench

/-- A workbench that remembers what its tabs were opened for. -/
structure Traced where
  workbench : Workbench
  /-- The node that the tab of an id was opened for, as long as there is such a tab. -/
  origin : String → Option NodeKey := fun _ => none

namespace Traced

/-- An id that gets a tab is traced to the node that the action opens. -/
def act (t : Traced) (a : Action) : Traced where
  workbench := t.workbench.act a
  origin tid :=
    if ((t.workbench.act a).tabs.find? tid).isNone then none
    else if (t.workbench.tabs.find? tid).isNone then a.opens?
    else t.origin tid

def run (t : Traced) (actions : List Action) : Traced := actions.foldl act t

/-- A workbench with an empty store and without tabs. -/
def start (w : Workbench) (treeId : String) : Traced where
  workbench := { w.emptied treeId with tabs := {} }

/-- Some run of loads and editing from an empty store without tabs leads to the workbench. -/
def Reachable (treeId : String) (t : Traced) : Prop :=
  ∃ (w : Workbench) (actions : List Action), (∀ a ∈ actions, a.IsEditing) ∧
    t = (start w treeId).run actions

/-- Tracing a run does not change it. -/
theorem workbench_run (t : Traced) (actions : List Action) :
    (t.run actions).workbench = t.workbench.run actions := by
  induction actions generalizing t with
  | nil => rfl
  | cons a actions ih => exact ih (t.act a)

variable {treeId : String} {t : Traced} {a : Action} {tab : Tab}

/-! ### What a step traces -/

/-- An id that keeps its tab keeps its origin. -/
lemma origin_act_of_mem (hbefore : tab ∈ t.workbench.tabs.tabs)
    (hafter : tab ∈ (t.workbench.act a).tabs.tabs) :
    (t.act a).origin tab.tid = t.origin tab.tid := by
  simp only [act]
  rw [if_neg fun hnone => Tabs.isNone_find?_iff.mp hnone tab hafter rfl,
    if_neg fun hnone => Tabs.isNone_find?_iff.mp hnone tab hbefore rfl]

/-- An id that gets a tab has it for the node that is opened. -/
lemma origin_act_of_new (hbefore : ∀ other ∈ t.workbench.tabs.tabs, other.tid ≠ tab.tid)
    (hafter : tab ∈ (t.workbench.act a).tabs.tabs) : (t.act a).origin tab.tid = a.opens? := by
  simp only [act]
  rw [if_neg fun hnone => Tabs.isNone_find?_iff.mp hnone tab hafter rfl,
    if_pos (Tabs.isNone_find?_iff.mpr hbefore)]

lemma origin_act_of_absent {tid : String}
    (hafter : ∀ tab ∈ (t.workbench.act a).tabs.tabs, tab.tid ≠ tid) :
    (t.act a).origin tid = none := by
  simp only [act]
  rw [if_pos (Tabs.isNone_find?_iff.mpr hafter)]

/-! ### Tabs show files that the store holds -/

/-- Every tab is traced to a file that the store holds, of the current build or an earlier one. -/
structure Faithful (treeId : String) (t : Traced) : Prop where
  store : t.workbench.store.Sound treeId
  traced : ∀ tab ∈ t.workbench.tabs.tabs, ∃ n, t.workbench.store.Holds n ∧
    t.origin tab.tid = some n.key ∧ tab.tid = n.tid ∧ tab.path = n.path ∧ n.row.isDir = false
  untraced : ∀ tid, (∀ tab ∈ t.workbench.tabs.tabs, tab.tid ≠ tid) → t.origin tid = none

namespace Faithful

lemma start (w : Workbench) (treeId : String) : (start w treeId).Faithful treeId where
  store := Store.sound_empty treeId
  traced := fun _ htab => absurd htab List.not_mem_nil
  untraced := fun _ _ => rfl

/-- Where no tab is added and no node is lost, the tabs stay traced. -/
lemma keep (h : t.Faithful treeId)
    (hstore : ∀ n, t.workbench.store.Holds n → (t.workbench.act a).store.Holds n)
    (htabs : ∀ tab ∈ (t.workbench.act a).tabs.tabs, tab ∈ t.workbench.tabs.tabs) :
    (t.act a).Faithful treeId where
  store := sound_act h.store a
  traced := by
    intro tab htab
    obtain ⟨n, hn, horigin, hfile⟩ := h.traced tab (htabs tab htab)
    refine ⟨n, hstore n hn, ?_, hfile⟩
    rw [origin_act_of_mem (htabs tab htab) htab, horigin]
  untraced := fun _ habsent => origin_act_of_absent habsent

/-- Opening a node traces its tab, if it gets one, to that node. -/
lemma openNode (h : t.Faithful treeId) (load : Loader) {n : Node}
    (hn : t.workbench.store.Holds n) (hopens : a.opens? = some n.key)
    (hstore : (t.workbench.act a).store = t.workbench.store)
    (htabs : (t.workbench.act a).tabs = (t.workbench.tabs.openNode load n).tabs) :
    (t.act a).Faithful treeId := by
  have hholds : ∀ m, t.workbench.store.Holds m → (t.workbench.act a).store.Holds m := by
    intro m hm
    rwa [hstore]
  rcases Tabs.openNode_cases load t.workbench.tabs n with
    ⟨-, -, -, -, hsame, -⟩ | ⟨mode, content, habsent, hfile, -, hpush, -⟩ | ⟨-, -, hsame, -⟩
  · apply h.keep hholds
    rw [htabs, hsame]
    exact fun tab htab => htab
  · refine ⟨sound_act h.store a, ?_, fun _ habsent => origin_act_of_absent habsent⟩
    intro tab hafter
    have htab : tab ∈ (t.workbench.act a).tabs.tabs := hafter
    rw [htabs, hpush, Tabs.push, List.mem_append, List.mem_singleton] at htab
    rcases htab with htab | rfl
    · obtain ⟨m, hm, horigin, hm_file⟩ := h.traced tab htab
      exact ⟨m, hholds m hm, (origin_act_of_mem htab hafter).trans horigin, hm_file⟩
    · have horigin := (origin_act_of_new habsent hafter).trans hopens
      exact ⟨n, hholds n hn, horigin, rfl, rfl, hfile⟩
  · apply h.keep hholds
    rw [htabs, hsame]
    exact fun tab htab => htab

/-- The same for a node that is named, where there may be none. -/
lemma onNode (h : t.Faithful treeId) (load : Loader) {key : NodeKey} {f : Node → Workbench}
    (hact : t.workbench.act a = t.workbench.onNode key f) (hopens : a.opens? = some key)
    (hstore : ∀ n, (f n).store = t.workbench.store)
    (htabs : ∀ n, (f n).tabs = (t.workbench.tabs.openNode load n).tabs) :
    (t.act a).Faithful treeId := by
  rw [Workbench.onNode] at hact
  cases hfind : t.workbench.store.node? key with
  | none =>
    rw [hfind] at hact
    apply h.keep <;> rw [hact]
    · exact fun n hn => hn
    · exact fun tab htab => htab
  | some n =>
    rw [hfind] at hact
    obtain ⟨hn, rfl⟩ := h.store.node?_eq_some_iff.mp hfind
    apply h.openNode load hn hopens <;> rw [hact]
    · exact hstore n
    · exact htabs n

/-- Every load and every edit keeps the tabs traced. -/
theorem act (h : t.Faithful treeId) (ha : a.IsEditing) : (t.act a).Faithful treeId := by
  cases a with
  | load snapshot =>
    have hact : (t.workbench.act (.load snapshot)).tabs = t.workbench.tabs := by
      rw [Workbench.act]
      split <;> rfl
    apply h.keep
    · intro n hn
      rw [Workbench.act]
      split
      · next hload => exact hn.loadJson hload
      · exact hn
    · rw [hact]
      exact fun tab htab => htab
  | doubleClick load key => exact h.onNode load rfl rfl (fun _ => rfl) fun _ => rfl
  | openNode load key => exact h.onNode load rfl rfl (fun _ => rfl) fun _ => rfl
  | closeTab tid => exact h.keep (fun n hn => hn) fun tab htab => Tabs.mem_of_mem_close htab
  | setCurrentTab tid =>
    refine h.keep (fun n hn => hn) fun tab htab => ?_
    rwa [Workbench.act, Tabs.tabs_setCurrent] at htab
  | _ => exact ha.elim

theorem run (h : t.Faithful treeId) {actions : List Action}
    (hactions : ∀ a ∈ actions, a.IsEditing) : (t.run actions).Faithful treeId := by
  induction actions generalizing t with
  | nil => exact h
  | cons a actions ih =>
    have ha := hactions a List.mem_cons_self
    exact ih (h.act ha) fun b hb => hactions b (List.mem_cons_of_mem a hb)

/-- A node that the store holds and that is no older than the tree belongs to the tree. -/
lemma mem_rows_of_build_le (h : t.Faithful treeId) {n m : Node}
    (hn : n ∈ t.workbench.store.forest.rows) (hm : t.workbench.store.Holds m)
    (hbuild : n.key.build ≤ m.key.build) : m ∈ t.workbench.store.forest.rows := by
  obtain ⟨f, hf, hm⟩ := hm
  rcases List.mem_cons.mp hf with rfl | hf
  · exact hm
  · exfalso
    obtain ⟨_, hshows⟩ := h.store.shows _ List.mem_cons_self
    obtain ⟨_, hshows'⟩ := h.store.shows f (List.mem_cons_of_mem _ hf)
    have hlt := (List.pairwise_cons.mp h.store.builds).1 f hf
    rw [hshows.build n hn, hshows'.build m hm] at hbuild
    omega

/-- The tab of an id that names a row was opened for the row itself, or for a node of an earlier
build. -/
lemma origin_of_mem (h : t.Faithful treeId) {n : Node} (hn : n ∈ t.workbench.store.forest.rows)
    (htab : tab ∈ t.workbench.tabs.tabs) (htid : tab.tid = n.tid) :
    ∃ m, t.workbench.store.Holds m ∧ t.origin n.tid = some m.key ∧ tab.path = m.path ∧
      m.row.isDir = false ∧ (m.key.build < n.key.build ∨ m = n) := by
  obtain ⟨m, hm, horigin, hm_tid, hpath, hfile⟩ := h.traced tab htab
  rw [htid] at horigin hm_tid
  refine ⟨m, hm, horigin, hpath, hfile, ?_⟩
  rcases Nat.lt_or_ge m.key.build n.key.build with hbuild | hbuild
  · exact Or.inl hbuild
  · right
    have hrow := h.mem_rows_of_build_le hn hm hbuild
    exact h.store.wellFormed.eq_of_tid_eq hrow hn hm_tid.symm

end Faithful

/-! ### Which tab a node gets -/

lemma Reachable.faithful (h : t.Reachable treeId) : t.Faithful treeId := by
  obtain ⟨w, actions, hactions, rfl⟩ := h
  exact (Faithful.start w treeId).run hactions

/-- A node that gets a tab is a file and the tab shows it, unless the tab of its id was opened for a
node of an earlier build, and the node is a directory or that one had a different path. -/
theorem Reachable.shown_own_file_iff (h : t.Reachable treeId) {load : Loader} {n : Node}
    (hn : n ∈ t.workbench.store.forest.rows)
    (hshown : (t.workbench.tabs.openNode load n).outcome = .ok (.shown tab)) :
    (n.row.isDir = false ∧ tab.path = n.path) ↔
      ¬ ∃ m, t.workbench.store.Holds m ∧ t.origin n.tid = some m.key ∧
        m.key.build < n.key.build ∧ (n.row.isDir ∨ m.path ≠ n.path) := by
  rcases Tabs.openNode_cases load t.workbench.tabs n with
    ⟨old, hold, htid, -, -, hout⟩ | ⟨mode, content, habsent, hfile, -, -, hout⟩ | ⟨-, -, -, hout⟩
  · obtain rfl : old = tab := by simpa using hout.symm.trans hshown
    obtain ⟨m, hm, horigin, hpath, hm_file, hage⟩ := h.faithful.origin_of_mem hn hold htid
    rw [hpath]
    constructor
    · rintro ⟨hfile, hn_path⟩ ⟨k, hk, hk_origin, -, hwrong⟩
      have hkey : k.key = m.key := by simpa [horigin, eq_comm] using hk_origin
      rw [h.faithful.store.eq_of_holds hk hm hkey] at hwrong
      simp [hfile, hn_path] at hwrong
    · intro hnone
      rcases hage with hbuild | rfl
      · by_contra hwrong
        refine hnone ⟨m, hm, horigin, hbuild, ?_⟩
        by_cases hdir : n.row.isDir
        · exact Or.inl hdir
        · exact Or.inr fun hn_path => hwrong ⟨by simpa using hdir, hn_path⟩
      · exact ⟨hm_file, rfl⟩
  · obtain rfl : (⟨n.tid, n.path, mode, content⟩ : Tab) = tab := by
      simpa using hout.symm.trans hshown
    refine iff_of_true ⟨hfile, rfl⟩ ?_
    rintro ⟨m, -, horigin, -⟩
    simp [h.faithful.untraced n.tid habsent] at horigin
  · exact absurd hshown (hout tab)

/-! ### An id that is used again -/

/-- Every file is a short text. -/
def shortText : Loader := fun _ => .ok (.text plainMode "x")

/-- A file has a tab, and then a tree is loaded in which its id names a directory. -/
def reusedId : Traced :=
  (start {} "files").run [
    .load (.arr [.obj [("path", .str "/a")]]),
    .openNode shortText ⟨1, "files_1"⟩,
    .load (.arr [.obj [("path", .str "/b"), ("type", .str "d")]])]

def reusedDir : Node := .node ⟨⟨2, "files_1"⟩, "b", "/b", true, 0, none, false, true⟩ []

lemma reachable_reusedId : reusedId.Reachable "files" := by
  refine ⟨{}, _, ?_, rfl⟩
  simp [Action.IsEditing]

lemma rows_reusedId : reusedId.workbench.store.forest.rows = [reusedDir] := by
  have hstore : ∀ (w : Workbench) (load : Loader) (key : NodeKey),
      (w.act (.openNode load key)).store = w.store := by
    intro w load key
    rw [Workbench.act, onNode]
    split <;> rfl
  rw [reusedId, workbench_run, Workbench.run, List.foldl_cons, List.foldl_cons, List.foldl_cons,
    List.foldl_nil, Workbench.act, hstore, Forest.rows_eq_preorderAll]
  rfl

lemma shown_reusedDir :
    (reusedId.workbench.tabs.openNode shortText reusedDir).outcome =
      .ok (.shown ⟨"files_1", "/a", plainMode, "x"⟩) := by
  decide +kernel

/-- Opening the directory shows the file. -/
theorem shown_for_reusedDir :
    reusedId.Reachable "files" ∧
      ∃ n ∈ reusedId.workbench.store.forest.rows, ∃ tab,
        (reusedId.workbench.tabs.openNode shortText n).outcome = .ok (.shown tab) ∧
          ¬ (n.row.isDir = false ∧ tab.path = n.path) := by
  refine ⟨reachable_reusedId, reusedDir, ?_, _, shown_reusedDir, by simp [reusedDir]⟩
  rw [rows_reusedId]
  exact List.mem_singleton_self reusedDir

theorem shown_own_file_iff_reusedDir :
    reusedId.Reachable "files" ∧ reusedDir ∈ reusedId.workbench.store.forest.rows ∧
      (reusedId.workbench.tabs.openNode shortText reusedDir).outcome =
        .ok (.shown ⟨"files_1", "/a", plainMode, "x"⟩) ∧
      ((reusedDir.row.isDir = false ∧ "/a" = reusedDir.path) ↔
        ¬ ∃ m, reusedId.workbench.store.Holds m ∧ reusedId.origin reusedDir.tid = some m.key ∧
          m.key.build < reusedDir.key.build ∧ (reusedDir.row.isDir ∨ m.path ≠ reusedDir.path)) := by
  have hmem : reusedDir ∈ reusedId.workbench.store.forest.rows := by
    rw [rows_reusedId]
    exact List.mem_singleton_self reusedDir
  exact ⟨reachable_reusedId, hmem, shown_reusedDir,
    reachable_reusedId.shown_own_file_iff hmem shown_reusedDir⟩

end Traced

end Workbench

end Sidebar
