import Sidebar.Proofs.Session.RoundTrip
import Sidebar.Proofs.Store.Marked
import Sidebar.Proofs.Tree.Marks
import Sidebar.Proofs.Tree.Within

/-!
# Applied records

Opening the first row with a path never changes which row that is for another path. So what a record
opens is settled by the tree as it was: the order of the saved paths does not matter, nor whether a
path is saved twice, nor whether the record has been applied before.

Each path that a record names is reported once, as opened, as reopened or as missing.
-/

namespace Sidebar

open Editor Node

/-! ### Opening at paths -/

namespace Forest

/-- Only the set of the paths matters. -/
lemma openAt_congr {paths others : List WideText} (h : ∀ path, path ∈ others ↔ path ∈ paths)
    (f : Forest) : f.openAt others = f.openAt paths := by
  have hnamed : f.isNamed others = f.isNamed paths := by
    funext n
    rw [Bool.eq_iff_iff, isNamed, isNamed, List.any_eq_true, List.any_eq_true]
    exact exists_congr fun path => and_congr_left fun _ => h path
  rw [openAt, openAt, hnamed]

variable {treeId : String} {f : Forest} {n : Node}

/-- The row with an id is the one that a path leads to just when it is the first row with it. -/
lemma WellFormed.isNamed_iff (h : f.WellFormed treeId) (hn : n ∈ f.rows) (paths : List WideText) :
    f.isNamed paths n ↔
      ∃ path ∈ paths, f.rows.find? (fun m => (m.path : WideText) = path) = some n := by
  rw [isNamed, List.any_eq_true]
  refine exists_congr fun path => and_congr_right fun _ => ?_
  rw [h.atSavedPath?_eq, Option.any_eq_true]
  constructor
  · rintro ⟨m, hfind, htid⟩
    rwa [← h.eq_of_tid_eq (List.mem_of_find?_eq_some hfind) hn (of_decide_eq_true htid)]
  · exact fun hfind => ⟨n, hfind, decide_eq_true rfl⟩

/-- What is open afterwards, said of the rows as they were. -/
theorem WellFormed.openAt_eq (h : f.WellFormed treeId) (paths : List WideText) :
    f.openAt paths = f.remark fun n => n.isOpen ∨ n.children ≠ [] ∧
      ∃ path ∈ paths, f.rows.find? (fun m => (m.path : WideText) = path) = some n := by
  refine map_congr fun n hn => ?_
  have hmark : (n.isOpen || (n.isExpandable && f.isNamed paths n)) = decide (n.isOpen ∨
      n.children ≠ [] ∧
        ∃ path ∈ paths, f.rows.find? (fun m => (m.path : WideText) = path) = some n) := by
    rw [Bool.eq_iff_iff, Bool.or_eq_true, Bool.and_eq_true, h.isExpandable_iff hn,
      h.isNamed_iff hn, decide_eq_true_iff]
  rw [hmark]

end Forest

namespace Store.Sound

variable {treeId : String} {s : Store} {n : Node}

lemma openAt (h : s.Sound treeId) (paths : List WideText) :
    Sound treeId { s with forest := s.forest.openAt paths } :=
  have ⟨_, hshows⟩ := h.exists_shows
  h.withForest (hshows.openAt paths) rfl

/-- Opening the row that a path leads to changes the tree at that path, and nothing else. -/
lemma expand_of_atSavedPath? (h : s.Sound treeId) {path : WideText}
    (hfind : s.forest.atSavedPath? path = some n) :
    s.expand n (some true) = { s with forest := s.forest.openAt [path] } := by
  obtain ⟨_, hshows⟩ := h.exists_shows
  rw [hshows.openAt_of_some hfind]
  rw [h.wellFormed.atSavedPath?_eq] at hfind
  by_cases hexpandable : n.isExpandable
  · rw [if_pos hexpandable, h.expand_eq (List.mem_of_find?_eq_some hfind) hexpandable]
    rfl
  · rw [if_neg hexpandable, Store.expand, expanded?, if_neg hexpandable]

end Store.Sound

/-! ### Applying a record -/

/-- Opening a node fails when its file cannot be asked for. -/
lemma Editor.Tabs.load_of_openNode_error {load : Loader} {t : Tabs} {n : Node} {failure : Failure}
    (h : (t.openNode load n).outcome = .error failure) : load n.path = .error failure := by
  rw [openNode] at h
  cases hfind : t.find? n.tid with
  | some tab => simp [hfind] at h
  | none =>
    by_cases hdir : n.row.isDir
    · simp [hfind, hdir] at h
    · cases hload : load n.path with
      | error failure' => simpa [hfind, hdir, hload] using h
      | ok content => cases content <;> simp [hfind, hdir, hload] at h

namespace Restored

variable {treeId : String} {r : Restored}

lemma store_expandPath (h : r.store.Sound treeId) (path : WideText) :
    (r.expandPath path).store = { r.store with forest := r.store.forest.openAt [path] } := by
  cases hfind : r.store.forest.atSavedPath? path with
  | none => simp only [expandPath, hfind, Forest.Shows.openAt_of_none hfind]
  | some n =>
    rw [← h.expand_of_atSavedPath? hfind]
    by_cases hexpandable : n.isExpandable
    · simp only [expandPath, hfind, hexpandable, if_true]
    · simp [expandPath, hfind, hexpandable, Store.expand, Store.expanded?]

lemma store_expandPaths (h : r.store.Sound treeId) (paths : List WideText) :
    (paths.foldl expandPath r).store =
      { r.store with forest := r.store.forest.openAt paths } := by
  induction paths generalizing r with
  | nil => rw [List.foldl_nil, Forest.openAt_eq_self fun _ _ _ => rfl]
  | cons path rest ih =>
    have hstep := store_expandPath h path
    have hsound : (r.expandPath path).store.Sound treeId := hstep ▸ h.openAt [path]
    obtain ⟨_, hshows⟩ := h.exists_shows
    rw [List.foldl_cons, ih hsound, hstep]
    simp only [hshows.openAt_openAt, List.singleton_append]

/-! ### Reports -/

lemma perm_report {front missing reopened rest : List WideText} (path : WideText) :
    (front ++ (missing ++ [path]) ++ reopened ++ rest).Perm
      (front ++ missing ++ reopened ++ path :: rest) := by
  simp only [List.append_assoc, List.singleton_append]
  exact ((List.perm_middle.symm).append_left missing).append_left front

/-- Each path is reported once, as reopened or as missing. -/
lemma reopenPaths_perm {load : Loader} {currentFile : Option WideText}
    {current last : Option String} {after : Restored} {paths : List WideText}
    (h : reopenPaths load currentFile r current paths = (after, .ok last)) :
    (after.expanded ++ after.missing ++ after.reopened).Perm
      (r.expanded ++ r.missing ++ r.reopened ++ paths) := by
  fun_induction reopenPaths load currentFile r current paths with
  | case1 r current =>
    obtain ⟨rfl, -⟩ := Prod.mk.inj h
    rw [List.append_nil]
  | case2 r current path rest hfind ih => exact (ih h).trans (perm_report path)
  | case3 => exact absurd (Prod.mk.inj h).2 (by simp)
  | case4 r current path rest n hfind opening opened tab hshown ih =>
    refine (ih h).trans (List.Perm.of_eq ?_)
    simp [opened]
  | case5 r current path rest n hfind opening opened result hother houtcome ih =>
    exact (ih h).trans (perm_report path)

/-- Reopening ends early only when a file cannot be asked for. -/
lemma exists_load_of_reopenPaths {load : Loader} {currentFile : Option WideText}
    {current : Option String} {paths : List WideText} {failure : Failure}
    (h : (reopenPaths load currentFile r current paths).2 = .error failure) :
    ∃ path ∈ paths, ∃ n,
      r.store.forest.atSavedPath? path = some n ∧ load n.path = .error failure := by
  fun_induction reopenPaths load currentFile r current paths with
  | case1 => cases h
  | case2 r current path rest hfind ih =>
    obtain ⟨path', hpath, hload⟩ := ih h
    exact ⟨path', List.mem_cons_of_mem path hpath, hload⟩
  | case3 r current path rest n hfind opening opened failure' houtcome =>
    obtain rfl := Except.error.inj h
    exact ⟨path, List.mem_cons_self, n, hfind, Tabs.load_of_openNode_error houtcome⟩
  | case4 r current path rest n hfind opening opened tab hshown ih =>
    obtain ⟨path', hpath, hload⟩ := ih h
    exact ⟨path', List.mem_cons_of_mem path hpath, hload⟩
  | case5 r current path rest n hfind opening opened result hother houtcome ih =>
    obtain ⟨path', hpath, hload⟩ := ih h
    exact ⟨path', List.mem_cons_of_mem path hpath, hload⟩

end Restored

namespace SessionRecord

/-- What a record does is settled by the store that it is applied to, as it is at the start. -/
structure Settles (record : SessionRecord) (s : Store) : Prop where
  /-- A node is open afterwards if it was open, or if it has children and is the first row with one
  of the saved paths. Nothing else changes. -/
  store : (record.expandIn s).store =
    { s with
      forest := s.forest.remark fun n => n.isOpen ∨ n.children ≠ [] ∧
        ∃ path ∈ record.openPaths,
          s.forest.rows.find? (fun m => (m.path : WideText) = path) = some n }
  /-- The order of the saved paths and repetitions do not matter. -/
  order : ∀ other : SessionRecord, (∀ path, path ∈ other.openPaths ↔ path ∈ record.openPaths) →
    (other.expandIn s).store = (record.expandIn s).store
  /-- Applied again, the record changes nothing more and reports the same. -/
  again_store : (record.expandIn (record.expandIn s).store).store = (record.expandIn s).store
  again_expanded : (record.expandIn (record.expandIn s).store).expanded =
    (record.expandIn s).expanded
  again_missing : (record.expandIn (record.expandIn s).store).missing = (record.expandIn s).missing
  reported : ((record.expandIn s).expanded ++ (record.expandIn s).missing ++
    (record.expandIn s).reopened).Perm record.openPaths
  /-- Tabs have no part in what is opened. -/
  withTabs : ∀ load tabs, (record.applyTo load s tabs).1.store = (record.expandIn s).store
  /-- With tabs, each path is reported once for each time that the record names it. -/
  reportedWithTabs : ∀ load tabs, (record.applyTo load s tabs).2 = .ok () →
    ((record.applyTo load s tabs).1.expanded ++ (record.applyTo load s tabs).1.missing ++
      (record.applyTo load s tabs).1.reopened).Perm (record.openPaths ++ record.filePaths)
  /-- There is a report, unless a file of the tree cannot be asked for. -/
  failed : ∀ load tabs failure, (record.applyTo load s tabs).2 = .error failure →
    ∃ n ∈ s.forest.rows, (n.path : WideText) ∈ record.filePaths ∧ load n.path = .error failure

variable {treeId : String} {s : Store}

lemma store_expandIn (record : SessionRecord) (h : s.Sound treeId) :
    (record.expandIn s).store = { s with forest := s.forest.openAt record.openPaths } :=
  Restored.store_expandPaths (r := { store := s }) h record.openPaths

lemma reported_expandIn (record : SessionRecord) (h : s.Sound treeId) :
    ((record.expandIn s).expanded ++ (record.expandIn s).missing ++
      (record.expandIn s).reopened).Perm record.openPaths := by
  obtain ⟨_, hshows⟩ := h.exists_shows
  have hexpands := record.expands_expandIn hshows
  rw [hexpands.expanded, hexpands.missing, hexpands.reopened]
  simpa using List.filter_append_perm s.forest.canOpen record.openPaths

/-- With tabs, each path is reported once for each time that the record names it. -/
lemma reported_applyTo (record : SessionRecord) (h : s.Sound treeId) {load : Loader} {tabs : Tabs}
    (hok : (record.applyTo load s tabs).2 = .ok ()) :
    ((record.applyTo load s tabs).1.expanded ++ (record.applyTo load s tabs).1.missing ++
      (record.applyTo load s tabs).1.reopened).Perm (record.openPaths ++ record.filePaths) := by
  rw [applyTo] at hok ⊢
  split
  · next r failure hreopen => simp [hreopen] at hok
  · next r current hreopen =>
    rw [Restored.focus_eq]
    exact (Restored.reopenPaths_perm hreopen).trans
      ((record.reported_expandIn h).append_right record.filePaths)

lemma exists_load_of_applyTo (record : SessionRecord) (h : s.Sound treeId) {load : Loader}
    {tabs : Tabs} {failure : Failure} (hfail : (record.applyTo load s tabs).2 = .error failure) :
    ∃ n ∈ s.forest.rows,
      (n.path : WideText) ∈ record.filePaths ∧ load n.path = .error failure := by
  have hreopen : (Restored.reopenPaths load record.currentFile
      { record.expandIn s with tabs := tabs } none record.filePaths).2 = .error failure := by
    rw [applyTo] at hfail
    split at hfail
    · next r failure' hreopen => rw [hreopen]; exact congrArg Except.error (Except.error.inj hfail)
    · cases hfail
  obtain ⟨path, hpath, n, hfind, hload⟩ := Restored.exists_load_of_reopenPaths hreopen
  -- the row was there before the directories were opened
  have hwell := (h.openAt record.openPaths).wellFormed
  simp only [record.store_expandIn h, hwell.atSavedPath?_eq] at hfind
  have hn := List.mem_of_find?_eq_some hfind
  obtain rfl : (n.path : WideText) = path := by simpa using List.find?_some hfind
  rw [Forest.openAt, Forest.rows_map, List.mem_map] at hn
  obtain ⟨m, hm, rfl⟩ := hn
  rw [Node.path, Node.row_map] at hpath hload
  exact ⟨m, hm, hpath, hload⟩

/-- What a record does to a sound store. -/
theorem settles (record : SessionRecord) (h : s.Sound treeId) : record.Settles s := by
  obtain ⟨_, hshows⟩ := h.exists_shows
  have hstore := record.store_expandIn h
  have hexpands := record.expands_expandIn hshows
  have hshows' := hshows.openAt record.openPaths
  rw [← hexpands.forest] at hshows'
  have hagain := record.expands_expandIn hshows'
  have hcan : (record.expandIn s).store.forest.canOpen = s.forest.canOpen :=
    funext fun path => hshows'.canOpen_congr hshows path
  constructor
  · rw [hstore, h.wellFormed.openAt_eq]
  · intro other hsame
    rw [other.store_expandIn h, hstore, Forest.openAt_congr hsame]
  · have htwice : s.forest.openAt (record.openPaths ++ record.openPaths) =
        s.forest.openAt record.openPaths := Forest.openAt_congr (by simp) s.forest
    rw [record.store_expandIn (h.expandIn record), hstore]
    simp only [hshows.openAt_openAt, htwice]
  · rw [hagain.expanded, hexpands.expanded]
    simp only [hcan]
  · rw [hagain.missing, hexpands.missing]
    simp only [hcan]
  · exact record.reported_expandIn h
  · exact fun load tabs => record.store_applyTo load s tabs
  · exact fun load tabs hok => record.reported_applyTo h hok
  · exact fun load tabs failure hfail => record.exists_load_of_applyTo h hfail

end SessionRecord

/-! ### Fresh trees -/

/-- In a tree where nothing is open and the paths differ, the saved paths that lead to directories
with children are the open ones afterwards. -/
lemma Forest.Shows.mem_openPaths_openAt {treeId : String} {entries : List Entry} {f : Forest}
    (h : f.Shows treeId entries) (hpaths : (f.rows.map Node.path).Nodup)
    (hclosed : ∀ n ∈ f.rows, n.isOpen = false) (paths : List WideText) (path : String) :
    path ∈ (f.openAt paths).openPaths ↔
      (path : WideText) ∈ paths ∧ ∃ n ∈ f.rows, n.path = path ∧ n.row.isDir ∧ n.children ≠ [] := by
  have hopen : ∀ n ∈ f.rows, (n.isOpen || (n.isExpandable && f.isNamed paths n)) = true ↔
      (n.path : WideText) ∈ paths ∧ n.row.isDir ∧ n.children ≠ [] := by
    intro n hn
    rw [hclosed n hn, Bool.false_or, Bool.and_eq_true, h.isNamed_iff_mem hpaths paths hn]
    simp [isExpandable, hasChildren, and_comm]
  rw [openPaths, Forest.openAt, rows_map, List.filter_map, List.map_map, List.mem_map]
  simp only [List.mem_filter, Function.comp_apply, Node.isOpen, Node.path, row_map]
  constructor
  · rintro ⟨n, ⟨hn, hmark⟩, rfl⟩
    obtain ⟨hpath, hdir⟩ := (hopen n hn).mp hmark
    exact ⟨hpath, n, hn, rfl, hdir⟩
  · rintro ⟨hpath, n, hn, rfl, hdir⟩
    exact ⟨n, ⟨hn, (hopen n hn).mpr ⟨hpath, hdir⟩⟩, rfl⟩

end Sidebar
