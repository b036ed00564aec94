import Sidebar.Proofs.Editor.Tabs
import Sidebar.Proofs.Session.Expanded
import Sidebar.Proofs.Workbench.Run

/-!
# Saving and restoring

A session is saved by path, while open marks and tabs belong to ids. Where the paths of a tree
differ, nothing is lost by that: a new build of the same snapshot gets back the open directories,
the tabs in their order and the current one.

As long as a run stays in one build, each tab shows a file of the tree. Both the saved and the
rebuilt tree show the same entries, so the file is found there by its path, and with the same id.
-/

namespace Sidebar

open Editor

/-- Whether an action opens or closes nodes of one build, or tabs for them with one loader. -/
def Action.StaysIn (load : Loader) (build : Nat) : Action → Prop
  | .expand node _ => node.build = build
  | .expandAll _ => True
  | .openNode loader node => loader = load ∧ node.build = build
  | .closeTab _ => True
  | .setCurrentTab _ => True
  | _ => False

/-- The tab shows a file, with what the loader gives for it. -/
structure Editor.Tab.ShowsFile (load : Loader) (n : Node) (tab : Tab) : Prop where
  tid : tab.tid = n.tid
  path : tab.path = n.path
  file : n.row.isDir = false
  loaded : load n.path = .ok (.text tab.mode tab.content)

/-- Every tab shows a file of the forest. -/
def Editor.Tabs.ShowFiles (load : Loader) (f : Forest) (tabs : List Tab) : Prop :=
  ∀ tab ∈ tabs, ∃ n ∈ f.rows, tab.ShowsFile load n

/-- Which files tabs show is the same for all forests that show the same entries. -/
lemma Editor.Tabs.ShowFiles.of_shows {load : Loader} {f g : Forest} {tabs : List Tab}
    {treeId : String} {entries : List Entry} (h : Tabs.ShowFiles load f tabs)
    (hf : f.Shows treeId entries) (hg : g.Shows treeId entries) : Tabs.ShowFiles load g tabs := by
  have hrows := hf.map_rows_congr hg (fun n => (n.tid, n.path, n.row.isDir)) fun n => by
    simp [Node.tid, Node.path, Node.bareRow]
  intro tab htab
  obtain ⟨n, hn, hfile⟩ := h tab htab
  have hmem : (n.tid, n.path, n.row.isDir) ∈ g.rows.map fun n => (n.tid, n.path, n.row.isDir) := by
    rw [← hrows]
    exact List.mem_map_of_mem hn
  obtain ⟨m, hm, heq⟩ := List.mem_map.mp hmem
  obtain ⟨htid, hpath, hdir⟩ : m.tid = n.tid ∧ m.path = n.path ∧ m.row.isDir = n.row.isDir := by
    simpa using heq
  exact ⟨m, hm, hfile.tid.trans htid.symm, hfile.path.trans hpath.symm, hdir.trans hfile.file,
    hpath ▸ hfile.loaded⟩

/-! ### Runs in one build -/

/-- The tree is of the given build of the entries, and the tabs show its files. -/
structure Workbench.InBuild (load : Loader) (treeId : String) (build : Nat) (entries : List Entry)
    (w : Workbench) : Prop where
  shows : w.store.forest.Shows treeId entries
  build : w.store.forest.build = build
  tabs : w.tabs.WellFormed
  files : Tabs.ShowFiles load w.store.forest w.tabs.tabs

namespace Workbench.InBuild

variable {load : Loader} {treeId : String} {build : Nat} {entries : List Entry} {w : Workbench}

/-- What is done to a node of the build is done to a row of the tree, or nothing is done. -/
lemma onNode (h : w.InBuild load treeId build entries) {key : NodeKey} (hkey : key.build = build)
    {f : Node → Workbench}
    (hf : ∀ n ∈ w.store.forest.rows, (f n).InBuild load treeId build entries) :
    (w.onNode key f).InBuild load treeId build entries := by
  have hfind : w.store.node? key = w.store.forest.find? key.tid := by
    simp [Store.node?, h.build, hkey]
  rw [Workbench.onNode, hfind]
  cases hrow : w.store.forest.find? key.tid with
  | none => exact h
  | some n => exact hf n (List.mem_of_find?_eq_some hrow)

/-- Opening and closing nodes. -/
lemma withForest (h : w.InBuild load treeId build entries) {s : Store}
    (hshows : s.forest.Shows treeId entries) (hbuild : s.forest.build = build) :
    InBuild load treeId build entries { w with store := s } where
  shows := hshows
  build := hbuild
  tabs := h.tabs
  files := h.files.of_shows h.shows hshows

lemma expand (h : w.InBuild load treeId build entries) {n : Node} (hn : n ∈ w.store.forest.rows)
    (expand : Option Bool) :
    InBuild load treeId build entries { w with store := w.store.expand n expand } := by
  rw [Store.expand, Store.expanded?]
  by_cases hexpandable : n.isExpandable
  · rw [if_pos hexpandable]
    refine h.withForest (h.shows.modify _ ?_) h.build
    intro m hm hkey
    rwa [h.shows.wellFormed.eq_of_tid_eq hm hn (congrArg NodeKey.tid hkey)]
  · rw [if_neg hexpandable]
    exact h

lemma openNode (h : w.InBuild load treeId build entries) {n : Node}
    (hn : n ∈ w.store.forest.rows) :
    InBuild load treeId build entries { w with tabs := (w.tabs.openNode load n).tabs } where
  shows := h.shows
  build := h.build
  tabs := h.tabs.openNode load n
  files := by
    rcases Tabs.openNode_cases load w.tabs n with
      ⟨tab, -, -, -, htabs, -⟩ | ⟨mode, content, -, hfile, hload, htabs, -⟩ | ⟨-, -, htabs, -⟩
    · simp only [htabs]
      exact h.files
    · simp only [htabs]
      intro tab htab
      rcases List.mem_append.mp htab with htab | htab
      · exact h.files tab htab
      · rw [List.mem_singleton.mp htab]
        exact ⟨n, hn, rfl, rfl, hfile, hload⟩
    · simp only [htabs]
      exact h.files

theorem act (h : w.InBuild load treeId build entries) {a : Action} (ha : a.StaysIn load build) :
    (w.act a).InBuild load treeId build entries := by
  cases a with
  | expand node expand => exact h.onNode ha fun n hn => h.expand hn expand
  | expandAll expand => exact h.withForest (h.shows.expandAll expand) h.build
  | openNode loader node =>
    obtain ⟨rfl, hnode⟩ := ha
    exact h.onNode hnode fun n hn => h.openNode hn
  | closeTab tid =>
    exact ⟨h.shows, h.build, h.tabs.close tid,
      fun tab htab => h.files tab (Tabs.mem_of_mem_close htab)⟩
  | setCurrentTab tid =>
    refine ⟨h.shows, h.build, h.tabs.setCurrent tid, ?_⟩
    rw [Workbench.act, Tabs.tabs_setCurrent]
    exact h.files
  | _ => exact ha.elim

theorem run (h : w.InBuild load treeId build entries) {actions : List Action}
    (hactions : ∀ a ∈ actions, a.StaysIn load build) :
    (w.run actions).InBuild load treeId build entries := by
  induction actions generalizing w with
  | nil => exact h
  | cons a actions ih =>
    have ha := hactions a List.mem_cons_self
    exact ih (h.act ha) fun b hb => hactions b (List.mem_cons_of_mem a hb)

end Workbench.InBuild

/-! ### Open marks -/

namespace Forest.Shows

variable {treeId : String} {entries : List Entry} {f g : Forest}

/-- Where paths differ, the open paths name the open nodes and no others. -/
lemma isNamed_openTexts (h : f.Shows treeId entries) (hpaths : (f.rows.map Node.path).Nodup)
    {n : Node} (hn : n ∈ f.rows) : f.isNamed (SessionRecord.openTexts f) n = n.isOpen := by
  rw [Bool.eq_iff_iff, h.isNamed_iff_mem hpaths _ hn, SessionRecord.mem_openTexts]
  constructor
  · intro hmem
    obtain ⟨m, hm, hpath⟩ := List.mem_map.mp hmem
    obtain ⟨hm, hopen⟩ := List.mem_filter.mp hm
    rwa [← List.inj_on_of_nodup_map hpaths hm hn hpath]
  · intro hopen
    exact List.mem_map_of_mem (List.mem_filter.mpr ⟨hn, hopen⟩)

lemma canOpen_of_mem_openTexts (h : f.Shows treeId entries)
    (hpaths : (f.rows.map Node.path).Nodup) {path : WideText}
    (hpath : path ∈ SessionRecord.openTexts f) : f.canOpen path := by
  obtain ⟨_, hopen, rfl⟩ := List.mem_map.mp hpath
  obtain ⟨n, hn, rfl⟩ := List.mem_map.mp hopen
  obtain ⟨hn, hopen⟩ := List.mem_filter.mp hn
  rw [canOpen, atSavedPath?_ofString, h.wellFormed.atPath?_path hpaths hn]
  exact h.expandable n hn hopen

/-- Opening a closed forest at the open paths of another one gives it the same open marks. -/
theorem marks_openAt_openTexts (hf : f.Shows treeId entries) (hg : g.Shows treeId entries)
    (hpaths : (f.rows.map Node.path).Nodup) (hclosed : ∀ n ∈ g.rows, n.isOpen = false) :
    ((g.openAt (SessionRecord.openTexts f)).rows.map fun n => (n.tid, n.isOpen)) =
      f.rows.map fun n => (n.tid, n.isOpen) := by
  set paths := SessionRecord.openTexts f with hopen
  have hnamed : g.isNamed paths = f.isNamed paths := funext fun n => isNamed_congr hg hf paths n
  have hbare : ∀ n : Node,
      ((n.map Node.bareRow).tid,
        (n.map Node.bareRow).isExpandable && f.isNamed paths (n.map Node.bareRow)) =
      (n.tid, n.isExpandable && f.isNamed paths n) := by
    intro n
    have htid : (n.map Node.bareRow).tid = n.tid := by simp [Node.tid, Node.bareRow]
    rw [f.isNamed_of_tid_eq _ htid, htid]
    simp [Node.isExpandable, Node.bareRow]
  calc ((g.openAt paths).rows.map fun n => (n.tid, n.isOpen))
      = g.rows.map fun n => (n.tid, n.isExpandable && f.isNamed paths n) := by
        rw [marks_openAt]
        apply List.map_congr_left
        intro n hn
        rw [hnamed, hclosed n hn, Bool.false_or]
    _ = f.rows.map fun n => (n.tid, n.isExpandable && f.isNamed paths n) :=
        hg.map_rows_congr hf _ hbare
    _ = f.rows.map fun n => (n.tid, n.isOpen) := by
        apply List.map_congr_left
        intro n hn
        rw [hopen, hf.isNamed_openTexts hpaths hn,
          Bool.and_eq_right_iff_imp.mpr (hf.expandable n hn)]

end Forest.Shows

/-! ### Tabs -/

namespace Restored

/-- Reopening tabs has led from one state to the other. -/
structure Reopens (reopened : List Tab) (r after : Restored) : Prop where
  store : after.store = r.store
  tabs : after.tabs = reopened.foldl Tabs.push r.tabs
  expanded : after.expanded = r.expanded
  missing : after.missing = r.missing
  reopened : after.reopened = r.reopened ++ reopened.map SessionRecord.tabText

/-- The id of the latest of some tabs whose path is the current one, or else the given id. -/
def latest (currentFile : Option WideText) (current : Option String) (tabs : List Tab) :
    Option String :=
  tabs.foldl (fun current tab =>
    if currentFile = some (SessionRecord.tabText tab) then some tab.tid else current) current

lemma latest_eq {tab : Tab} {tabs : List Tab} {current : Option String}
    (htab : tab ∈ tabs ∨ current = some tab.tid)
    (hsame : ∀ other ∈ tabs, other.path = tab.path → other.tid = tab.tid) :
    latest (some (SessionRecord.tabText tab)) current tabs = some tab.tid := by
  induction tabs generalizing current with
  | nil => exact htab.resolve_left List.not_mem_nil
  | cons other rest ih =>
    have hrest : ∀ another ∈ rest, another.path = tab.path → another.tid = tab.tid :=
      fun another hmem => hsame another (List.mem_cons_of_mem other hmem)
    rw [latest, List.foldl_cons]
    refine ih ?_ hrest
    by_cases hpath : tab.path = other.path
    · right
      have htext : SessionRecord.tabText tab = SessionRecord.tabText other :=
        congrArg WideText.ofString hpath
      rw [if_pos (congrArg some htext), hsame other List.mem_cons_self hpath.symm]
    · have htext : SessionRecord.tabText tab ≠ SessionRecord.tabText other :=
        fun heq => hpath (WideText.ofString_injective heq)
      rw [if_neg (fun heq => htext (Option.some.inj heq))]
      rcases htab with htab | hcurrent
      · left
        refine (List.mem_cons.mp htab).resolve_left ?_
        rintro rfl
        exact hpath rfl
      · exact Or.inr hcurrent

lemma openNode_of_showsFile {load : Loader} {t : Tabs} {n : Node} {tab : Tab}
    (hfile : tab.ShowsFile load n) (habsent : ∀ other ∈ t.tabs, other.tid ≠ tab.tid) :
    (t.openNode load n).tabs = t.push tab ∧ (t.openNode load n).outcome = .ok (.shown tab) := by
  obtain ⟨tid, path, mode, content⟩ := tab
  obtain ⟨htid, hpath, hdir, hloaded⟩ := hfile
  simp only at htid hpath hloaded habsent
  subst htid hpath
  rw [Tabs.openNode, Tabs.find?_eq_none_iff.mpr habsent]
  simp [hdir, hloaded]

/-- Reopening tabs that show files of the tree, in a list that has none of them yet, adds them in
their order. -/
theorem reopenPaths_showFiles {load : Loader} {treeId : String} {entries : List Entry}
    (currentFile : Option WideText) {r : Restored} {current : Option String} {tabs : List Tab}
    (hshows : r.store.forest.Shows treeId entries)
    (hpaths : (r.store.forest.rows.map Node.path).Nodup)
    (htids : ((r.tabs.tabs ++ tabs).map Tab.tid).Nodup)
    (hfiles : Tabs.ShowFiles load r.store.forest tabs) :
    ∃ after, reopenPaths load currentFile r current (tabs.map SessionRecord.tabText) =
        (after, .ok (latest currentFile current tabs)) ∧ r.Reopens tabs after := by
  induction tabs generalizing r current with
  | nil => exact ⟨r, rfl, rfl, rfl, rfl, rfl, by simp⟩
  | cons tab rest ih =>
    obtain ⟨n, hn, hfile⟩ := hfiles tab List.mem_cons_self
    have hfind : r.store.forest.atSavedPath? (SessionRecord.tabText tab) = some n := by
      rw [SessionRecord.tabText, Forest.atSavedPath?_ofString, hfile.path]
      exact hshows.wellFormed.atPath?_path hpaths hn
    have habsent : ∀ other ∈ r.tabs.tabs, other.tid ≠ tab.tid := by
      rw [List.map_append, List.nodup_append] at htids
      exact fun other hother =>
        htids.2.2 _ (List.mem_map_of_mem hother) _ List.mem_cons_self
    obtain ⟨hopened, hshown⟩ := openNode_of_showsFile hfile habsent
    -- the state after this tab, from which the others are reopened
    obtain ⟨after, hrest, hreopens⟩ := @ih
      { r with
        tabs := r.tabs.push tab
        events := r.events ++ (r.tabs.openNode load n).events
        reopened := r.reopened ++ [SessionRecord.tabText tab] }
      (if currentFile = some (SessionRecord.tabText tab) then some tab.tid else current) hshows
      hpaths
      (by simpa [Tabs.push] using htids)
      fun other hother => hfiles other (List.mem_cons_of_mem _ hother)
    refine ⟨after, ?_, ?_⟩
    · rw [List.map_cons, reopenPaths, hfind]
      simp only [hshown, hopened]
      exact hrest
    · constructor
      · exact hreopens.store
      · exact hreopens.tabs
      · exact hreopens.expanded
      · exact hreopens.missing
      · simpa using hreopens.reopened

lemma focus_eq (r : Restored) (current : Option String) :
    r.focus current = { r with tabs := (r.focus current).tabs } := by
  cases current <;> rfl

end Restored

lemma Editor.Tabs.tabs_foldl_push (t : Tabs) (tabs : List Tab) :
    (tabs.foldl push t).tabs = t.tabs ++ tabs := by
  induction tabs generalizing t with
  | nil => simp
  | cons tab rest ih =>
    rw [List.foldl_cons, ih]
    simp [push]

/-! ### The round trip -/

/-- Applied to a store and an empty list of tabs, the record brings back the open marks and the tabs
of a workbench, and nothing that it names is missing. -/
structure SessionRecord.BringsBack (record : SessionRecord) (load : Loader) (s : Store)
    (w : Workbench) : Prop where
  outcome : (record.applyTo load s {}).2 = .ok ()
  marks : ((record.applyTo load s {}).1.store.forest.rows.map fun n => (n.tid, n.isOpen)) =
    w.store.forest.rows.map fun n => (n.tid, n.isOpen)
  tabs : (record.applyTo load s {}).1.tabs = w.tabs
  missing : (record.applyTo load s {}).1.missing = []
  expanded : (record.applyTo load s {}).1.expanded = record.openPaths
  reopened : (record.applyTo load s {}).1.reopened = record.filePaths

namespace Workbench.InBuild

variable {load : Loader} {treeId : String} {build : Nat} {entries : List Entry} {w : Workbench}

/-- Where paths differ, tabs with the same path have the same id. -/
lemma tid_eq_of_path_eq (h : w.InBuild load treeId build entries)
    (hpaths : (w.store.forest.rows.map Node.path).Nodup) {tab other : Tab}
    (htab : tab ∈ w.tabs.tabs) (hother : other ∈ w.tabs.tabs) (hpath : other.path = tab.path) :
    other.tid = tab.tid := by
  obtain ⟨n, hn, hn_file⟩ := h.files tab htab
  obtain ⟨m, hm, hm_file⟩ := h.files other hother
  have hsame : m.path = n.path := by rw [← hm_file.path, hpath, hn_file.path]
  have hfind := h.shows.wellFormed.tidOfPath?_path hpaths hm
  rw [hsame, h.shows.wellFormed.tidOfPath?_path hpaths hn, Option.some.injEq] at hfind
  rw [hm_file.tid, ← hfind, hn_file.tid]

/-- Reopening the tabs one after the other and going back to the current one gives the same tabs. -/
lemma focus_latest (h : w.InBuild load treeId build entries)
    (hpaths : (w.store.forest.rows.map Node.path).Nodup) {r : Restored}
    (hr : r.tabs = w.tabs.tabs.foldl Tabs.push {}) :
    (r.focus (Restored.latest (w.tabs.current?.map SessionRecord.tabText) none w.tabs.tabs)).tabs =
      w.tabs := by
  by_cases hempty : w.tabs.tabs = []
  · have hcurrent : w.tabs.currentTid = none := by
      rw [Option.eq_none_iff_forall_ne_some]
      intro tid htid
      obtain ⟨tab, htab, -⟩ := h.tabs.current tid htid
      simp [hempty] at htab
    have htabs : w.tabs = {} := by
      rw [← hempty, ← hcurrent]
    simp [htabs, Restored.latest, Restored.focus, hr]
  · obtain ⟨tab, htab, hcurrent, hfound⟩ := h.tabs.exists_current hempty
    have hlatest :
        Restored.latest (some (SessionRecord.tabText tab)) none w.tabs.tabs = some tab.tid :=
      Restored.latest_eq (Or.inl htab) fun other hother hpath =>
        h.tid_eq_of_path_eq hpaths htab hother hpath
    have hall : r.tabs.tabs = w.tabs.tabs := by
      rw [hr, Tabs.tabs_foldl_push]
      rfl
    have hmem : tab ∈ r.tabs.tabs := hall ▸ htab
    rw [hfound, Option.map_some, hlatest, Restored.focus, Tabs.setCurrent_of_mem hmem, hall,
      ← hcurrent]

/-- Applying the record of a workbench opens the directories, reopens the tabs and goes back to the
current one, and no file fails to load. -/
lemma exists_applyTo_capture (h : w.InBuild load treeId build entries)
    (hpaths : (w.store.forest.rows.map Node.path).Nodup) {s : Store}
    (hshows : s.forest.Shows treeId entries) :
    ∃ opened after : Restored,
      Restored.Expands (SessionRecord.openTexts w.store.forest) { store := s } opened ∧
      Restored.Reopens w.tabs.tabs { opened with tabs := {} } after ∧
      (SessionRecord.capture w.store.forest (some w.tabs) none).applyTo load s {} =
        (after.focus (Restored.latest (w.tabs.current?.map SessionRecord.tabText) none w.tabs.tabs),
          .ok ()) := by
  have hexpands :=
    (SessionRecord.capture w.store.forest (some w.tabs) none).expands_expandIn hshows
  set opened := (SessionRecord.capture w.store.forest (some w.tabs) none).expandIn s with hopened
  have hshows' : opened.store.forest.Shows treeId entries := by
    rw [hexpands.forest]
    exact hshows.openAt _
  have hpaths' : (opened.store.forest.rows.map Node.path).Nodup := by
    rwa [hshows'.paths_congr h.shows]
  obtain ⟨after, hreopen, hreopens⟩ :=
    @Restored.reopenPaths_showFiles load treeId entries (w.tabs.current?.map SessionRecord.tabText)
      { opened with tabs := {} } none w.tabs.tabs hshows' hpaths' h.tabs.nodup
      (h.files.of_shows h.shows hshows')
  refine ⟨opened, after, hexpands, hreopens, ?_⟩
  rw [SessionRecord.applyTo, ← hopened]
  simp only [SessionRecord.capture]
  rw [hreopen]

/-- The record of a workbench brings its state back in every store that shows the same entries and
where nothing is open. -/
theorem bringsBack (h : w.InBuild load treeId build entries)
    (hpaths : (w.store.forest.rows.map Node.path).Nodup) {s : Store}
    (hshows : s.forest.Shows treeId entries) (hclosed : ∀ n ∈ s.forest.rows, n.isOpen = false) :
    (SessionRecord.capture w.store.forest (some w.tabs) none).BringsBack load s w := by
  obtain ⟨opened, after, hexpands, hreopens, happly⟩ := h.exists_applyTo_capture hpaths hshows
  have hcan : ∀ path ∈ SessionRecord.openTexts w.store.forest,
      s.forest.canOpen path = true := by
    intro path hpath
    rw [hshows.canOpen_congr h.shows]
    exact h.shows.canOpen_of_mem_openTexts hpaths hpath
  constructor <;> rw [happly]
  · rw [Restored.store_focus, hreopens.store, hexpands.forest]
    exact h.shows.marks_openAt_openTexts hshows hpaths hclosed
  · exact h.focus_latest hpaths hreopens.tabs
  · rw [Restored.focus_eq]
    simp only [hreopens.missing, hexpands.missing, List.nil_append]
    apply List.filter_eq_nil_iff.mpr
    intro path hpath
    simp [hcan path hpath]
  · rw [Restored.focus_eq]
    simp only [hreopens.expanded, hexpands.expanded, List.nil_append]
    exact List.filter_eq_self.mpr hcan
  · rw [Restored.focus_eq]
    simp only [hreopens.reopened, hexpands.reopened]
    rfl

end Workbench.InBuild

/-- A store that has loaded a snapshot shows its entries and has nothing open. -/
lemma Store.exists_entries_of_loadJson {s loaded : Store} {snapshot : Json String}
    (h : s.loadJson snapshot = .ok loaded) :
    ∃ entries, Entry.ofSnapshot snapshot = .ok entries ∧
      loaded.forest.Shows s.treeId entries ∧ ∀ n ∈ loaded.forest.rows, n.isOpen = false := by
  obtain ⟨entries, hentries, rfl⟩ := exists_load_of_loadJson h
  exact ⟨entries, hentries, Forest.shows_ofEntries _ _ _,
    fun n hn => (Forest.of_mem_rows_ofEntries hn).1⟩

/-- Whatever has been done in one build, to its nodes and to tabs for them, the record of it brings
everything back in another build of the same snapshot, if the paths of the snapshot differ. -/
theorem Workbench.bringsBack_run (w : Workbench) (load : Loader) {snapshot : Json String}
    {start fresh loaded rebuilt : Store} {actions : List Action}
    (hloaded : start.loadJson snapshot = .ok loaded)
    (hrebuilt : fresh.loadJson snapshot = .ok rebuilt) (htree : fresh.treeId = start.treeId)
    (hpaths : (loaded.forest.rows.map Node.path).Nodup)
    (hactions : ∀ a ∈ actions, a.StaysIn load loaded.forest.build) :
    let saved := Workbench.run { w with store := loaded, tabs := {} } actions
    (SessionRecord.capture saved.store.forest (some saved.tabs) none).BringsBack load rebuilt
      saved := by
  obtain ⟨entries, hentries, hshows, -⟩ := Store.exists_entries_of_loadJson hloaded
  obtain ⟨entries', hentries', hshows', hclosed⟩ := Store.exists_entries_of_loadJson hrebuilt
  obtain rfl : entries' = entries := Except.ok.inj (hentries'.symm.trans hentries)
  rw [htree] at hshows'
  have hstart : InBuild load start.treeId loaded.forest.build entries'
      { w with store := loaded, tabs := {} } :=
    ⟨hshows, rfl, Tabs.wellFormed_empty, fun tab htab => absurd htab List.not_mem_nil⟩
  intro saved
  have hsaved : saved.InBuild load start.treeId loaded.forest.build entries' := hstart.run hactions
  have hpaths' : (saved.store.forest.rows.map Node.path).Nodup := by
    rwa [hsaved.shows.paths_congr hshows]
  exact hsaved.bringsBack hpaths' hshows' hclosed

/-- A directory with a file in it, and a file behind it. -/
def twoFiles : Json String :=
  .arr [
    .obj [("path", .str "/a"), ("type", .str "d"), ("children", .arr [
      .obj [("path", .str "/a/x")]])],
    .obj [("path", .str "/b")]]

/-- The files are opened from below, and the first tab is made current again. -/
def openTwoFiles (load : Loader) : List Action :=
  [.expandAll true, .openNode load ⟨1, "files_3"⟩, .openNode load ⟨1, "files_2"⟩,
    .setCurrentTab "files_3"]

theorem Workbench.bringsBack_run_twoFiles :
    let load : Loader := fun path => .ok (.text plainMode path)
    ∃ loaded : Store, ({} : Store).loadJson twoFiles = .ok loaded ∧
      (loaded.forest.rows.map Node.path).Nodup ∧
      (∀ a ∈ openTwoFiles load, a.StaysIn load loaded.forest.build) ∧
      let saved := Workbench.run { store := loaded } (openTwoFiles load)
      saved.tabs = ⟨[⟨"files_3", "/b", plainMode, "/b"⟩, ⟨"files_2", "/a/x", plainMode, "/a/x"⟩],
        some "files_3"⟩ ∧
      (SessionRecord.capture saved.store.forest (some saved.tabs) none).BringsBack load loaded
        saved := by
  have hloaded : ({} : Store).loadJson twoFiles =
      .ok (({} : Store).load [.dir "a" "/a" [.file "x" "/a/x"], .file "b" "/b"]) := by rfl
  have hpaths : ((({} : Store).load
      [.dir "a" "/a" [.file "x" "/a/x"], .file "b" "/b"]).forest.rows.map Node.path).Nodup := by
    decide +kernel
  intro load
  have hactions : ∀ a ∈ openTwoFiles load, a.StaysIn load 1 := by
    simp [openTwoFiles, Action.StaysIn]
  refine ⟨_, hloaded, hpaths, hactions, by decide +kernel, ?_⟩
  exact bringsBack_run {} load hloaded hloaded rfl hpaths hactions

end Sidebar
