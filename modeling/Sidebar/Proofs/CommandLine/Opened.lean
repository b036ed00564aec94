import Sidebar.CommandLine.Run
import Sidebar.Proofs.FileSystem.Places
import Sidebar.Proofs.Navigation.Moves
import Sidebar.Proofs.Outcome
import Sidebar.Proofs.Session.Applied

/-!
# What arguments and records open

The arguments of a command line open directories as a saved record does: each is resolved to a path,
and the first row with that path is opened. Resolving does not look at the tree, so as long as all
arguments lead into the tree neither their order nor repetitions matter.
-/

namespace Sidebar

open Editor Node

namespace CommandLine

variable {treeId : String} {fs : FileSystem} {w : Workspace}

/-- The paths that operands resolve to, as a record has them. -/
def resolvedPaths (fs : FileSystem) (operands : List Operand) : List WideText :=
  operands.filterMap fun operand => (resolveOperand fs operand).toOption.map .ofString

/-- Where there is nothing at all, a whole path is that of the operand. -/
lemma resolveOperand_of_bare (hbare : fs.entries = []) {text name : String} {rest : List String}
    (htext : Path.ofString text = ⟨.root, name :: rest⟩)
    (hnames : ∀ other ∈ name :: rest, ValidName other) :
    resolveOperand fs (some text) = .ok (⟨.root, name :: rest⟩ : Path).toString := by
  rw [resolveOperand, htext, FileSystem.resolve_of_bare hbare hnames]
  rfl

lemma nodeOf_eq_ok_iff {forest : Forest} {operand : Operand} {n : Node} :
    nodeOf fs forest operand = .ok n ↔
      ∃ path, resolveOperand fs operand = .ok path ∧ forest.atPath? path = some n := by
  rw [nodeOf, bind_eq_ok_iff]
  refine exists_congr fun path => ?_
  rw [mapError_eq_ok_iff]
  refine and_congr_right fun _ => ?_
  cases forest.atPath? path with
  | none => simp [throw, throwThe, MonadExceptOf.throw]
  | some m => simp [pure, Except.pure]

/-- An operand leads into the tree when some row has the path that it resolves to. -/
lemma exists_nodeOf_iff {forest : Forest} (h : forest.WellFormed treeId) {operand : Operand} :
    (∃ n, nodeOf fs forest operand = .ok n) ↔
      ∃ path, resolveOperand fs operand = .ok path ∧ path ∈ forest.rows.map Node.path := by
  simp only [nodeOf_eq_ok_iff, h.atPath?_eq]
  rw [exists_comm]
  refine exists_congr fun path => ?_
  rw [exists_and_left, ← Option.isSome_iff_exists, List.find?_isSome, List.mem_map]
  simp only [decide_eq_true_iff]

/-- Where all operands lead into the tree, they open the rows at the paths that they resolve to. -/
lemma expandOperands_eq (h : w.store.Sound treeId) {operands : List Operand}
    (hfound : ∀ operand ∈ operands, ∃ n, nodeOf fs w.store.forest operand = .ok n) :
    expandOperands fs w operands = .ok { w with
      store := { w.store with forest := w.store.forest.openAt (resolvedPaths fs operands) } } := by
  induction operands generalizing w with
  | nil =>
    have hnone : w.store.forest.openAt (resolvedPaths fs []) = w.store.forest :=
      Forest.openAt_eq_self fun _ _ _ => rfl
    rw [expandOperands, hnone]
  | cons operand rest ih =>
    obtain ⟨n, hn⟩ := hfound operand List.mem_cons_self
    obtain ⟨path, hresolve, hfind⟩ := nodeOf_eq_ok_iff.mp hn
    obtain ⟨_, hshows⟩ := h.exists_shows
    have hsaved : w.store.forest.atSavedPath? path = some n :=
      (Forest.atSavedPath?_ofString _ path).trans hfind
    have hsound := h.openAt [(path : WideText)]
    have hrest : ∀ other ∈ rest,
        ∃ n, nodeOf fs (w.store.forest.openAt [(path : WideText)]) other = .ok n := by
      intro other hother
      have hother' := hfound other (List.mem_cons_of_mem operand hother)
      rw [exists_nodeOf_iff h.wellFormed] at hother'
      rwa [exists_nodeOf_iff hsound.wellFormed, (hshows.openAt _).paths_congr hshows]
    have hpaths :
        resolvedPaths fs (operand :: rest) = [(path : WideText)] ++ resolvedPaths fs rest := by
      simp [resolvedPaths, hresolve, Except.toOption]
    rw [expandOperands, hn, mapError_ok]
    refine (ih (w := { w with store := w.store.expand n (some true) }) ?_ ?_).trans ?_
    · rwa [h.expand_of_atSavedPath? hsaved]
    · rwa [h.expand_of_atSavedPath? hsaved]
    · rw [h.expand_of_atSavedPath? hsaved, hpaths, ← hshows.openAt_openAt]

end CommandLine

namespace Workbench

variable {treeId : String} {w : Workbench}

/-- In every reachable store a record opens the first row with each saved path, where that row has
children, and does nothing else; the order of the paths, repetitions and applying the record again
make no difference, and every path is reported once. Arguments that all lead into the tree open what
a record of their paths would. In a new build whose paths differ, the saved directories with
children are open afterwards, and nothing else is. -/
theorem Reachable.settles_and_expandOperands (h : w.Reachable treeId) (record : SessionRecord) :
    record.Settles w.store ∧
    (∀ (fs : FileSystem) (workspace : CommandLine.Workspace), workspace.store = w.store →
      ∀ operands others : List CommandLine.Operand,
      (∀ operand, operand ∈ others ↔ operand ∈ operands) →
      (∀ operand ∈ operands, ∃ n, CommandLine.nodeOf fs w.store.forest operand = .ok n) →
      ∃ after, CommandLine.expandOperands fs workspace operands = .ok after ∧
        CommandLine.expandOperands fs workspace others = .ok after ∧
        after.store = (SessionRecord.expandIn
          { openPaths := CommandLine.resolvedPaths fs operands } w.store).store) ∧
    (∀ snapshot loaded, w.store.loadJson snapshot = .ok loaded →
      (loaded.forest.rows.map Node.path).Nodup →
      ∀ path, path ∈ (record.expandIn loaded).store.forest.openPaths ↔
        (path : WideText) ∈ record.openPaths ∧
          ∃ n ∈ loaded.forest.rows, n.path = path ∧ n.row.isDir ∧ n.children ≠ []) := by
  refine ⟨record.settles h.sound, ?_, ?_⟩
  · rintro fs workspace hstore operands others hsame hfound
    have hsound : workspace.store.Sound treeId := hstore ▸ h.sound
    rw [← hstore] at hfound ⊢
    have hpaths : workspace.store.forest.openAt (CommandLine.resolvedPaths fs others) =
        workspace.store.forest.openAt (CommandLine.resolvedPaths fs operands) := by
      refine Forest.openAt_congr (fun path => ?_) _
      simp only [CommandLine.resolvedPaths, List.mem_filterMap, hsame]
    refine ⟨_, CommandLine.expandOperands_eq hsound hfound, ?_, ?_⟩
    · rw [CommandLine.expandOperands_eq hsound fun operand hoperand =>
        hfound operand ((hsame operand).mp hoperand), hpaths]
    · rw [SessionRecord.store_expandIn _ hsound]
  · intro snapshot loaded hload hpaths path
    obtain ⟨entries, -, hshows, hclosed⟩ := Store.exists_entries_of_loadJson hload
    rw [record.store_expandIn (h.sound.loadJson hload)]
    exact hshows.mem_openPaths_openAt hpaths hclosed record.openPaths path

/-- A record with a directory that is saved twice, a file among the directories, and a path that is
gone. -/
def mixedRecord : SessionRecord where
  openPaths := ["/a/b", "/gone", "/a/c", "/a/b"]
  filePaths := ["/d", "/gone"]

theorem settles_and_expandOperands_fourRows :
    fourRows.Reachable "files" ∧ mixedRecord.Settles fourRows.store ∧
      (mixedRecord.expandIn fourRows.store).store.forest.openPaths = ["/a", "/a/b"] ∧
      (mixedRecord.expandIn fourRows.store).expanded = (["/a/b", "/a/b"] : List WideText) ∧
      (mixedRecord.expandIn fourRows.store).missing = (["/gone", "/a/c"] : List WideText) ∧
      (∀ events, ∃ after, after.store.forest.openPaths = ["/a", "/a/b"] ∧
        CommandLine.expandOperands {} ⟨.absolute [], fourRows.store, fourRows.bound, events⟩
          [some "/a/b", some "/d"] = .ok after ∧
        CommandLine.expandOperands {} ⟨.absolute [], fourRows.store, fourRows.bound, events⟩
          [some "/d", some "/a/b", some "/d"] = .ok after) ∧
      ∃ loaded, fourRows.store.loadJson twoFiles = .ok loaded ∧
        (loaded.forest.rows.map Node.path).Nodup ∧
        ∀ path, path ∈ (mixedRecord.expandIn loaded).store.forest.openPaths ↔
          (path : WideText) ∈ mixedRecord.openPaths ∧
            ∃ n ∈ loaded.forest.rows, n.path = path ∧ n.row.isDir ∧ n.children ≠ [] := by
  have hreach : fourRows.Reachable "files" := ⟨_, _, rfl⟩
  obtain ⟨hsettles, hoperands, hfresh⟩ := Reachable.settles_and_expandOperands hreach mixedRecord
  refine ⟨hreach, hsettles, by decide +kernel, by decide +kernel, by decide +kernel, ?_, ?_⟩
  · intro events
    have hnames : ∀ name ∈ ["a", "b"], ValidName name := by simp [validName_iff]
    have hdir : CommandLine.resolveOperand {} (some "/a/b") = .ok "/a/b" :=
      CommandLine.resolveOperand_of_bare rfl rfl hnames
    have hname : ∀ name ∈ ["d"], ValidName name := by simp [validName_iff]
    have hfile : CommandLine.resolveOperand {} (some "/d") = .ok "/d" :=
      CommandLine.resolveOperand_of_bare rfl rfl hname
    have hresolved : CommandLine.resolvedPaths {} [some "/a/b", some "/d"] =
        (["/a/b", "/d"] : List WideText) := by
      simp [CommandLine.resolvedPaths, hdir, hfile, Except.toOption]
    have hfound : ∀ operand ∈ [some "/a/b", some "/d"],
        ∃ n, CommandLine.nodeOf {} fourRows.store.forest operand = .ok n := by
      simp only [CommandLine.exists_nodeOf_iff hreach.sound.wellFormed]
      intro operand hoperand
      rcases List.mem_pair.mp hoperand with rfl | rfl
      · exact ⟨"/a/b", hdir, by decide +kernel⟩
      · exact ⟨"/d", hfile, by decide +kernel⟩
    obtain ⟨after, hafter, hothers, hstore⟩ := hoperands {}
      ⟨.absolute [], fourRows.store, fourRows.bound, events⟩ rfl [some "/a/b", some "/d"]
      [some "/d", some "/a/b", some "/d"] (by simp [or_comm]) hfound
    refine ⟨after, ?_, hafter, hothers⟩
    rw [hstore, hresolved]
    decide +kernel
  · have hloaded : fourRows.store.loadJson twoFiles =
        .ok (fourRows.store.load [.dir "a" "/a" [.file "x" "/a/x"], .file "b" "/b"]) := by rfl
    have hpaths : ((fourRows.store.load
        [.dir "a" "/a" [.file "x" "/a/x"], .file "b" "/b"]).forest.rows.map Node.path).Nodup := by
      decide +kernel
    exact ⟨_, hloaded, hpaths, hfresh twoFiles _ hloaded hpaths⟩

end Workbench

end Sidebar
