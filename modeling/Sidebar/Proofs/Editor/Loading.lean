import Sidebar.Proofs.Editor.Reading
import Sidebar.Proofs.Editor.Tabs
import Sidebar.Proofs.FileSystem.Places
import Sidebar.Proofs.Workbench.Run

/-!
# Loading files

The editor asks for a file by the text of its path. Images are told by their names; of anything else
the bytes are read, and what the system refuses is reported. A path with a NUL never reaches the
system: it is no path at all, and that is not reported but fails.

Reading a path from its text drops slashes and dots but no other character, so it has a NUL if its
text has one.
-/

namespace Sidebar

/-! ### Characters of a path -/

/-- Cutting a text at the slashes keeps all other characters. -/
lemma exists_mem_segments_iff {c : Char} (hc : c ≠ '/') {cs : List Char} :
    (∃ piece ∈ segments cs, c ∈ piece) ↔ c ∈ cs := by
  induction cs with
  | nil => simp [segments]
  | cons d cs ih =>
    rw [segments]
    split
    · next hslash =>
      have hd : c ≠ d := hslash ▸ hc
      simp [ih, hd]
    · cases hsegments : segments cs with
      | nil =>
        have hcs : c ∉ cs := by simpa [hsegments] using ih
        simp [hcs]
      | cons first rest =>
        rw [hsegments, List.exists_mem_cons_iff] at ih
        rw [List.exists_mem_cons_iff, List.mem_cons, or_assoc, ih, List.mem_cons]

namespace Path

/-- Reading a path drops no characters but slashes and dots. -/
theorem mem_toString_ofString_iff {c : Char} (hslash : c ≠ '/') (hdot : c ≠ '.') (text : String) :
    c ∈ (ofString text).toString.toList ↔ c ∈ text.toList := by
  rw [mem_toString_iff hslash hdot, ← exists_mem_segments_iff hslash]
  constructor
  · rintro ⟨name, hname, hc⟩
    obtain ⟨piece, hpiece, rfl⟩ := List.mem_map.mp hname
    rw [String.toList_ofList] at hc
    exact ⟨piece, (List.mem_filter.mp hpiece).1, hc⟩
  · rintro ⟨piece, hpiece, hc⟩
    have hname : isName piece = true := by
      have hempty : piece ≠ [] := List.ne_nil_of_mem hc
      have hdots : piece ≠ ['.'] := by
        rintro rfl
        exact hdot (List.mem_singleton.mp hc)
      simp [isName, hempty, hdots]
    refine ⟨String.ofList piece, List.mem_map_of_mem (List.mem_filter.mpr ⟨hpiece, hname⟩), ?_⟩
    rwa [String.toList_ofList]

end Path

/-! ### Access -/

namespace FileSystem

variable {fs : FileSystem} {p : Path} {bytes : ByteArray}

lemma bytesAt_eq_ok_iff : fs.bytesAt p = .ok bytes ↔ fs.stat p = .ok (.file bytes) := by
  rw [bytesAt]
  cases fs.stat p with
  | error e => simp [bind, Except.bind]
  | ok inode =>
    cases inode <;> simp [bind, Except.bind, pure, Except.pure, throw, throwThe,
      MonadExceptOf.throw]

/-- The system is not asked about a path with a NUL, and about no other path is this said. -/
theorem bytesAt_eq_embeddedNul_iff :
    fs.bytesAt p = .error .embeddedNul ↔ p.toString.contains '\x00' = true := by
  have hlocate : fs.locate true p = .error .embeddedNul ↔ p.toString.contains '\x00' = true := by
    rw [locate]
    split
    · next hnul => simp [hnul]
    · next hnul =>
      refine iff_of_false (fun herror => ?_) hnul
      split at herror
      · simp at herror
      · split at herror <;>
        · obtain ⟨_, -, hsystem⟩ := mapError_eq_error_iff.mp herror
          cases hsystem
  have hstat : fs.stat p = .error .embeddedNul ↔ fs.locate true p = .error .embeddedNul := by
    rw [stat, bind_eq_error_iff, or_iff_left]
    rintro ⟨destination, -, herror⟩
    cases destination <;> cases herror
  rw [← hlocate, ← hstat, bytesAt, bind_eq_error_iff, or_iff_left]
  rintro ⟨inode, -, herror⟩
  cases inode <;> cases herror

end FileSystem

namespace Editor

variable {lexers : Lexers} {fs : FileSystem}

/-! ### Loading a file -/

/-- The system is asked for a file unless it is an image by its name, or its path has a NUL. -/
def AsksSystem (path : String) : Prop :=
  isImage (Path.ofString path).name = false ∧ '\x00' ∉ path.toList

/-- What loading a file comes to, and when. The look-up of languages decides the mode of a text and
nothing else. -/
structure Loads (lexers : Lexers) (fs : FileSystem) (path : String) : Prop where
  image : loadFile lexers fs path = .ok .image ↔ isImage (Path.ofString path).name = true
  text : ∀ mode content, loadFile lexers fs path = .ok (.text mode content) ↔
    AsksSystem path ∧ ∃ bytes, fs.stat (.ofString path) = .ok (.file bytes) ∧
      modeOf lexers (Path.ofString path).name (Text.ofFile bytes) = mode ∧
      Text.ofFile bytes = content
  mode_ne : ∀ mode content, loadFile lexers fs path = .ok (.text mode content) → mode ≠ imageMode
  unreadable : (∃ reason, loadFile lexers fs path = .ok (.unreadable reason)) ↔
    AsksSystem path ∧ ∀ bytes, fs.stat (.ofString path) ≠ .ok (.file bytes)
  reason : ∀ reason, loadFile lexers fs path = .ok (.unreadable reason) →
    ∃ errno, fs.bytesAt (.ofString path) = .error (.system errno) ∧
      reason = "Cannot open " ++ path ++ ": " ++
        (Failure.system errno (Path.ofString path).toString).message
  failure : ∀ failure, loadFile lexers fs path = .error failure ↔
    failure = .embeddedNul ∧ isImage (Path.ofString path).name = false ∧ '\x00' ∈ path.toList

section Outcomes

variable {path : String}

lemma bytesAt_ofString_eq_embeddedNul_iff :
    fs.bytesAt (.ofString path) = .error .embeddedNul ↔ '\x00' ∈ path.toList := by
  rw [FileSystem.bytesAt_eq_embeddedNul_iff, String.contains_char_eq, decide_eq_true_iff,
    Path.mem_toString_ofString_iff (by decide) (by decide)]

lemma loadFile_of_image (himage : isImage (Path.ofString path).name = true) :
    loadFile lexers fs path = .ok .image := by
  simp only [loadFile, himage, if_true]

lemma loadFile_of_nul (himage : isImage (Path.ofString path).name = false)
    (hnul : '\x00' ∈ path.toList) : loadFile lexers fs path = .error .embeddedNul := by
  have hbytes : fs.bytesAt (.ofString path) = .error .embeddedNul :=
    bytesAt_ofString_eq_embeddedNul_iff.mpr hnul
  simp only [loadFile, himage, hbytes, Bool.false_eq_true, if_false]

lemma loadFile_of_refused {errno : Errno} (himage : isImage (Path.ofString path).name = false)
    (h : fs.bytesAt (.ofString path) = .error (.system errno)) :
    loadFile lexers fs path = .ok (.unreadable ("Cannot open " ++ path ++ ": " ++
      (Failure.system errno (Path.ofString path).toString).message)) := by
  simp only [loadFile, himage, h, Bool.false_eq_true, if_false]

end Outcomes

/-- A file is loaded as what it is, or it is reported why not; but a path with a NUL fails unless it
has the name of an image. -/
theorem loads (lexers : Lexers) (fs : FileSystem) (path : String) : Loads lexers fs path := by
  have hfile : ∀ bytes, fs.stat (.ofString path) = .ok (.file bytes) ↔
      fs.bytesAt (.ofString path) = .ok bytes := fun bytes => FileSystem.bytesAt_eq_ok_iff.symm
  -- The cases are those of the loader: in each of them its answer settles all the questions.
  cases himage : isImage (Path.ofString path).name with
  | true =>
    have hload : loadFile lexers fs path = .ok .image := loadFile_of_image himage
    constructor <;> simp [hload, himage, AsksSystem]
  | false =>
    have hnul : fs.bytesAt (.ofString path) = .error .embeddedNul ↔ '\x00' ∈ path.toList :=
      bytesAt_ofString_eq_embeddedNul_iff
    cases hbytes : fs.bytesAt (.ofString path) with
    | ok bytes =>
      have hload : loadFile lexers fs path = _ := loadFile_eq hbytes himage
      have hplain : '\x00' ∉ path.toList := by simp [← hnul, hbytes]
      constructor
      case mode_ne =>
        rintro _ _ htext
        cases hload.symm.trans htext
        exact modeOf_ne_imageMode lexers _ _
      all_goals simp [hload, himage, AsksSystem, hplain, hfile, hbytes]
    | error e =>
      cases e with
      | embeddedNul =>
        have hmem : '\x00' ∈ path.toList := hnul.mp hbytes
        have hload : loadFile lexers fs path = .error .embeddedNul := loadFile_of_nul himage hmem
        constructor <;> simp [hload, himage, AsksSystem, hmem, eq_comm]
      | system errno =>
        have hload : loadFile lexers fs path = _ := loadFile_of_refused himage hbytes
        have hplain : '\x00' ∉ path.toList := by simp [← hnul, hbytes]
        constructor
        case reason =>
          rintro _ hreason
          cases hload.symm.trans hreason
          exact ⟨errno, hbytes, rfl⟩
        all_goals simp [hload, himage, AsksSystem, hplain, hfile, hbytes]

/-! ### Opening a node -/

namespace Tabs

/-- The loader is asked for a file only when there is no tab to show. Its failures and its reports
are passed on, and there are no others. -/
lemma openNode_passes_on (load : Loader) (t : Tabs) (n : Node) :
    (∀ failure, (t.openNode load n).outcome = .error failure ↔
      t.find? n.tid = none ∧ n.row.isDir = false ∧ load n.path = .error failure) ∧
    ∀ reason, (t.openNode load n).outcome = .ok (.failed reason) ↔
      t.find? n.tid = none ∧ n.row.isDir = false ∧ load n.path = .ok (.unreadable reason) := by
  rw [openNode]
  cases t.find? n.tid with
  | some tab => simp
  | none =>
    cases n.row.isDir with
    | true => simp
    | false =>
      cases load n.path with
      | error e => simp
      | ok loaded => cases loaded <;> simp

end Tabs

/-- What opening a node comes to when no tab is shown for it. -/
structure Opens (lexers : Lexers) (fs : FileSystem) (t : Tabs) (n : Node) : Prop where
  failure : ∀ failure, (t.openNode (loadFile lexers fs) n).outcome = .error failure ↔
    failure = .embeddedNul ∧ t.find? n.tid = none ∧ n.row.isDir = false ∧
      isImage (Path.ofString n.path).name = false ∧ '\x00' ∈ n.path.toList
  failed : ∀ reason, (t.openNode (loadFile lexers fs) n).outcome = .ok (.failed reason) ↔
    t.find? n.tid = none ∧ n.row.isDir = false ∧
      loadFile lexers fs n.path = .ok (.unreadable reason)
  kept : (∀ tab, (t.openNode (loadFile lexers fs) n).outcome ≠ .ok (.shown tab)) →
    (t.openNode (loadFile lexers fs) n).tabs = t

theorem opens (lexers : Lexers) (fs : FileSystem) (t : Tabs) (n : Node) :
    Opens lexers fs t n where
  failure := by
    intro failure
    rw [(Tabs.openNode_passes_on (loadFile lexers fs) t n).1, (loads lexers fs n.path).failure]
    constructor
    · rintro ⟨hfind, hdir, hfailure, hplain⟩
      exact ⟨hfailure, hfind, hdir, hplain⟩
    · rintro ⟨hfailure, hfind, hdir, hplain⟩
      exact ⟨hfind, hdir, hfailure, hplain⟩
  failed := (Tabs.openNode_passes_on (loadFile lexers fs) t n).2
  kept := by
    intro hshown
    rcases Tabs.openNode_cases (loadFile lexers fs) t n with
      ⟨tab, -, -, -, -, houtcome⟩ | ⟨mode, content, -, -, -, -, houtcome⟩ | ⟨-, -, htabs, -⟩
    · exact absurd houtcome (hshown _)
    · exact absurd houtcome (hshown _)
    · exact htabs

/-- Whatever can be asked for is loaded as an image, as the text of a file, or as a report, and
opening a node passes that on; only a path with a NUL and without the name of an image makes both
fail. -/
theorem loads_and_opens (lexers : Lexers) (fs : FileSystem) :
    (∀ path, Loads lexers fs path) ∧ ∀ t n, Opens lexers fs t n :=
  ⟨loads lexers fs, opens lexers fs⟩

/-! ### A path with a NUL -/

/-- A look-up that fits no name. -/
def noLexers : Lexers := ⟨fun _ _ => none, by simp⟩

/-- A snapshot can carry such a path. -/
def nulLoaded : Workbench :=
  (Workbench.emptied {} "files").run [.load (.arr [.obj [("path", .str "/a\x00b")]])]

def nulRow : Node := .node ⟨⟨1, "files_1"⟩, "a\x00b", "/a\x00b", false, 0, none, false, true⟩ []

/-- Its row is in the tree, and nothing is reported when it is opened. -/
theorem openNode_nulRow :
    nulLoaded.Reachable "files" ∧ nulLoaded.store.forest.rows = [nulRow] ∧
      loadFile noLexers {} nulRow.path = .error .embeddedNul ∧
      (nulLoaded.tabs.openNode (loadFile noLexers {}) nulRow).outcome = .error .embeddedNul := by
  have hload : loadFile noLexers {} nulRow.path = .error .embeddedNul :=
    loadFile_of_nul (by decide +kernel) (by decide +kernel)
  refine ⟨⟨{}, _, rfl⟩, by decide +kernel, hload, ?_⟩
  rw [(Tabs.openNode_passes_on (loadFile noLexers {}) nulLoaded.tabs nulRow).1]
  exact ⟨rfl, rfl, hload⟩

end Editor

end Sidebar
