import Sidebar.FileSystem.Scan
import Sidebar.Proofs.FileSystem.Following
import Sidebar.Proofs.Outcome

/-!
# Walks by recursion on what is there

A scan goes from one listing to the next. What it shows of an inode follows from the inode and its
path alone: an entry for itself, and below a directory that can be read the entries of what is in
it, in display order. A walk that is in few enough directories at once gives just that, whatever it
reports on its way. Any other walk fails.
-/

namespace Sidebar

/-- Puts sibling entries into display order. -/
def sortEntries (entries : List Entry) : List Entry :=
  entries.mergeSort fun a b => siblingsLe a.isDir a.name b.isDir b.name

namespace Entry

mutual

/-- The number of directories on the longest way down from an entry, with the entry itself. -/
def height : Entry → Nat
  | .file _ _ => 0
  | .dir _ _ children => heightAll children + 1

def heightAll : List Entry → Nat
  | [] => 0
  | entry :: rest => max entry.height (heightAll rest)

end

lemma heightAll_le_iff {entries : List Entry} {levels : Nat} :
    heightAll entries ≤ levels ↔ ∀ entry ∈ entries, entry.height ≤ levels := by
  induction entries with
  | nil => simp [heightAll]
  | cons entry rest ih => rw [heightAll, Nat.max_le, ih, List.forall_mem_cons]

/-- Display order does not change the height. -/
lemma heightAll_sortEntries (entries : List Entry) :
    heightAll (sortEntries entries) = heightAll entries := by
  have hbound : ∀ levels,
      heightAll (sortEntries entries) ≤ levels ↔ heightAll entries ≤ levels := by
    simp only [heightAll_le_iff, sortEntries, (List.mergeSort_perm _ _).mem_iff, implies_true]
  exact Nat.le_antisymm ((hbound _).mpr (Nat.le_refl _)) ((hbound _).mp (Nat.le_refl _))

end Entry

namespace Inode

mutual

/-- The entry that shows an inode. A directory that cannot be read is shown without children. -/
def toEntry (showHidden : Bool) (name : String) (path : Path) : Inode → Entry
  | .dir entries =>
    .dir name path.toString
      (if FileSystem.isTooLong path then [] else sortEntries (toEntries showHidden path entries))
  | .closed _ => .dir name path.toString []
  | _ => .file name path.toString

/-- The entries that show the listed inodes of a directory. -/
def toEntries (showHidden : Bool) (directory : Path) : List (String × Inode) → List Entry
  | [] => []
  | (name, inode) :: rest =>
    if showHidden || !isHidden name then
      inode.toEntry showHidden name (directory.child name) ::
        toEntries showHidden directory rest
    else toEntries showHidden directory rest

end

variable (showHidden : Bool)

lemma toEntries_eq_map (directory : Path) (entries : List (String × Inode)) :
    toEntries showHidden directory entries =
      (listed showHidden entries).map fun child =>
        child.2.toEntry showHidden child.1 (directory.child child.1) := by
  induction entries with
  | nil => rfl
  | cons first rest ih =>
    obtain ⟨name, inode⟩ := first
    rw [listed] at ih ⊢
    rw [toEntries, List.filter_cons]
    split
    · rw [List.map_cons, ih]
    · exact ih

end Inode

/-! ### What follows a listing -/

section Listings

variable (showHidden : Bool) (directory : Path)

/-- The entries that follow the listing of a directory; none if the directory cannot be read. -/
def shownBelow : Except AccessError (List (String × Inode)) → List Entry
  | .ok entries => sortEntries (Inode.toEntries showHidden directory entries)
  | .error _ => []

/-- A directory is shown with what follows its listing. -/
lemma toEntry_eq_entry (inode : Inode) (name : String) :
    inode.toEntry showHidden name (directory.child name) =
      DirectoryChild.entry ⟨name, directory.child name, inode.isDir⟩
        (shownBelow showHidden (directory.child name) (inode.read (directory.child name))) := by
  cases inode with
  | file bytes => rfl
  | link target => rfl
  | dir entries =>
    rw [Inode.toEntry, Inode.read]
    split <;> rfl
  | closed entries =>
    rw [Inode.toEntry, Inode.read]
    split <;> rfl

lemma mem_childrenOf {entries : List (String × Inode)} {child : DirectoryChild × Inode} :
    child ∈ childrenOf showHidden directory entries ↔
      ∃ entry ∈ listed showHidden entries,
        child = (⟨entry.1, directory.child entry.1, entry.2.isDir⟩, entry.2) := by
  rw [childrenOf, (List.mergeSort_perm _ _).mem_iff, List.mem_map]
  simp only [eq_comm]

/-- Listings are in the order of the entries that show them. -/
lemma map_childrenOf (entries : List (String × Inode)) :
    ((childrenOf showHidden directory entries).map fun child =>
      child.2.toEntry showHidden child.1.name child.1.path) =
        sortEntries (Inode.toEntries showHidden directory entries) := by
  have hname : ∀ (inode : Inode) (name : String) (path : Path),
      (inode.toEntry showHidden name path).name = name ∧
        (inode.toEntry showHidden name path).isDir = inode.isDir := by
    intro inode name path
    cases inode <;> exact ⟨rfl, rfl⟩
  rw [childrenOf, sortEntries, Inode.toEntries_eq_map, List.map_mergeSort, List.map_map]
  · rfl
  · intro a ha b hb
    obtain ⟨child, -, rfl⟩ := List.mem_map.mp ha
    obtain ⟨other, -, rfl⟩ := List.mem_map.mp hb
    simp [hname]

end Listings

/-! ### Scanners -/

/-- The scanner has a result where a condition holds. Otherwise it finds the directories too deep.
What has been reported before makes no difference. -/
structure Scanner.Gives {α : Type} (x : Scanner α) (fits : Prop) (a : α) : Prop where
  ok : fits → ∀ before, ∃ after, x before = .ok a after
  tooDeep : ¬ fits → ∀ before, ∃ after, x before = .error .directoriesTooDeep after

namespace Scanner.Gives

variable {α β : Type} {x : Scanner α} {fits fits' : Prop} {a : α}

lemma pure (a : α) : (Pure.pure a : Scanner α).Gives True a :=
  ⟨fun _ before => ⟨before, rfl⟩, fun h => absurd trivial h⟩

lemma congr {a' : α} (h : x.Gives fits a) (hfits : fits ↔ fits') (ha : a = a') :
    x.Gives fits' a' := by
  subst ha
  exact ⟨fun h' => h.ok (hfits.mpr h'), fun h' => h.tooDeep (mt hfits.mp h')⟩

lemma bind {f : α → Scanner β} {b : β} (hx : x.Gives fits a) (hf : (f a).Gives fits' b) :
    (x >>= f).Gives (fits ∧ fits') b := by
  have hstep : fits → ∀ before, ∃ between, (x >>= f) before = f a between := by
    intro hfits before
    obtain ⟨between, hbetween⟩ := hx.ok hfits before
    refine ⟨between, ?_⟩
    show EStateM.bind x f before = _
    rw [EStateM.bind, hbetween]
  constructor
  · rintro ⟨hfits, hfits'⟩ before
    obtain ⟨between, hbetween⟩ := hstep hfits before
    rw [hbetween]
    exact hf.ok hfits' between
  · intro h before
    by_cases hfits : fits
    · obtain ⟨between, hbetween⟩ := hstep hfits before
      rw [hbetween]
      exact hf.tooDeep (fun hfits' => h ⟨hfits, hfits'⟩) between
    · obtain ⟨after, hafter⟩ := hx.tooDeep hfits before
      refine ⟨after, ?_⟩
      show EStateM.bind x f before = _
      rw [EStateM.bind, hafter]

lemma map (g : α → β) (hx : x.Gives fits a) : (g <$> x).Gives fits (g a) := by
  constructor
  · intro hfits before
    obtain ⟨after, hafter⟩ := hx.ok hfits before
    refine ⟨after, ?_⟩
    show EStateM.map g x before = _
    rw [EStateM.map, hafter]
  · intro hfits before
    obtain ⟨after, hafter⟩ := hx.tooDeep hfits before
    refine ⟨after, ?_⟩
    show EStateM.map g x before = _
    rw [EStateM.map, hafter]

/-- One element after another. -/
lemma mapM {f : α → Scanner β} {g : α → β} {ok : α → Prop} {l : List α}
    (h : ∀ a ∈ l, (f a).Gives (ok a) (g a)) : (l.mapM f).Gives (∀ a ∈ l, ok a) (l.map g) := by
  induction l with
  | nil => exact (pure []).congr (by simp) rfl
  | cons a l ih =>
    rw [List.forall_mem_cons] at h
    rw [List.mapM_cons]
    refine (h.1.bind ((ih h.2).bind (pure (g a :: l.map g)))).congr ?_ rfl
    rw [and_true, List.forall_mem_cons]

end Scanner.Gives

/-- A walk from a listing shows what follows the listing, unless it would be in too many directories
at once. -/
theorem walk_gives (showHidden : Bool) (levels : Nat) (directory : Path)
    {listing : Except AccessError (List (String × Inode))}
    (hnul : listing ≠ .error .embeddedNul) :
    (walk showHidden levels directory listing).Gives
      (Entry.heightAll (shownBelow showHidden directory listing) < levels)
      (shownBelow showHidden directory listing) := by
  induction levels generalizing directory listing with
  | zero => exact ⟨fun h => absurd h (Nat.not_lt_zero _), fun _ before => ⟨before, rfl⟩⟩
  | succ levels ih =>
    cases listing with
    | error e =>
      cases e with
      | embeddedNul => exact absurd rfl hnul
      | system errno =>
        exact ⟨fun _ before => ⟨before ++ [skipped directory errno], rfl⟩,
          fun h => absurd (Nat.zero_lt_succ levels) h⟩
    | ok entries =>
      -- each child is shown by a walk of its own, in one directory more
      have hstep : ∀ child ∈ childrenOf showHidden directory entries,
          Scanner.Gives
            (child.1.entry <$> if child.1.isDir then
              walk showHidden levels child.1.path (child.2.read child.1.path) else pure [])
            ((child.2.toEntry showHidden child.1.name child.1.path).height ≤ levels)
            (child.2.toEntry showHidden child.1.name child.1.path) := by
        intro child hchild
        obtain ⟨⟨name, inode⟩, -, rfl⟩ := (mem_childrenOf showHidden directory).mp hchild
        have hread : inode.read (directory.child name) ≠ .error .embeddedNul := by
          rw [Inode.read]
          split
          · simp
          · cases inode <;> simp [Inode.entries?]
        rw [toEntry_eq_entry]
        cases hdir : inode.isDir with
        | true => exact (ih (directory.child name) hread).map _
        | false =>
          refine ((Scanner.Gives.pure []).map _).congr ?_ rfl
          simp [DirectoryChild.entry, Entry.height]
      rw [walk]
      refine (Scanner.Gives.mapM hstep).congr ?_ (map_childrenOf showHidden directory entries)
      rw [shownBelow, Nat.lt_succ_iff, ← map_childrenOf, Entry.heightAll_le_iff,
        List.forall_mem_map]

namespace FileSystem

/-! ### Scans -/

section Scans

variable (fs : FileSystem) (directory : Path) (showHidden : Bool)

/-- What a scan of a resolved directory lists; nothing if the directory cannot be read. -/
def scanned : List Entry := shownBelow showHidden directory (fs.entriesAt directory)

/-- How many directories a scan of a resolved directory is in at once, at most: the directory and
those on the longest way down from it. -/
def nesting : Nat := Entry.heightAll (fs.scanned directory showHidden) + 1

end Scans

variable {fs : FileSystem} {root directory : Path} {showHidden : Bool}

/-- A path that is no path is not resolved. -/
lemma entriesAt_ne_embeddedNul (h : fs.resolve root = .ok directory) :
    fs.entriesAt directory ≠ .error .embeddedNul := by
  intro hentries
  rcases bind_eq_error_iff.mp hentries with hstat | ⟨inode, -, hinode⟩
  · exact (resolve_eq_ok_iff.mp h).2.1 hstat
  · obtain ⟨errno, -, herrno⟩ := mapError_eq_error_iff.mp hinode
    cases herrno

/-- A scan lists what follows the listing of its root, if that does not nest too deep. -/
theorem exists_scan (h : fs.resolve root = .ok directory)
    (hnesting : fs.nesting directory showHidden ≤ maxNestedDirectories) :
    ∃ scan, fs.scan root showHidden = .ok scan ∧
      scan.entries = fs.scanned directory showHidden := by
  have hwalk := walk_gives showHidden maxNestedDirectories directory (entriesAt_ne_embeddedNul h)
  obtain ⟨events, hevents⟩ := hwalk.ok hnesting []
  refine ⟨⟨fs.scanned directory showHidden, events⟩, ?_, rfl⟩
  simp only [scan, h, mapError_ok, bind, Except.bind, hevents]
  rfl

/-- Otherwise it fails. -/
theorem exists_scan_eq_error (h : fs.resolve root = .ok directory)
    (hnesting : maxNestedDirectories < fs.nesting directory showHidden) :
    ∃ events, fs.scan root showHidden = .error ⟨.directoriesTooDeep, events⟩ := by
  have hwalk := walk_gives showHidden maxNestedDirectories directory (entriesAt_ne_embeddedNul h)
  obtain ⟨events, hevents⟩ := hwalk.tooDeep (Nat.not_le_of_lt hnesting) []
  refine ⟨events, ?_⟩
  simp only [scan, h, mapError_ok, bind, Except.bind, hevents]
  rfl

/-- A scan that gives a result has resolved its root, and has not gone too deep. -/
lemma exists_directory_of_scan {scan : Scan} (h : fs.scan root showHidden = .ok scan) :
    ∃ directory, fs.resolve root = .ok directory ∧
      fs.nesting directory showHidden ≤ maxNestedDirectories ∧
      scan.entries = fs.scanned directory showHidden := by
  obtain ⟨directory, hroot, -⟩ := bind_eq_ok_iff.mp h
  have hresolve := mapError_eq_ok_iff.mp hroot
  by_cases hnesting : fs.nesting directory showHidden ≤ maxNestedDirectories
  · obtain ⟨scan', hscan, hentries⟩ := exists_scan hresolve hnesting
    obtain rfl := Except.ok.inj (hscan.symm.trans h)
    exact ⟨directory, hresolve, hnesting, hentries⟩
  · obtain ⟨events, hhalt⟩ := exists_scan_eq_error hresolve (Nat.lt_of_not_le hnesting)
    cases hhalt.symm.trans h

end FileSystem

end Sidebar
