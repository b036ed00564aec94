import Sidebar.Proofs.FileSystem.Listed
import Sidebar.Proofs.FileSystem.Rescanning

/-!
# Hidden entries

A scan leaves out the names that begin with a dot before it sorts a directory and before it goes
down. The order of siblings decides each pair for itself and equal ones keep their places, so
nothing else moves: what the scan lists is the full scan without the hidden entries and what stands
below them.

Below a hidden directory there may be more directories one in another than a scan can be in. Then
only the scan that leaves it out has a result.
-/

namespace Sidebar

/-! ### Sorting a part of a list -/

section Sorting

variable {α : Type} {le : α → α → Bool}

/-- A list is split in one way only into elements without a property and elements with it. -/
lemma eq_and_eq_of_append_eq {has : α → Bool} {front back front' back' : List α}
    (h : front ++ back = front' ++ back') (hfront : ∀ a ∈ front, has a = false)
    (hback : ∀ a ∈ back, has a = true) (hfront' : ∀ a ∈ front', has a = false)
    (hback' : ∀ a ∈ back', has a = true) : front = front' ∧ back = back' := by
  have hparts : ∀ {front back : List α}, (∀ a ∈ front, has a = false) →
      (∀ a ∈ back, has a = true) →
      (front ++ back).filter (fun a => !has a) = front ∧ (front ++ back).filter has = back := by
    intro front back hfront hback
    rw [List.filter_append, List.filter_append]
    constructor
    · rw [List.filter_eq_self.mpr (by simpa using hfront),
        List.filter_eq_nil_iff.mpr (by simpa using hback), List.append_nil]
    · rw [List.filter_eq_nil_iff.mpr (by simpa using hfront), List.filter_eq_self.mpr hback,
        List.nil_append]
  obtain ⟨hf, hb⟩ := hparts hfront hback
  obtain ⟨hf', hb'⟩ := hparts hfront' hback'
  rw [h] at hf hb
  exact ⟨hf.symm.trans hf', hb.symm.trans hb'⟩

/-- Whether elements are left out before or after the sort makes no difference. -/
theorem filter_mergeSort (trans : ∀ a b c, le a b → le b c → le a c)
    (total : ∀ a b, le a b || le b a) (keep : α → Bool) (l : List α) :
    (l.mergeSort le).filter keep = (l.filter keep).mergeSort le := by
  induction l with
  | nil => rw [List.filter_nil, List.mergeSort_nil, List.filter_nil]
  | cons a l ih =>
    obtain ⟨front, back, hsort, hrest, hfront, hback⟩ := exists_mergeSort_cons trans total a l
    rw [hrest, List.filter_append] at ih
    rw [hsort, List.filter_append]
    cases hkeep : keep a with
    | false =>
      rw [List.filter_cons_of_neg (by simp [hkeep]), List.filter_cons_of_neg (by simp [hkeep]), ih]
    | true =>
      rw [List.filter_cons_of_pos hkeep, List.filter_cons_of_pos hkeep]
      obtain ⟨front', back', hsort', hrest', hfront', hback'⟩ :=
        exists_mergeSort_cons trans total a (l.filter keep)
      -- `a` is put where the kept elements that may follow it begin, and they begin in one place
      obtain ⟨rfl, rfl⟩ := eq_and_eq_of_append_eq (ih.trans hrest')
        (fun b hb => hfront b (List.mem_of_mem_filter hb))
        (fun b hb => hback b (List.mem_of_mem_filter hb)) hfront' hback'
      rw [hsort']

end Sorting

/-! ### Entries without the hidden ones -/

namespace Entry

mutual

/-- The entry without the hidden entries below it. -/
def withoutHidden : Entry → Entry
  | .file name path => .file name path
  | .dir name path children => .dir name path (withoutHiddenAll children)

/-- The entries that are not hidden, each without the hidden ones below it. -/
def withoutHiddenAll : List Entry → List Entry
  | [] => []
  | entry :: rest =>
    if isHidden entry.name then withoutHiddenAll rest
    else entry.withoutHidden :: withoutHiddenAll rest

end

@[simp]
lemma name_withoutHidden (entry : Entry) : entry.withoutHidden.name = entry.name := by
  cases entry <;> rfl

@[simp]
lemma isDir_withoutHidden (entry : Entry) : entry.withoutHidden.isDir = entry.isDir := by
  cases entry <;> rfl

lemma withoutHiddenAll_eq (entries : List Entry) :
    withoutHiddenAll entries =
      (entries.filter fun entry => !isHidden entry.name).map withoutHidden := by
  induction entries with
  | nil => rfl
  | cons entry rest ih => cases h : isHidden entry.name <;> simp [withoutHiddenAll, h, ih]

/-- Names and kinds decide the order, and they stay. -/
lemma withoutHiddenAll_sortEntries (entries : List Entry) :
    withoutHiddenAll (sortEntries entries) = sortEntries (withoutHiddenAll entries) := by
  rw [withoutHiddenAll_eq, withoutHiddenAll_eq]
  calc ((entries.mergeSort siblingLe).filter _).map withoutHidden
    _ = ((entries.filter _).mergeSort siblingLe).map withoutHidden := by
      rw [filter_mergeSort siblingLe_trans siblingLe_total]
    _ = ((entries.filter _).map withoutHidden).mergeSort siblingLe :=
      List.map_mergeSort fun a _ b _ => by simp [siblingLe]

mutual

/-- Without its hidden entries a tree is not higher. -/
lemma height_withoutHidden_le : ∀ entry : Entry, entry.withoutHidden.height ≤ entry.height
  | .file _ _ => Nat.le_refl 0
  | .dir _ _ children => Nat.succ_le_succ (heightAll_withoutHiddenAll_le children)

lemma heightAll_withoutHiddenAll_le :
    ∀ entries : List Entry, heightAll (withoutHiddenAll entries) ≤ heightAll entries
  | [] => Nat.le_refl 0
  | entry :: rest => by
    have hrest := heightAll_withoutHiddenAll_le rest
    rw [withoutHiddenAll]
    split
    · exact Nat.le_trans hrest (Nat.le_max_right _ _)
    · exact max_le_max (height_withoutHidden_le entry) hrest

end

end Entry

/-! ### Directories -/

namespace Inode

lemma name_toEntry (showHidden : Bool) (name : String) (p : Path) (inode : Inode) :
    (inode.toEntry showHidden name p).name = name := by
  cases inode <;> rfl

mutual

lemma toEntry_false (name : String) (p : Path) :
    ∀ inode : Inode, inode.toEntry false name p = (inode.toEntry true name p).withoutHidden
  | .file bytes => rfl
  | .link target => rfl
  | .closed entries => rfl
  | .dir entries => by
    rw [toEntry, toEntry, Entry.withoutHidden, toEntries_false p entries]
    split
    · rfl
    · rw [Entry.withoutHiddenAll_sortEntries]

/-- Leaving out the hidden names of a directory, level by level, leaves out the hidden entries. -/
lemma toEntries_false (directory : Path) :
    ∀ entries : List (String × Inode),
      toEntries false directory entries =
        Entry.withoutHiddenAll (toEntries true directory entries)
  | [] => rfl
  | (name, inode) :: rest => by
    have hrest := toEntries_false directory rest
    rw [toEntries, toEntries, Bool.true_or, if_pos rfl, Bool.false_or, Entry.withoutHiddenAll,
      name_toEntry]
    cases isHidden name with
    | true => exact hrest
    | false =>
      exact congrArg₂ List.cons (toEntry_false name (directory.child name) inode) hrest

end

end Inode

namespace FileSystem

variable {fs : FileSystem} {root directory : Path}

lemma scanned_false (fs : FileSystem) (directory : Path) :
    fs.scanned directory false = Entry.withoutHiddenAll (fs.scanned directory true) := by
  rw [scanned, scanned]
  cases fs.entriesAt directory with
  | ok entries => rw [shownBelow, shownBelow, Inode.toEntries_false,
      Entry.withoutHiddenAll_sortEntries]
  | error e => rfl

/-- The full scan has a result exactly when it is not in too many directories at once. Then the scan
that leaves hidden names out lists what the full scan lists, without the hidden entries and all that
stands below them, and in the same order. -/
theorem scan_eq_withoutHidden (h : fs.resolve root = .ok directory) :
    ((∃ all, fs.scan root true = .ok all) ↔
        fs.nesting directory true ≤ maxNestedDirectories) ∧
      ∀ all, fs.scan root true = .ok all →
        ∃ shown, fs.scan root false = .ok shown ∧
          shown.entries = Entry.withoutHiddenAll all.entries := by
  have hnesting : ∀ {all}, fs.scan root true = .ok all →
      fs.nesting directory true ≤ maxNestedDirectories ∧
        all.entries = fs.scanned directory true := by
    intro all hall
    obtain ⟨directory', hresolve, hnesting, hentries⟩ := exists_directory_of_scan hall
    obtain rfl := Except.ok.inj (hresolve.symm.trans h)
    exact ⟨hnesting, hentries⟩
  refine ⟨⟨?_, ?_⟩, ?_⟩
  · rintro ⟨all, hall⟩
    exact (hnesting hall).1
  · intro hfits
    obtain ⟨all, hall, -⟩ := exists_scan h hfits
    exact ⟨all, hall⟩
  · intro all hall
    obtain ⟨hfits, hentries⟩ := hnesting hall
    have hless : fs.nesting directory false ≤ fs.nesting directory true := by
      rw [nesting, nesting, scanned_false]
      exact Nat.succ_le_succ (Entry.heightAll_withoutHiddenAll_le _)
    obtain ⟨shown, hshown, hentries'⟩ := exists_scan h (Nat.le_trans hless hfits)
    exact ⟨shown, hshown, by rw [hentries, hentries', scanned_false]⟩

/-- A directory with nothing but a hidden one that holds a file. -/
def hiddenStore : FileSystem :=
  { entries := [("w", .dir [("src", .dir [(".git", .dir [("config", .file .empty)])])])] }

theorem scan_eq_withoutHidden_hiddenStore :
    hiddenStore.resolve ⟨.root, ["w"]⟩ = .ok ⟨.root, ["w"]⟩ ∧
      ∃ all shown, hiddenStore.scan ⟨.root, ["w"]⟩ true = .ok all ∧
        hiddenStore.scan ⟨.root, ["w"]⟩ false = .ok shown ∧
        all.entries = [.dir "src" "/w/src" [.dir ".git" "/w/src/.git"
          [.file "config" "/w/src/.git/config"]]] ∧
        shown.entries = [.dir "src" "/w/src" []] := by
  have hnames : ∀ name ∈ ["w"], ValidName name := by simp [validName_iff]
  have hresolve : hiddenStore.resolve ⟨.root, ["w"]⟩ = .ok ⟨.root, ["w"]⟩ :=
    resolve_of_at? hnames rfl rfl
  obtain ⟨hresult, hshown⟩ := scan_eq_withoutHidden hresolve
  have hdepth : (Inode.dir hiddenStore.entries).depth ≤ maxNestedDirectories := by decide
  obtain ⟨all, hall⟩ :=
    hresult.mpr (Nat.le_trans (nesting_le_depth hiddenStore ⟨.root, ["w"]⟩ true) hdepth)
  obtain ⟨shown, hfalse, hentries⟩ := hshown all hall
  have hlisted : all.entries = [.dir "src" "/w/src" [.dir ".git" "/w/src/.git"
      [.file "config" "/w/src/.git/config"]]] := by
    obtain ⟨directory, hdirectory, -, hscanned⟩ := exists_directory_of_scan hall
    obtain rfl := Except.ok.inj (hdirectory.symm.trans hresolve)
    have hentries : hiddenStore.entriesAt ⟨.root, ["w"]⟩ =
        .ok [("src", .dir [(".git", .dir [("config", .file .empty)])])] :=
      entriesAt_below (by simp) (stat_root hiddenStore) hnames rfl rfl
    have hsrc : isTooLong ⟨.root, ["w", "src"]⟩ = false := by decide
    have hgit : isTooLong ⟨.root, ["w", "src", ".git"]⟩ = false := by decide
    have hone : ∀ entry : Entry, sortEntries [entry] = [entry] :=
      fun _ => List.mergeSort_singleton _
    rw [hscanned, scanned, hentries]
    simp only [shownBelow, Inode.toEntries, Inode.toEntry, Path.child, List.cons_append,
      List.nil_append, Bool.true_or, if_true, hsrc, hgit, Bool.false_eq_true, if_false, hone]
    rfl
  refine ⟨hresolve, all, shown, hall, hfalse, hlisted, ?_⟩
  rw [hentries, hlisted]
  rfl

/-! ### Many directories below a hidden one -/

/-- So many directories one in another. -/
def chain : Nat → List (String × Inode)
  | 0 => []
  | levels + 1 => [("d", .dir (chain levels))]

/-- More of them than a scan can be in, below a hidden directory. -/
def hiddenChain : FileSystem :=
  { entries := [("w", .dir [(".h", .dir (chain maxNestedDirectories))])] }

lemma isTooLong_child_d {p : Path} (hnames : p.names ≠ []) {levels : Nat}
    (hshort : ∀ name ∈ p.names, name.utf8ByteSize ≤ maxNameBytes)
    (hsize : p.toString.utf8ByteSize + 2 * (levels + 1) ≤ maxPathBytes) :
    isTooLong (p.child "d") = false ∧
      (∀ name ∈ (p.child "d").names, name.utf8ByteSize ≤ maxNameBytes) ∧
      (p.child "d").toString.utf8ByteSize + 2 * levels ≤ maxPathBytes := by
  have htext : (p.child "d").toString = p.toString ++ "/d" := by
    rw [← String.toList_inj, Path.toList_child hnames, String.toList_append]
    rfl
  have hbytes : (p.child "d").toString.utf8ByteSize = p.toString.utf8ByteSize + 2 := by
    rw [htext, String.utf8ByteSize_append]
    rfl
  have hall : ∀ name ∈ (p.child "d").names, name.utf8ByteSize ≤ maxNameBytes := by
    intro name hname
    rcases List.mem_append.mp hname with hname | hname
    · exact hshort name hname
    · rw [List.mem_singleton.mp hname]
      decide
  refine ⟨?_, hall, by omega⟩
  rw [isTooLong, Bool.or_eq_false_iff]
  exact ⟨decide_eq_false (by omega), by simpa using hall⟩

lemma sortEntries_chain (p : Path) (levels : Nat) :
    sortEntries (Inode.toEntries true p (chain levels)) =
      Inode.toEntries true p (chain levels) := by
  cases levels <;> simp [chain, Inode.toEntries, sortEntries]

/-- A scan lists them all, as long as their paths are not too long. -/
lemma heightAll_chain (levels : Nat) {p : Path} (hnames : p.names ≠ [])
    (hshort : ∀ name ∈ p.names, name.utf8ByteSize ≤ maxNameBytes)
    (hsize : p.toString.utf8ByteSize + 2 * levels ≤ maxPathBytes) :
    Entry.heightAll (Inode.toEntries true p (chain levels)) = levels := by
  induction levels generalizing p with
  | zero => rfl
  | succ levels ih =>
    obtain ⟨hlong, hshort', hsize'⟩ := isTooLong_child_d hnames hshort hsize
    rw [chain, Inode.toEntries, Bool.true_or, if_pos rfl, Inode.toEntry, hlong,
      Inode.toEntries, Entry.heightAll, Entry.height]
    simp [sortEntries_chain, ih (p.names_child_ne_nil "d") hshort' hsize', Entry.heightAll]

lemma valid_chain (levels : Nat) : (Inode.dir (chain levels)).Valid := by
  induction levels with
  | zero => exact ⟨List.nodup_nil, trivial⟩
  | succ levels ih =>
    have hname : ValidName "d" := by simp [validName_iff]
    exact ⟨List.nodup_singleton "d", hname, ih, trivial⟩

/-- The scan that leaves the hidden directory out lists nothing. The full scan has no result. -/
theorem scan_hiddenChain :
    hiddenChain.Valid ∧ hiddenChain.resolve ⟨.root, ["w"]⟩ = .ok ⟨.root, ["w"]⟩ ∧
      (∃ shown, hiddenChain.scan ⟨.root, ["w"]⟩ false = .ok shown ∧ shown.entries = []) ∧
      ∀ all, hiddenChain.scan ⟨.root, ["w"]⟩ true ≠ .ok all := by
  have hw : ValidName "w" := by simp [validName_iff]
  have hh : ValidName ".h" := by simp [validName_iff]
  have hvalid : hiddenChain.Valid :=
    ⟨⟨List.nodup_singleton "w", hw, ⟨List.nodup_singleton ".h", hh, valid_chain _, trivial⟩,
      trivial⟩, fun _ => ⟨_, Inode.at?_nil _⟩⟩
  have hat : hiddenChain.at? ["w"] = some (.dir [(".h", .dir (chain maxNestedDirectories))]) := rfl
  have hresolve : hiddenChain.resolve ⟨.root, ["w"]⟩ = .ok ⟨.root, ["w"]⟩ := by
    refine resolve_of_at? (by simpa using hw) hat ?_
    simp [linkAt?, placeOf?, hat]
  have hentries : hiddenChain.entriesAt ⟨.root, ["w"]⟩ =
      .ok [(".h", .dir (chain maxNestedDirectories))] :=
    entriesAt_below (by simp) (stat_root hiddenChain) (by simpa using hw) hat rfl
  have hheight := heightAll_chain maxNestedDirectories (p := ⟨.root, ["w", ".h"]⟩) (by simp)
    (by decide) (by decide)
  have hhidden : isHidden ".h" = true := by decide
  have hnone : hiddenChain.scanned ⟨.root, ["w"]⟩ false = [] := by
    rw [scanned, hentries]
    simp [shownBelow, Inode.toEntries, sortEntries, hhidden]
  obtain ⟨shown, hshown, hlist⟩ := exists_scan hresolve
    (show hiddenChain.nesting ⟨.root, ["w"]⟩ false ≤ maxNestedDirectories by
      rw [nesting, hnone]
      decide)
  refine ⟨hvalid, hresolve, ⟨shown, hshown, hlist.trans hnone⟩, fun all hall => ?_⟩
  obtain ⟨directory, hdirectory, hfits, -⟩ := exists_directory_of_scan hall
  obtain rfl := Except.ok.inj (hdirectory.symm.trans hresolve)
  have hall' : hiddenChain.scanned ⟨.root, ["w"]⟩ true =
      [.dir ".h" "/w/.h" (Inode.toEntries true ⟨.root, ["w", ".h"]⟩
        (chain maxNestedDirectories))] := by
    have hshort : isTooLong ⟨.root, ["w", ".h"]⟩ = false := by decide
    rw [scanned, hentries, shownBelow, Inode.toEntries, Bool.true_or, if_pos rfl, Inode.toEntries,
      sortEntries, List.mergeSort_singleton, Inode.toEntry]
    simp only [Path.child, List.cons_append, List.nil_append, hshort, sortEntries_chain]
    rfl
  rw [nesting, hall', Entry.heightAll, Entry.height, hheight] at hfits
  revert hfits
  decide

end FileSystem

end Sidebar
