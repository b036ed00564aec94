import Sidebar.Proofs.FileSystem.Walking
import Sidebar.Proofs.FileSystem.Writing
import Sidebar.Proofs.Tree.Paths

/-!
# Scanned trees

The entries of a scan have absolute paths. Where the names in each directory are proper ones, no two
of them have the same path.
-/

namespace Sidebar

/-! ### Absolute paths -/

/-- Only the path that is no more than the working directory is written as a dot. -/
lemma Path.toString_eq {p : Path} (h : p.anchor ≠ .relative ∨ p.names ≠ []) :
    p.toString = p.anchor.text ++ "/".intercalate p.names := by
  rw [toString]
  split
  · next hanchor hnames =>
    rcases h with h | h
    · exact absurd hanchor h
    · exact absurd hnames h
  · rfl

/-- The text of an absolute path begins with a slash. -/
lemma Path.exists_slash {p : Path} (h : p.anchor ≠ .relative) :
    ∃ rest, p.toString.toList = '/' :: rest := by
  rw [toString_eq (Or.inl h), String.toList_append]
  cases hanchor : p.anchor with
  | relative => exact absurd hanchor h
  | root => exact ⟨_, rfl⟩
  | doubleRoot => exact ⟨_, rfl⟩

lemma Path.toString_ne_empty {p : Path} (h : p.anchor ≠ .relative) : p.toString ≠ "" := by
  obtain ⟨rest, hrest⟩ := exists_slash h
  intro hempty
  simp [hempty] at hrest

namespace FileSystem

/-- What is resolved is absolute. -/
lemma anchor_of_resolve {fs : FileSystem} {p q : Path} (h : fs.resolve p = .ok q) :
    q.anchor ≠ .relative := by
  obtain ⟨way, -, hpath⟩ := bind_eq_ok_iff.mp (resolve_eq_ok_iff.mp h).1
  rw [absolutePath] at hpath
  cases hbase : way.base with
  | above levels =>
    simp only [hbase] at hpath
    obtain ⟨cwd, -, hpath⟩ := bind_eq_ok_iff.mp hpath
    rw [← Except.ok.inj hpath]
    simp [Path.absolute]
  | root =>
    simp only [hbase] at hpath
    rw [← Except.ok.inj hpath]
    simp [Base.path]
  | doubleRoot =>
    simp only [hbase] at hpath
    rw [← Except.ok.inj hpath]
    simp [Base.path]

end FileSystem

/-! ### Paths of a scan -/

namespace Entry

/-- Display order does not change which paths there are. -/
lemma pathsAll_sortEntries_perm (entries : List Entry) :
    (pathsAll (sortEntries entries)).Perm (pathsAll entries) := by
  have hflat : ∀ es : List Entry, pathsAll es = es.flatMap paths := by
    intro es
    induction es with
    | nil => rfl
    | cons e es ih => rw [pathsAll, ih, List.flatMap_cons]
  rw [hflat, hflat]
  exact (List.mergeSort_perm _ _).flatMap_right paths

end Entry

namespace Inode

mutual

theorem paths_toEntry (showHidden : Bool) (name : String) (p : Path) (hp : p.anchor ≠ .relative) :
    (inode : Inode) → ∀ path ∈ (inode.toEntry showHidden name p).paths, path ≠ ""
  | .dir entries => by
    intro path hpath
    rw [toEntry, Entry.paths, List.mem_cons] at hpath
    rcases hpath with rfl | hpath
    · exact Path.toString_ne_empty hp
    · split at hpath
      · simp [Entry.pathsAll] at hpath
      · exact paths_toEntries showHidden p hp entries path
          ((Entry.pathsAll_sortEntries_perm _).mem_iff.mp hpath)
  | .closed entries => by
    intro path hpath
    obtain rfl := List.mem_singleton.mp hpath
    exact Path.toString_ne_empty hp
  | .file bytes => by
    intro path hpath
    obtain rfl := List.mem_singleton.mp hpath
    exact Path.toString_ne_empty hp
  | .link target => by
    intro path hpath
    obtain rfl := List.mem_singleton.mp hpath
    exact Path.toString_ne_empty hp

theorem paths_toEntries (showHidden : Bool) (directory : Path)
    (hdirectory : directory.anchor ≠ .relative) :
    (entries : List (String × Inode)) →
      ∀ path ∈ Entry.pathsAll (toEntries showHidden directory entries), path ≠ ""
  | [] => by simp [toEntries, Entry.pathsAll]
  | (name, inode) :: rest => by
    intro path hpath
    have hrest := paths_toEntries showHidden directory hdirectory rest path
    rw [toEntries] at hpath
    split at hpath
    · rw [Entry.pathsAll, List.mem_append] at hpath
      rcases hpath with hpath | hpath
      · exact paths_toEntry showHidden name (directory.child name) hdirectory inode path hpath
      · exact hrest hpath
    · exact hrest hpath

end

end Inode

/-- No entry of a scan has an empty path. -/
theorem FileSystem.paths_scan {fs : FileSystem} {root : Path} {showHidden : Bool} {scan : Scan}
    (h : fs.scan root showHidden = .ok scan) : ∀ path ∈ Entry.pathsAll scan.entries, path ≠ "" := by
  obtain ⟨resolved, hresolved, -, hscanned⟩ := exists_directory_of_scan h
  rw [hscanned, scanned]
  cases fs.entriesAt resolved with
  | ok entries =>
    intro path hpath
    exact Inode.paths_toEntries showHidden resolved (anchor_of_resolve hresolved) entries path
      ((Entry.pathsAll_sortEntries_perm _).mem_iff.mp hpath)
  | error e => simp [shownBelow, Entry.pathsAll]

/-! ### Proper names -/

namespace Inode

mutual

/-- In and below the inode, the names of each directory differ, and none has a slash in it. -/
def Proper : Inode → Prop
  | .dir entries => (entries.map Prod.fst).Nodup ∧ ProperAll entries
  | .closed entries => (entries.map Prod.fst).Nodup ∧ ProperAll entries
  | _ => True

def ProperAll : List (String × Inode) → Prop
  | [] => True
  | (name, inode) :: rest => '/' ∉ name.toList ∧ inode.Proper ∧ ProperAll rest

end

lemma ProperAll.of_mem {entries : List (String × Inode)} (h : ProperAll entries)
    {entry : String × Inode} (hentry : entry ∈ entries) :
    '/' ∉ entry.1.toList ∧ entry.2.Proper := by
  induction entries with
  | nil => exact absurd hentry List.not_mem_nil
  | cons first rest ih =>
    obtain ⟨name, inode⟩ := first
    rcases List.mem_cons.mp hentry with rfl | hentry
    · exact ⟨h.1, h.2.1⟩
    · exact ih h.2.2 hentry

lemma Proper.at? {inode there : Inode} (h : inode.Proper) {place : Place}
    (hat : inode.at? place = some there) : there.Proper := by
  induction place generalizing inode with
  | nil =>
    rw [at?_nil] at hat
    rwa [← Option.some.inj hat]
  | cons name rest ih =>
    obtain ⟨entries, child, rfl, hchild, hat⟩ := at?_cons_eq_some hat
    exact ih (h.2.of_mem (mem_of_lookup_eq_some hchild)).2 hat

end Inode

/-- The names of each directory are as an operating system has them. -/
def FileSystem.Proper (fs : FileSystem) : Prop := (Inode.dir fs.entries).Proper

/-- A directory whose entries can be read is there. -/
lemma FileSystem.stat_of_entriesAt {fs : FileSystem} {p : Path} {entries : List (String × Inode)}
    (h : fs.entriesAt p = .ok entries) : fs.stat p = .ok (.dir entries) := by
  obtain ⟨inode, hstat, hinode⟩ := bind_eq_ok_iff.mp h
  cases inode with
  | dir others =>
    obtain rfl := Except.ok.inj hinode
    exact hstat
  | file bytes => cases hinode
  | closed others => cases hinode
  | link target => cases hinode

lemma FileSystem.Proper.entriesAt {fs : FileSystem} (h : fs.Proper) {p : Path}
    {entries : List (String × Inode)} (hentries : fs.entriesAt p = .ok entries) :
    (Inode.dir entries).Proper := by
  rcases stat_eq_ok_iff.mp (stat_of_entriesAt hentries) with ⟨place, hfound⟩ | ⟨_, _, -, hempty⟩
  · exact Inode.Proper.at? h (at?_of_locate_found hfound)
  · rw [hempty]
    exact ⟨List.nodup_nil, trivial⟩

/-! ### Depths -/

namespace Inode

mutual

/-- How many directories there are one in another, from an inode down to where none can be read. -/
def depth : Inode → Nat
  | .dir entries => depthAll entries + 1
  | .closed _ => 1
  | _ => 0

def depthAll : List (String × Inode) → Nat
  | [] => 0
  | (_, inode) :: rest => max inode.depth (depthAll rest)

end

variable (showHidden : Bool)

mutual

lemma height_toEntry_le (name : String) (p : Path) :
    (inode : Inode) → (inode.toEntry showHidden name p).height ≤ inode.depth
  | .file _ => Nat.le_refl 0
  | .link _ => Nat.le_refl 0
  | .closed _ => Nat.le_refl 1
  | .dir entries => by
    rw [toEntry, Entry.height, depth, Nat.succ_le_succ_iff]
    split
    · exact Nat.zero_le _
    · rw [Entry.heightAll_sortEntries]
      exact heightAll_toEntries_le p entries

lemma heightAll_toEntries_le (directory : Path) :
    (entries : List (String × Inode)) →
      Entry.heightAll (toEntries showHidden directory entries) ≤ depthAll entries
  | [] => Nat.le_refl 0
  | (name, inode) :: rest => by
    have hrest := heightAll_toEntries_le directory rest
    rw [toEntries, depthAll]
    split
    · rw [Entry.heightAll]
      have := height_toEntry_le name (directory.child name) inode
      omega
    · exact Nat.le_trans hrest (Nat.le_max_right _ _)

end

lemma depth_le_depthAll {entries : List (String × Inode)} {name : String} {inode : Inode}
    (h : (name, inode) ∈ entries) : inode.depth ≤ depthAll entries := by
  induction entries with
  | nil => cases h
  | cons first rest ih =>
    rcases List.mem_cons.mp h with rfl | h
    · exact Nat.le_max_left _ _
    · exact Nat.le_trans (ih h) (Nat.le_max_right _ _)

lemma depth_le_of_at? {inode there : Inode} {place : Place} (h : inode.at? place = some there) :
    there.depth ≤ inode.depth := by
  induction place generalizing inode with
  | nil =>
    rw [at?_nil] at h
    exact Nat.le_of_eq (congrArg depth (Option.some.inj h).symm)
  | cons name rest ih =>
    obtain ⟨entries, child, rfl, hchild, hat⟩ := at?_cons_eq_some h
    exact Nat.le_trans (ih hat)
      (Nat.le_succ_of_le (depth_le_depthAll (mem_of_lookup_eq_some hchild)))

end Inode

/-- A scan is in no more directories at once than there are one in another. -/
theorem FileSystem.nesting_le_depth (fs : FileSystem) (directory : Path) (showHidden : Bool) :
    fs.nesting directory showHidden ≤ (Inode.dir fs.entries).depth := by
  have hroot : 1 ≤ (Inode.dir fs.entries).depth := Nat.succ_le_succ (Nat.zero_le _)
  rw [nesting, scanned]
  cases hentries : fs.entriesAt directory with
  | error e => exact hroot
  | ok entries =>
    rw [shownBelow, Entry.heightAll_sortEntries]
    have hheight := Inode.heightAll_toEntries_le showHidden directory entries
    rcases stat_eq_ok_iff.mp (stat_of_entriesAt hentries) with ⟨place, hfound⟩ | ⟨_, _, -, hempty⟩
    · exact Nat.le_trans (Nat.succ_le_succ hheight)
        (Inode.depth_le_of_at? (at?_of_locate_found hfound))
    · obtain rfl := Inode.dir.inj hempty
      exact hroot

namespace Path

/-- The text is that of the path, or goes on behind a slash. -/
def Leads (p : Path) (text : String) : Prop :=
  ∃ rest, text.toList = p.toString.toList ++ rest ∧ ∀ c ∈ rest.head?, c = '/'

lemma names_child_ne_nil (p : Path) (name : String) : (p.child name).names ≠ [] := by
  simp [child]

lemma toString_child (p : Path) (name : String) :
    (p.child name).toString = p.anchor.text ++ "/".intercalate (p.names ++ [name]) :=
  toString_eq (Or.inr (p.names_child_ne_nil name))

/-- The children of a directory differ in the end of their paths. -/
lemma exists_front (p : Path) :
    ∃ front, ∀ name, (p.child name).toString.toList = front ++ name.toList := by
  by_cases hnames : p.names = []
  · refine ⟨p.anchor.text.toList, fun name => ?_⟩
    rw [toString_child, hnames, List.nil_append, String.intercalate_singleton, String.toList_append]
  · refine ⟨(p.anchor.text ++ "/".intercalate p.names ++ "/").toList, fun name => ?_⟩
    rw [toString_child, String.intercalate_append_of_ne_nil hnames (List.cons_ne_nil _ _),
      String.intercalate_singleton]
    simp only [String.toList_append, List.append_assoc]

lemma toList_child {p : Path} (hp : p.names ≠ []) (name : String) :
    (p.child name).toString.toList = p.toString.toList ++ '/' :: name.toList := by
  rw [toString_child, String.intercalate_append_of_ne_nil hp (List.cons_ne_nil _ _),
    String.intercalate_singleton, toString_eq (Or.inr hp)]
  simp [String.toList_append]

namespace Leads

lemma refl (p : Path) : p.Leads p.toString :=
  ⟨[], (List.append_nil _).symm, fun c hc => absurd hc (Option.not_mem_none c)⟩

/-- What a child leads to lies behind the path of the directory. -/
lemma of_child {p : Path} (hp : p.names ≠ []) {name text : String}
    (h : (p.child name).Leads text) : p.Leads text ∧ text ≠ p.toString := by
  obtain ⟨rest, htext, -⟩ := h
  rw [toList_child hp, List.append_assoc, List.cons_append] at htext
  refine ⟨⟨_, htext, fun c hc => (Option.some.inj hc).symm⟩, ?_⟩
  rintro rfl
  exact absurd (List.self_eq_append_right.mp htext) (List.cons_ne_nil _ _)

/-- Up to the first slash there is the name of the child. -/
lemma takeWhile_append_eq {cs rest : List Char} (hcs : '/' ∉ cs)
    (hrest : ∀ c ∈ rest.head?, c = '/') : (cs ++ rest).takeWhile (· ≠ '/') = cs := by
  have hall : ∀ c ∈ cs, decide (c ≠ '/') = true := by
    intro c hc
    rw [decide_eq_true_iff]
    rintro rfl
    exact hcs hc
  rw [List.takeWhile_append_of_pos hall]
  cases rest with
  | nil => rw [List.takeWhile_nil, List.append_nil]
  | cons c rest =>
    rw [List.takeWhile_cons_of_neg (by simp [hrest c rfl]), List.append_nil]

/-- Different children lead to different places. -/
lemma name_eq {p : Path} {name name' text : String} (hname : '/' ∉ name.toList)
    (hname' : '/' ∉ name'.toList) (h : (p.child name).Leads text)
    (h' : (p.child name').Leads text) : name = name' := by
  obtain ⟨front, hfront⟩ := p.exists_front
  obtain ⟨rest, htext, hrest⟩ := h
  obtain ⟨rest', htext', hrest'⟩ := h'
  rw [hfront, List.append_assoc] at htext htext'
  have heq : name.toList ++ rest = name'.toList ++ rest' :=
    List.append_cancel_left (htext.symm.trans htext')
  rw [← String.toList_inj, ← takeWhile_append_eq hname hrest, heq,
    takeWhile_append_eq hname' hrest']

end Leads

end Path

/-! ### Different paths -/

namespace Inode

mutual

theorem leads_toEntry (showHidden : Bool) (name : String) (p : Path) (hp : p.names ≠ []) :
    (inode : Inode) → ∀ text ∈ (inode.toEntry showHidden name p).paths, p.Leads text
  | .dir entries => by
    intro text htext
    rw [toEntry, Entry.paths, List.mem_cons] at htext
    rcases htext with rfl | htext
    · exact .refl p
    · split at htext
      · simp [Entry.pathsAll] at htext
      · obtain ⟨entry, -, hleads⟩ := leads_toEntries showHidden p entries text
          ((Entry.pathsAll_sortEntries_perm _).mem_iff.mp htext)
        exact (hleads.of_child hp).1
  | .closed entries => by
    intro text htext
    obtain rfl := List.mem_singleton.mp htext
    exact .refl p
  | .file bytes => by
    intro text htext
    obtain rfl := List.mem_singleton.mp htext
    exact .refl p
  | .link target => by
    intro text htext
    obtain rfl := List.mem_singleton.mp htext
    exact .refl p

theorem leads_toEntries (showHidden : Bool) (directory : Path) :
    (entries : List (String × Inode)) →
      ∀ text ∈ Entry.pathsAll (toEntries showHidden directory entries),
        ∃ entry ∈ entries, (directory.child entry.1).Leads text
  | [] => by simp [toEntries, Entry.pathsAll]
  | (name, inode) :: rest => by
    intro text htext
    have hrest : text ∈ Entry.pathsAll (toEntries showHidden directory rest) →
        ∃ entry ∈ (name, inode) :: rest, (directory.child entry.1).Leads text := by
      intro hmem
      obtain ⟨entry, hentry, hleads⟩ := leads_toEntries showHidden directory rest text hmem
      exact ⟨entry, List.mem_cons_of_mem _ hentry, hleads⟩
    rw [toEntries] at htext
    split at htext
    · rw [Entry.pathsAll, List.mem_append] at htext
      rcases htext with htext | htext
      · exact ⟨(name, inode), List.mem_cons_self, leads_toEntry showHidden name _
          (directory.names_child_ne_nil name) inode text htext⟩
      · exact hrest htext
    · exact hrest htext

end

mutual

theorem nodup_toEntry (showHidden : Bool) (name : String) (p : Path) (hp : p.names ≠ []) :
    (inode : Inode) → inode.Proper → (inode.toEntry showHidden name p).paths.Nodup
  | .dir entries, h => by
    rw [toEntry, Entry.paths, List.nodup_cons]
    split
    · exact ⟨List.not_mem_nil, List.nodup_nil⟩
    · have hperm := Entry.pathsAll_sortEntries_perm (toEntries showHidden p entries)
      refine ⟨fun hmem => ?_, hperm.nodup_iff.mpr (nodup_toEntries showHidden p entries h)⟩
      obtain ⟨entry, -, hleads⟩ := leads_toEntries showHidden p entries _ (hperm.mem_iff.mp hmem)
      exact (hleads.of_child hp).2 rfl
  | .closed entries, _ => List.nodup_singleton _
  | .file bytes, _ => List.nodup_singleton _
  | .link target, _ => List.nodup_singleton _

/-- Where names are proper, no two entries have the same path. -/
theorem nodup_toEntries (showHidden : Bool) (directory : Path) :
    (entries : List (String × Inode)) → (dir entries).Proper →
      (Entry.pathsAll (toEntries showHidden directory entries)).Nodup
  | [], _ => by
    rw [toEntries, Entry.pathsAll]
    exact List.nodup_nil
  | (name, inode) :: rest, h => by
    obtain ⟨hnames, hname, hinode, hproper⟩ := h
    rw [List.map_cons, List.nodup_cons] at hnames
    have hrest := nodup_toEntries showHidden directory rest ⟨hnames.2, hproper⟩
    rw [toEntries]
    split
    · have hp := directory.names_child_ne_nil name
      rw [Entry.pathsAll, List.nodup_append']
      refine ⟨nodup_toEntry showHidden name _ hp inode hinode, hrest, ?_⟩
      -- A path in both parts would lead through two children of different names.
      intro text htext htext'
      obtain ⟨entry, hentry, hleads⟩ := leads_toEntries showHidden directory rest text htext'
      have hleads' := leads_toEntry showHidden name _ hp inode text htext
      have heq : entry.1 = name :=
        Path.Leads.name_eq (hproper.of_mem hentry).1 hname hleads hleads'
      exact hnames.1 (List.mem_map.mpr ⟨entry, hentry, heq⟩)
    · exact hrest

end

end Inode

end Sidebar
