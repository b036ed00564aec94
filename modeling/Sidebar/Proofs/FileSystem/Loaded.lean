import Sidebar.Proofs.FileSystem.Listed
import Sidebar.Proofs.FileSystem.Rescanning
import Sidebar.Proofs.Store.Sound
import Sidebar.Proofs.Tree.Lines

/-!
# The tree of a directory

A scan that is loaded into a store gives one row to each entry that it reaches below the directory,
and no other rows. An entry is reached when no name on the way is left out and the system lists
every directory on the way; links are not followed. A directory that the system does not list, for
want of permission or because its path is too long, is shown without what is in it.
-/

namespace Sidebar

/-! ### What a scan reaches -/

/-- What is at a place below a directory can be reached by listing directories. -/
structure FileSystem.Reaches (fs : FileSystem) (showHidden : Bool) (directory : Path)
    (place : Place) (inode : Inode) : Prop where
  ne_nil : place ≠ []
  /-- Walking down the names through directories alone leads to the inode. -/
  leads : ∃ top, fs.stat directory = .ok top ∧ top.at? place = some inode
  shown : ∀ name ∈ place, showHidden ∨ isHidden name = false
  /-- The system lists the directory itself and those between it and the entry. -/
  readable : ∀ front back, place = front ++ back → back ≠ [] →
    ∃ children, fs.listDirectory (directory.below front) showHidden = .ok children

/-- What can be reached from a directory whose entries are known. Whether a directory below it can
be read is a matter of its path. -/
structure Reached (showHidden : Bool) (directory : Path) (entries : List (String × Inode))
    (place : Place) (inode : Inode) : Prop where
  ne_nil : place ≠ []
  /-- Walking down the names through directories alone leads to the inode. -/
  leads : (Inode.dir entries).at? place = some inode
  shown : ∀ name ∈ place, showHidden ∨ isHidden name = false
  /-- The directories between the scanned one and the entry can be read. -/
  readable : ∀ front back, place = front ++ back → front ≠ [] → back ≠ [] →
    FileSystem.isTooLong (directory.below front) = false

/-- The line of the entry at a place, when those of the directory itself are at a level. -/
def lineAt (directory : Path) (level : Int) (place : Place) (inode : Inode) : Line :=
  ⟨place.getLastD "", (directory.below place).toString, inode.isDir, level + place.length - 1⟩

lemma lineAt_singleton (directory : Path) (level : Int) (name : String) (inode : Inode) :
    lineAt directory level [name] inode =
      ⟨name, (directory.child name).toString, inode.isDir, level⟩ := by
  simp [lineAt, Path.below_cons]

lemma lineAt_cons (directory : Path) (level : Int) (name : String) {rest : Place}
    (hrest : rest ≠ []) (inode : Inode) :
    lineAt directory level (name :: rest) inode =
      lineAt (directory.child name) (level + 1) rest inode := by
  obtain ⟨next, more, rfl⟩ := List.exists_cons_of_ne_nil hrest
  rw [lineAt, lineAt, Path.below_cons]
  simp only [List.getLastD_cons, List.length_cons, Line.mk.injEq, true_and]
  push_cast
  omega

namespace Reached

variable {showHidden : Bool} {directory : Path} {entries : List (String × Inode)} {name : String}
  {inode : Inode}

lemma singleton (hlookup : entries.lookup name = some inode)
    (hshown : showHidden ∨ isHidden name = false) :
    Reached showHidden directory entries [name] inode where
  ne_nil := List.cons_ne_nil name []
  leads := by rw [Inode.at?_dir_cons, hlookup, Option.bind_some, Inode.at?_nil]
  shown := by simpa using hshown
  readable := by
    intro front back hplace hfront hback
    have hlength := congrArg List.length hplace
    have := List.length_pos_of_ne_nil hfront
    have := List.length_pos_of_ne_nil hback
    simp only [List.length_cons, List.length_nil, List.length_append] at hlength
    omega

lemma cons {children : List (String × Inode)} {rest : Place}
    (hlookup : entries.lookup name = some (.dir children))
    (hshown : showHidden ∨ isHidden name = false)
    (hread : FileSystem.isTooLong (directory.child name) = false)
    (h : Reached showHidden (directory.child name) children rest inode) :
    Reached showHidden directory entries (name :: rest) inode where
  ne_nil := List.cons_ne_nil name rest
  leads := by rw [Inode.at?_dir_cons, hlookup, Option.bind_some, h.leads]
  shown := List.forall_mem_cons.mpr ⟨hshown, h.shown⟩
  readable := by
    intro front back hplace hfront hback
    cases front with
    | nil => exact absurd rfl hfront
    | cons first front =>
      obtain ⟨rfl, hrest⟩ := List.cons.inj hplace
      rw [Path.below_cons]
      by_cases hnil : front = []
      · rw [hnil, Path.below_nil]
        exact hread
      · exact h.readable front back hrest hnil hback

/-- What is reached is an entry of the directory, or is reached in one of its directories. -/
lemma cases {rest : Place} (h : Reached showHidden directory entries (name :: rest) inode) :
    (showHidden ∨ isHidden name = false) ∧
      (rest = [] ∧ entries.lookup name = some inode ∨
        ∃ children, entries.lookup name = some (.dir children) ∧
          FileSystem.isTooLong (directory.child name) = false ∧
          Reached showHidden (directory.child name) children rest inode) := by
  have hshown := List.forall_mem_cons.mp h.shown
  obtain ⟨child, hchild, hat⟩ := Option.bind_eq_some_iff.mp
    ((Inode.at?_dir_cons entries name rest).symm.trans h.leads)
  refine ⟨hshown.1, ?_⟩
  by_cases hrest : rest = []
  · subst hrest
    rw [Inode.at?_nil] at hat
    exact Or.inl ⟨rfl, hchild.trans hat⟩
  · right
    obtain ⟨children, rfl⟩ : ∃ children, child = .dir children := by
      obtain ⟨next, more, rfl⟩ := List.exists_cons_of_ne_nil hrest
      cases child with
      | dir children => exact ⟨children, rfl⟩
      | file bytes => simp [Inode.at?] at hat
      | link target => simp [Inode.at?] at hat
      | closed children => simp [Inode.at?] at hat
    have hread := h.readable [name] rest rfl (List.cons_ne_nil _ _) hrest
    refine ⟨children, hchild, hread, hrest, hat, hshown.2, ?_⟩
    intro front back hplace _ hback
    have := h.readable (name :: front) back (by rw [hplace]; rfl) (List.cons_ne_nil _ _) hback
    rwa [Path.below_cons] at this

end Reached

/-! ### Lines of a scan -/

namespace Inode

variable (showHidden : Bool)

/-- The lines of an entry are its own and those of what is in it. -/
lemma mem_lines_toEntry {name : String} {p : Path} {inode : Inode} {level : Int} {l : Line} :
    l ∈ (inode.toEntry showHidden name p).lines level ↔
      l = ⟨name, p.toString, inode.isDir, level⟩ ∨
        ∃ children, inode = .dir children ∧ FileSystem.isTooLong p = false ∧
          l ∈ Entry.linesAll (level + 1) (toEntries showHidden p children) := by
  cases inode with
  | file bytes => simp [toEntry, Entry.lines, isDir]
  | link target => simp [toEntry, Entry.lines, isDir]
  | closed children => simp [toEntry, Entry.lines, Entry.linesAll, isDir]
  | dir children =>
    rw [toEntry, Entry.lines, List.mem_cons]
    cases hlong : FileSystem.isTooLong p with
    | true => simp [Entry.linesAll, isDir]
    | false => simp [Entry.mem_linesAll_sortEntries, isDir]

variable {showHidden : Bool}

/-- The line is that of a child of the directory, or of what is reached in one. -/
def FromChild (showHidden : Bool) (directory : Path) (level : Int) (l : Line)
    (child : String × Inode) : Prop :=
  l = ⟨child.1, (directory.child child.1).toString, child.2.isDir, level⟩ ∨
    ∃ children place there, child.2 = .dir children ∧
      FileSystem.isTooLong (directory.child child.1) = false ∧
      Reached showHidden (directory.child child.1) children place there ∧
      l = lineAt (directory.child child.1) (level + 1) place there

lemma FromChild.exists_reached {directory : Path} {level : Int} {l : Line}
    {child : String × Inode} (h : FromChild showHidden directory level l child)
    {entries : List (String × Inode)} (hnames : (entries.map Prod.fst).Nodup)
    (hchild : child ∈ entries) (hshown : showHidden ∨ isHidden child.1 = false) :
    ∃ place there, Reached showHidden directory entries place there ∧
      l = lineAt directory level place there := by
  have hlookup := lookup_of_mem hnames hchild
  rcases h with rfl | ⟨children, place, there, hdir, hread, hreached, rfl⟩
  · exact ⟨[child.1], child.2, .singleton hlookup hshown, (lineAt_singleton _ _ _ _).symm⟩
  · rw [hdir] at hlookup
    exact ⟨child.1 :: place, there, .cons hlookup hshown hread hreached,
      (lineAt_cons directory level child.1 hreached.ne_nil there).symm⟩

/-- What is no directory, or none that can be read, has its own line only. -/
lemma fromChild_of_ne_dir {directory : Path} {name : String} {level : Int} {inode : Inode}
    (hdir : ∀ children, inode ≠ .dir children) {l : Line}
    (hl : l ∈ (inode.toEntry showHidden name (directory.child name)).lines level) :
    FromChild showHidden directory level l (name, inode) := by
  rcases (mem_lines_toEntry showHidden).mp hl with hl | ⟨children, heq, -⟩
  · exact Or.inl hl
  · exact absurd heq (hdir children)

mutual

theorem fromChild_of_mem_lines (directory : Path) (name : String) (level : Int) :
    (inode : Inode) → inode.Valid →
      ∀ l ∈ (inode.toEntry showHidden name (directory.child name)).lines level,
        FromChild showHidden directory level l (name, inode)
  | .file bytes, _ => fun _ hl => fromChild_of_ne_dir (fun _ => Inode.noConfusion) hl
  | .link target, _ => fun _ hl => fromChild_of_ne_dir (fun _ => Inode.noConfusion) hl
  | .closed children, _ => fun _ hl => fromChild_of_ne_dir (fun _ => Inode.noConfusion) hl
  | .dir children, h => by
    intro l hl
    rcases (mem_lines_toEntry showHidden).mp hl with hl | ⟨_, hdir, hread, hl⟩
    · exact Or.inl hl
    · right
      obtain rfl := Inode.dir.inj hdir
      obtain ⟨child, hchild, hshown, hline⟩ :=
        fromChild_of_mem_linesAll (directory.child name) (level + 1) children h.2 l hl
      obtain ⟨place, there, hreached, rfl⟩ := hline.exists_reached h.1 hchild hshown
      exact ⟨_, place, there, rfl, hread, hreached, rfl⟩

theorem fromChild_of_mem_linesAll (directory : Path) (level : Int) :
    (entries : List (String × Inode)) → ValidAll entries →
      ∀ l ∈ Entry.linesAll level (toEntries showHidden directory entries),
        ∃ child ∈ entries, (showHidden ∨ isHidden child.1 = false) ∧
          FromChild showHidden directory level l child
  | [], _ => by simp [toEntries, Entry.linesAll]
  | (name, inode) :: rest, h => by
    intro l hl
    have hrest : l ∈ Entry.linesAll level (toEntries showHidden directory rest) →
        ∃ child ∈ (name, inode) :: rest, (showHidden ∨ isHidden child.1 = false) ∧
          FromChild showHidden directory level l child := by
      intro hmem
      obtain ⟨child, hchild, hline⟩ := fromChild_of_mem_linesAll directory level rest h.2.2 l hmem
      exact ⟨child, List.mem_cons_of_mem _ hchild, hline⟩
    rw [toEntries] at hl
    split at hl
    · next hshown =>
      rw [Entry.linesAll, List.mem_append] at hl
      rcases hl with hl | hl
      · exact ⟨(name, inode), List.mem_cons_self, by simpa using hshown,
          fromChild_of_mem_lines directory name level inode h.2.1 l hl⟩
      · exact hrest hl
    · exact hrest hl

end

/-- Each line is that of an entry that is reached. -/
theorem exists_reached_of_mem_lines {directory : Path} {level : Int}
    {entries : List (String × Inode)} (h : (dir entries).Valid) {l : Line}
    (hl : l ∈ Entry.linesAll level (toEntries showHidden directory entries)) :
    ∃ place there, Reached showHidden directory entries place there ∧
      l = lineAt directory level place there := by
  obtain ⟨child, hchild, hshown, hline⟩ :=
    fromChild_of_mem_linesAll directory level entries h.2 l hl
  exact hline.exists_reached h.1 hchild hshown

/-! ### Order -/

lemma pairwise_sortEntries (entries : List Entry) :
    (sortEntries entries).Pairwise fun a b => Precedes a.isDir a.name b.isDir b.name := by
  have hsorted := List.pairwise_mergeSort Entry.siblingLe_trans Entry.siblingLe_total entries
  exact hsorted.imp fun hle => siblingsLe_iff.mp hle

lemma orderedAll_sortEntries {entries : List Entry} (h : Entry.OrderedAll entries) :
    Entry.OrderedAll (sortEntries entries) := by
  rw [Entry.orderedAll_iff] at h ⊢
  exact fun entry hentry => h entry ((List.mergeSort_perm _ _).mem_iff.mp hentry)

mutual

theorem ordered_toEntry (name : String) (p : Path) :
    (inode : Inode) → (inode.toEntry showHidden name p).Ordered
  | .file bytes => trivial
  | .link target => trivial
  | .closed children => ⟨List.Pairwise.nil, trivial⟩
  | .dir children => by
    rw [toEntry]
    split
    · exact ⟨List.Pairwise.nil, trivial⟩
    · exact ⟨pairwise_sortEntries _, orderedAll_sortEntries (ordered_toEntries p children)⟩

/-- A scan lists siblings in order. -/
theorem ordered_toEntries (directory : Path) :
    (entries : List (String × Inode)) →
      Entry.OrderedAll (toEntries showHidden directory entries)
  | [] => trivial
  | (name, inode) :: rest => by
    rw [toEntries]
    split
    · exact ⟨ordered_toEntry name (directory.child name) inode, ordered_toEntries directory rest⟩
    · exact ordered_toEntries directory rest

end

end Inode

/-! ### The loaded tree -/

/-- The rows are those of the entries that are reached below the directory. -/
structure Forest.Mirrors (Reaches : Place → Inode → Prop) (directory : Path) (f : Forest) :
    Prop where
  /-- Each entry has one row. -/
  covers : ∀ place inode, Reaches place inode →
    ∃ n ∈ f.rows, n.line = lineAt directory 0 place inode ∧ ∀ m ∈ f.rows, m.path = n.path → m = n
  /-- Each row is that of one entry. -/
  reached : ∀ n ∈ f.rows, ∃! place, ∃ inode,
    Reaches place inode ∧ n.line = lineAt directory 0 place inode
  roots : f.roots.Pairwise fun a b => Precedes a.row.isDir a.row.name b.row.isDir b.row.name
  children : ∀ n ∈ f.rows,
    n.children.Pairwise fun a b => Precedes a.row.isDir a.row.name b.row.isDir b.row.name
  paths : (f.rows.map Node.path).Nodup
  found : ∀ n ∈ f.rows, f.tidOfPath? n.path = some n.tid

section

variable {showHidden : Bool} {directory : Path} {entries : List (String × Inode)}

lemma Reached.valid {place : Place} {inode : Inode} (hvalid : (Inode.dir entries).Valid)
    (h : Reached showHidden directory entries place inode) : ∀ name ∈ place, ValidName name :=
  (hvalid.of_at? h.leads).1

/-- All lines of a scan have names and paths. -/
lemma filled_toEntries (hvalid : (Inode.dir entries).Valid)
    (habsolute : directory.anchor ≠ .relative) (level : Int) :
    Entry.Filled (Entry.linesAll level (Inode.toEntries showHidden directory entries)) := by
  intro l hl
  obtain ⟨place, inode, hreached, rfl⟩ := Inode.exists_reached_of_mem_lines hvalid hl
  refine ⟨?_, Path.toString_ne_empty habsolute⟩
  have hlast := List.getLast_mem hreached.ne_nil
  have hname : place.getLastD "" = place.getLast hreached.ne_nil := by
    rw [List.getLastD_eq_getLast?, List.getLast?_eq_some_getLast hreached.ne_nil, Option.getD_some]
  show place.getLastD "" ≠ ""
  rw [hname]
  exact (hreached.valid hvalid _ hlast).ne_empty

end

namespace FileSystem

variable {fs : FileSystem} {root directory : Path} {showHidden : Bool}

/-- What the system lists below a directory follows from the entries of the directory. -/
lemma reaches_iff (hvalid : fs.Valid) (habsolute : directory.anchor ≠ .relative)
    {entries : List (String × Inode)} (hentries : fs.entriesAt directory = .ok entries)
    {place : Place} {inode : Inode} :
    fs.Reaches showHidden directory place inode ↔
      Reached showHidden directory entries place inode := by
  have hstat : fs.stat directory = .ok (.dir entries) := stat_of_entriesAt hentries
  have hopen := hvalid.entriesAt hentries
  -- between the directory and the entry, what the system lists is what is short enough
  have hlist : ∀ {front children},
      (Inode.dir entries).at? front = some (.dir children) →
        ((∃ listing, fs.listDirectory (directory.below front) showHidden = .ok listing) ↔
          isTooLong (directory.below front) = false) := by
    intro front children hat
    rw [listDirectory_below habsolute hstat (hopen.of_at? hat).1 hat rfl, Inode.read]
    cases isTooLong (directory.below front) <;> simp [Except.map, Inode.entries?]
  constructor
  · rintro ⟨hne, ⟨top, htop, hat⟩, hshown, hreadable⟩
    obtain rfl := Except.ok.inj (htop.symm.trans hstat)
    refine ⟨hne, hat, hshown, ?_⟩
    rintro front back rfl - hback
    obtain ⟨children, hdir⟩ := Inode.exists_dir_of_at?_append hat hback
    exact (hlist hdir).mp (hreadable front back rfl hback)
  · rintro ⟨hne, hat, hshown, hreadable⟩
    refine ⟨hne, ⟨_, hstat, hat⟩, hshown, ?_⟩
    rintro front back rfl hback
    obtain ⟨children, hdir⟩ := Inode.exists_dir_of_at?_append hat hback
    by_cases hfront : front = []
    · rw [hfront, Path.below_nil, listDirectory, hentries]
      exact ⟨_, rfl⟩
    · exact (hlist hdir).mpr (hreadable front back rfl hfront hback)

/-- A scan shows what can be reached. A directory that the system does not list is shown as an empty
one would be. -/
lemma exists_entries (hvalid : fs.Valid) (habsolute : directory.anchor ≠ .relative)
    (showHidden : Bool) :
    ∃ entries, (Inode.dir entries).Valid ∧
      fs.scanned directory showHidden = sortEntries (Inode.toEntries showHidden directory entries) ∧
      ∀ place inode, fs.Reaches showHidden directory place inode ↔
        Reached showHidden directory entries place inode := by
  rw [scanned]
  cases hentries : fs.entriesAt directory with
  | ok entries =>
    exact ⟨entries, hvalid.entriesAt hentries, rfl,
      fun _ _ => reaches_iff hvalid habsolute hentries⟩
  | error e =>
    refine ⟨[], ⟨List.nodup_nil, trivial⟩, by simp [shownBelow, Inode.toEntries, sortEntries],
      fun place inode => iff_of_false (fun hreaches => ?_) (fun hreached => ?_)⟩
    · obtain ⟨children, hchildren⟩ := hreaches.readable [] place rfl hreaches.ne_nil
      rw [Path.below_nil, listDirectory, hentries] at hchildren
      cases hchildren
    · obtain ⟨name, rest, rfl⟩ := List.exists_cons_of_ne_nil hreached.ne_nil
      exact absurd hreached.leads (by simp [Inode.at?_dir_cons])

/-- What a scan lists has names and paths. -/
lemma filled_scan (hvalid : fs.Valid) {scan : Scan} (h : fs.scan root showHidden = .ok scan) :
    Entry.Filled (Entry.linesAll 0 scan.entries) := by
  obtain ⟨directory, hroot, -, hscanned⟩ := exists_directory_of_scan h
  obtain ⟨entries, hopen, hlisted, -⟩ :=
    exists_entries hvalid (anchor_of_resolve hroot) showHidden
  intro l hl
  rw [hscanned, hlisted, Entry.mem_linesAll_sortEntries] at hl
  exact filled_toEntries hopen (anchor_of_resolve hroot) 0 l hl

/-- So it is loaded. -/
lemma loadJson_of_scan (hvalid : fs.Valid) {scan : Scan} (h : fs.scan root showHidden = .ok scan)
    (s : Store) : s.loadJson (.arr (Entry.toItems scan.entries)) = .ok (s.load scan.entries) := by
  have hread : Entry.ofSnapshot (.arr (Entry.toItems scan.entries)) = .ok scan.entries :=
    Entry.ofItems_toItems 0 scan.entries (filled_scan hvalid h)
  rw [Store.loadJson, hread]
  rfl

end FileSystem

/-! ### A directory that cannot be read -/

/-- The longest name that a directory can give. -/
def longName : String := String.ofList (List.replicate 255 'a')

/-- A file below so many directories with the longest name. -/
def nested : Nat → List (String × Inode)
  | 0 => [("x", .file .empty)]
  | depth + 1 => [(longName, .dir (nested depth))]

end Sidebar
