import Sidebar.Proofs.FileSystem.Scanning

/-!
# Names and places

The names that a directory can give to its entries, and the paths of the places below it. Paths of
different places differ, and each says which names lead to its place.
-/

namespace Sidebar

/-! ### Valid names -/

/-- A name that a directory can give to an entry. -/
structure ValidName (name : String) : Prop where
  ne_empty : name ≠ ""
  ne_dot : name ≠ "."
  ne_up : name ≠ ".."
  slash : '/' ∉ name.toList
  nul : name.contains '\x00' = false

lemma validName_iff {name : String} :
    ValidName name ↔ name ∉ ["", ".", ".."] ∧ ∀ c ∈ name.toList, c ≠ '/' ∧ c ≠ '\x00' := by
  have hnul : name.contains '\x00' = false ↔ '\x00' ∉ name.toList := by
    rw [String.contains_char_eq, decide_eq_false_iff_not]
  constructor
  · intro h
    refine ⟨by simp [h.ne_empty, h.ne_dot, h.ne_up], fun c hc => ⟨?_, ?_⟩⟩
    · rintro rfl
      exact h.slash hc
    · rintro rfl
      exact hnul.mp h.nul hc
  · rintro ⟨hname, hchars⟩
    simp only [List.mem_cons, List.not_mem_nil, or_false, not_or] at hname
    exact ⟨hname.1, hname.2.1, hname.2.2, fun hc => (hchars _ hc).1 rfl,
      hnul.mpr fun hc => (hchars _ hc).2 rfl⟩

namespace Inode

mutual

/-- In and below the inode, the names of each directory are valid and differ. -/
def Valid : Inode → Prop
  | .dir entries => (entries.map Prod.fst).Nodup ∧ ValidAll entries
  | .closed entries => (entries.map Prod.fst).Nodup ∧ ValidAll entries
  | _ => True

def ValidAll : List (String × Inode) → Prop
  | [] => True
  | (name, inode) :: rest => ValidName name ∧ inode.Valid ∧ ValidAll rest

end

mutual

theorem Valid.proper : {inode : Inode} → inode.Valid → inode.Proper
  | .dir entries, h => ⟨h.1, (ValidAll.proper h.2 : ProperAll entries)⟩
  | .closed entries, h => ⟨h.1, (ValidAll.proper h.2 : ProperAll entries)⟩
  | .file _, _ => trivial
  | .link _, _ => trivial

theorem ValidAll.proper : {entries : List (String × Inode)} → ValidAll entries → ProperAll entries
  | [], _ => trivial
  | (_, inode) :: rest, h =>
    ⟨h.1.slash, (Valid.proper h.2.1 : inode.Proper), (ValidAll.proper h.2.2 : ProperAll rest)⟩

end

lemma ValidAll.of_mem {entries : List (String × Inode)} (h : ValidAll entries)
    {entry : String × Inode} (hentry : entry ∈ entries) : ValidName entry.1 ∧ entry.2.Valid := by
  induction entries with
  | nil => exact absurd hentry List.not_mem_nil
  | cons first rest ih =>
    obtain ⟨name, inode⟩ := first
    rcases List.mem_cons.mp hentry with rfl | hentry
    · exact ⟨h.1, h.2.1⟩
    · exact ih h.2.2 hentry

/-- Every name on the way to a place is valid, and so is what is there. -/
lemma Valid.of_at? {inode there : Inode} (h : inode.Valid) {place : Place}
    (hat : inode.at? place = some there) : (∀ name ∈ place, ValidName name) ∧ there.Valid := by
  induction place generalizing inode with
  | nil =>
    rw [at?_nil] at hat
    obtain rfl := Option.some.inj hat
    exact ⟨fun name hname => absurd hname List.not_mem_nil, h⟩
  | cons name rest ih =>
    obtain ⟨entries, child, rfl, hchild, hat⟩ := at?_cons_eq_some hat
    obtain ⟨hname, hchild⟩ := h.2.of_mem (mem_of_lookup_eq_some hchild)
    obtain ⟨hrest, hthere⟩ := ih hchild hat
    exact ⟨List.forall_mem_cons.mpr ⟨hname, hrest⟩, hthere⟩

/-- Where names differ, an entry is found by its name. -/
lemma lookup_of_mem {entries : List (String × Inode)} (h : (entries.map Prod.fst).Nodup)
    {name : String} {inode : Inode} (hmem : (name, inode) ∈ entries) :
    entries.lookup name = some inode := by
  induction entries with
  | nil => exact absurd hmem List.not_mem_nil
  | cons first rest ih =>
    rw [List.map_cons, List.nodup_cons] at h
    rcases List.mem_cons.mp hmem with rfl | hmem
    · exact List.lookup_cons_self
    · have hne : (name == first.1) = false := by
        rw [beq_eq_false_iff_ne]
        rintro rfl
        exact h.1 (List.mem_map.mpr ⟨_, hmem, rfl⟩)
      rw [List.lookup_cons, hne]
      exact ih h.2 hmem

end Inode

/-- The names are as an operating system has them, and the working directory is one, unless it has
been removed. -/
structure FileSystem.Valid (fs : FileSystem) : Prop where
  inodes : (Inode.dir fs.entries).Valid
  cwd : fs.lost = 0 → ∃ entries, fs.at? fs.cwd = some (.dir entries)

lemma FileSystem.Valid.entriesAt {fs : FileSystem} (h : fs.Valid) {p : Path}
    {entries : List (String × Inode)} (hentries : fs.entriesAt p = .ok entries) :
    (Inode.dir entries).Valid := by
  rcases stat_eq_ok_iff.mp (stat_of_entriesAt hentries) with ⟨place, hfound⟩ | ⟨_, _, -, hempty⟩
  · exact (h.inodes.of_at? (at?_of_locate_found hfound)).2
  · rw [hempty]
    exact ⟨List.nodup_nil, trivial⟩

/-! ### Paths of places -/

namespace Path

/-- The path of a place below a directory. -/
def below (p : Path) (place : Place) : Path := { p with names := p.names ++ place }

@[simp] lemma below_nil (p : Path) : p.below [] = p := by simp [below]

lemma below_cons (p : Path) (name : String) (rest : Place) :
    p.below (name :: rest) = (p.child name).below rest := by
  simp [below, child]

lemma leads_below {p : Path} (hp : p.names ≠ []) (place : Place) :
    p.Leads (p.below place).toString := by
  induction place generalizing p with
  | nil => rw [below_nil]; exact .refl p
  | cons name rest ih =>
    rw [below_cons]
    exact ((ih (p.names_child_ne_nil name)).of_child hp).1

/-- The text of a path is at most as long as that of a path below it. -/
lemma utf8ByteSize_le_below {p : Path} (hp : p.names ≠ []) (place : Place) :
    p.toString.utf8ByteSize ≤ (p.below place).toString.utf8ByteSize := by
  obtain ⟨rest, htext, -⟩ := leads_below hp place
  have hsame : (p.below place).toString = p.toString ++ String.ofList rest := by
    rw [← String.toList_inj, htext, String.toList_append, String.toList_ofList]
  rw [hsame, String.utf8ByteSize_append]
  exact Nat.le_add_right _ _

end Path

end Sidebar
