import Sidebar.Proofs.FileSystem.Places

/-!
# Listings of a scan

A scan goes down by names and inodes, and does not ask the system for the way to a directory again.
Where names are valid it sees in each directory what the system lists by the path of the directory,
or the same refusal.
-/

namespace Sidebar

namespace FileSystem

variable {fs : FileSystem}

/-! ### Following more names -/

section Follow

variable {links : Nat} {here place : Place} {names : List String} {inode : Inode}

/-- Further names are followed from where the first ones lead. -/
lemma follow_append (h : fs.follow true links here names = .ok (.found place inode)) :
    ∃ left, ∀ rest, fs.follow true links here (names ++ rest) = fs.follow true left place rest := by
  rw [← leads_iff] at h
  generalize houtcome : Except.ok (Destination.found place inode) = outcome at h
  induction h with
  | @arrives links here _ hat =>
    cases houtcome
    exact ⟨links, fun rest => rfl⟩
  | dot hat _ ih =>
    obtain ⟨left, hleft⟩ := ih houtcome
    exact ⟨left, fun rest => (Leads.dot hat (leads_iff.mpr (hleft rest))).eq⟩
  | up hat _ ih =>
    obtain ⟨left, hleft⟩ := ih houtcome
    exact ⟨left, fun rest => (Leads.up hat (leads_iff.mpr (hleft rest))).eq⟩
  | linkItself hlast => cases hlast
  | link _ hlook hlookup _ ih =>
    obtain ⟨left, hleft⟩ := ih houtcome
    refine ⟨left, fun rest => (Leads.link (fun _ => rfl) hlook hlookup (leads_iff.mpr ?_)).eq⟩
    have hmore := hleft rest
    rw [List.append_assoc] at hmore
    exact hmore
  | entry hlook hlookup hlink _ ih =>
    obtain ⟨left, hleft⟩ := ih houtcome
    exact ⟨left, fun rest => (Leads.entry hlook hlookup hlink (leads_iff.mpr (hleft rest))).eq⟩
  | _ => cases houtcome

/-- Names that have been followed were not too long. -/
lemma short_of_follow (h : fs.follow true links here names = .ok (.found place inode)) :
    ∀ name ∈ names, name.utf8ByteSize ≤ maxNameBytes := by
  rw [← leads_iff] at h
  generalize houtcome : Except.ok (Destination.found place inode) = outcome at h
  induction h with
  | arrives hat => exact fun name hname => absurd hname List.not_mem_nil
  | dot _ _ ih => exact List.forall_mem_cons.mpr ⟨by decide, ih houtcome⟩
  | up _ _ ih => exact List.forall_mem_cons.mpr ⟨by decide, ih houtcome⟩
  | linkItself hlast => cases hlast
  | link _ hlook _ _ ih =>
    -- what is left of the names stands behind those of the target
    have hrest := (List.forall_mem_append.mp (ih houtcome)).2
    exact List.forall_mem_cons.mpr ⟨Nat.le_of_not_lt hlook.short, hrest⟩
  | entry hlook _ _ _ ih =>
    exact List.forall_mem_cons.mpr ⟨Nat.le_of_not_lt hlook.short, ih houtcome⟩
  | _ => cases houtcome

end Follow

/-! ### Paths below a directory -/

variable {directory : Path} {top there : Inode} {place : Place}

/-- Valid names bring no NUL into a path. -/
lemma contains_nul_below (h : directory.toString.contains '\x00' = false)
    (hnames : ∀ name ∈ place, ValidName name) :
    (directory.below place).toString.contains '\x00' = false := by
  rw [String.contains_char_eq, decide_eq_false_iff_not,
    Path.mem_toString_iff (by decide) (by decide)] at h ⊢
  rintro ⟨name, hname, hmem⟩
  rcases List.mem_append.mp hname with hname | hname
  · exact h ⟨name, hname, hmem⟩
  · have hvalid := (hnames name hname).nul
    rw [String.contains_char_eq, decide_eq_false_iff_not] at hvalid
    exact hvalid hmem

/-- What is somewhere below a directory is accessed by its path, unless that is too long. -/
theorem stat_below (habsolute : directory.anchor ≠ .relative) (hstat : fs.stat directory = .ok top)
    (hnames : ∀ name ∈ place, ValidName name) (hat : top.at? place = some there)
    (hlink : ∀ target, there ≠ .link target) :
    fs.stat (directory.below place) =
      if isTooLong (directory.below place) then .error (.system .nameTooLong) else .ok there := by
  obtain ⟨hnul, -, spot, hfollow⟩ := exists_follow_of_stat habsolute hstat
  have hspot : fs.at? (spot ++ place) = some there := by
    have htop : fs.at? spot = some top := at?_of_follow_found hfollow
    rw [at?] at htop ⊢
    rw [Inode.at?_append, htop, Option.bind_some, hat]
  -- the names of the directory lead to its place, and the further ones go on from there
  obtain ⟨left, hleft⟩ := follow_append hfollow
  have hnext := follow_of_at? hlink true left spot hnames hspot
  have hshort : directory.names.any (fun name => maxNameBytes < name.utf8ByteSize) = false := by
    simpa using short_of_follow hfollow
  have hlocate : fs.locate true (directory.below place) =
      if isTooLong (directory.below place) then .error (.system .nameTooLong)
      else .ok (.found (spot ++ place) there) := by
    have habsolute' : (directory.below place).anchor ≠ .relative := habsolute
    have hbelow : (directory.below place).names = directory.names ++ place := rfl
    rw [locate_of_absolute habsolute', if_neg (by simp [contains_nul_below hnul hnames]), hbelow,
      hleft, hnext, isTooLong, hbelow, List.any_append, hshort, Bool.false_or]
    by_cases hsize : maxPathBytes < (directory.below place).toString.utf8ByteSize
    · simp [hsize]
    · rw [if_neg hsize, decide_eq_false hsize, Bool.false_or]
      split <;> rfl
  rw [stat, hlocate]
  split <;> rfl

/-- A directory below another one is read as a scan reads it. -/
theorem entriesAt_below (habsolute : directory.anchor ≠ .relative)
    (hstat : fs.stat directory = .ok top) (hnames : ∀ name ∈ place, ValidName name)
    (hat : top.at? place = some there) (hdir : there.isDir) :
    fs.entriesAt (directory.below place) = there.read (directory.below place) := by
  have hlink : ∀ target, there ≠ .link target := by
    rintro target rfl
    cases hdir
  rw [entriesAt, stat_below habsolute hstat hnames hat hlink, Inode.read]
  split <;> rfl

/-- What a scan goes through in a directory below its root is the listing of that directory. -/
theorem listDirectory_below (habsolute : directory.anchor ≠ .relative)
    (hstat : fs.stat directory = .ok top) (hnames : ∀ name ∈ place, ValidName name)
    (hat : top.at? place = some there) (hdir : there.isDir) (showHidden : Bool) :
    fs.listDirectory (directory.below place) showHidden =
      (there.read (directory.below place)).map fun entries =>
        (childrenOf showHidden (directory.below place) entries).map Prod.fst := by
  rw [listDirectory, entriesAt_below habsolute hstat hnames hat hdir]
  cases there.read (directory.below place) <;> rfl

/-! ### The root -/

lemma stat_root (fs : FileSystem) : fs.stat ⟨.root, []⟩ = .ok (.dir fs.entries) := by
  have htext : (⟨.root, []⟩ : Path).toString = "/" := rfl
  have hat : fs.at? [] = some (.dir fs.entries) := Inode.at?_nil _
  have hsize : ¬ "/".utf8ByteSize > maxPathBytes := by decide
  rw [stat_eq_ok_iff]
  left
  refine ⟨[], ?_⟩
  simp [locate, htext, follow, hat, hsize]

end FileSystem

end Sidebar
