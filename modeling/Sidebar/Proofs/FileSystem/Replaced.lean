import Sidebar.Proofs.FileSystem.Differing
import Sidebar.Proofs.FileSystem.Places

/-!
# Files that are replaced or removed

A path that leads to a file, or to where one is missing, leads through directories that need not be
created. Removing the file or giving it other bytes leaves a file system that differs in it alone.
Other bytes are not seen by any scan, the removal only by those of the directories that the file
lies below.
-/

namespace Sidebar.FileSystem

variable {fs fs' : FileSystem} {place : Place} {p : Path}

/-! ### Directories on the way -/

/-- Names lead on from directories only. -/
lemma exists_dir_of_follow_cons {followLast : Bool} {links : Nat} {here : Place} {name : String}
    {rest : List String} {destination : Destination}
    (h : fs.follow followLast links here (name :: rest) = .ok destination) :
    ∃ entries, fs.at? here = some (.dir entries) := by
  rw [follow] at h
  split at h
  · next entries hat => exact ⟨entries, hat⟩
  · cases h
  · cases h

/-- By induction on the names in front: where others follow, they lead to a directory. -/
lemma exists_dir_of_follow_append {followLast : Bool} {links : Nat} {here : Place}
    {front back : List String} {destination : Destination}
    (h : fs.follow followLast links here (front ++ back) = .ok destination) (hback : back ≠ []) :
    ∃ there entries, fs.follow true links here front = .ok (.found there (.dir entries)) := by
  obtain ⟨next, more, rfl⟩ := List.exists_cons_of_ne_nil hback
  have hmore : ∀ {front : List String}, front ++ next :: more ≠ [] := by simp
  have hleads := fs.leads true links here front
  generalize fs.follow true links here front = outcome at hleads ⊢
  induction hleads with
  | arrives hat =>
    obtain ⟨entries, hdir⟩ := exists_dir_of_follow_cons h
    obtain rfl := Option.some.inj (hat.symm.trans hdir)
    exact ⟨_, entries, rfl⟩
  | nothing hat =>
    rw [(Leads.nothing hat).eq] at h
    cases h
  | blocked hat hdir =>
    obtain ⟨entries, hat'⟩ := exists_dir_of_follow_cons h
    exact absurd (Option.some.inj (hat.symm.trans hat')) (hdir entries)
  | dot hat _ ih =>
    rw [List.cons_append, (Leads.dot hat (fs.leads ..)).eq] at h
    exact ih h
  | up hat _ ih =>
    rw [List.cons_append, (Leads.up hat (fs.leads ..)).eq] at h
    exact ih h
  | tooLong hat hdot hup hlong =>
    rw [List.cons_append, (Leads.tooLong hat hdot hup hlong).eq] at h
    cases h
  | missing hlook hlookup | noWay hlook hlookup =>
    rw [List.cons_append, (Leads.noWay hlook hlookup hmore).eq] at h
    cases h
  | linkItself hlast => cases hlast
  | linksSpent _ hlook hlookup =>
    rw [List.cons_append, (Leads.linksSpent (absurd · hmore) hlook hlookup).eq] at h
    cases h
  | link _ hlook hlookup _ ih =>
    rw [List.cons_append, (Leads.link (absurd · hmore) hlook hlookup (fs.leads ..)).eq,
      ← List.append_assoc] at h
    exact ih h
  | entry hlook hlookup hlink _ ih =>
    rw [List.cons_append, (Leads.entry hlook hlookup hlink (fs.leads ..)).eq] at h
    exact ih h

/-- The directory is one that has been removed where the names do not lead out of those. -/
lemma exists_dir_of_followLost_append {followLast : Bool} {lost : Nat} {here : Place}
    {front back : List String} {destination : Destination}
    (h : fs.followLost followLast lost here (front ++ back) = .ok destination)
    (hback : back ≠ []) :
    (∃ there entries, fs.followLost true lost here front = .ok (.found there (.dir entries))) ∨
      ∃ there lost', fs.followLost true lost here front = .ok (.removed there lost') := by
  generalize hnames : front ++ back = names at h
  fun_induction FileSystem.followLost fs followLast lost here names generalizing front with
  | case1 here names =>
    subst hnames
    rw [followLost]
    exact .inl (exists_dir_of_follow_append h hback)
  | case2 => exact absurd hnames (List.append_ne_nil_of_right_ne_nil front hback)
  | case3 lost here rest ih =>
    rcases List.append_eq_cons_iff.mp hnames with ⟨rfl, -⟩ | ⟨front', rfl, rfl⟩
    · rw [followLost]
      exact .inr ⟨here, _, rfl⟩
    · rw [followLost, if_pos rfl]
      exact ih rfl h
  | case4 lost here rest hdot ih =>
    rcases List.append_eq_cons_iff.mp hnames with ⟨rfl, -⟩ | ⟨front', rfl, rfl⟩
    · rw [followLost]
      exact .inr ⟨here, _, rfl⟩
    · rw [followLost, if_neg hdot, if_pos rfl]
      exact ih rfl h
  | case5 => cases h

/-- The directories on the way of a path are there. -/
lemma isDirectory_of_locate_below {followLast : Bool} {back : Place} {destination : Destination}
    (h : fs.locate followLast (p.below back) = .ok destination) (hp : p.names ≠ [])
    (hback : back ≠ []) : fs.isDirectory p = .ok true := by
  obtain ⟨rest, htext, -⟩ := Path.leads_below hp back
  suffices hlocate : (∃ there entries, fs.locate true p = .ok (.found there (.dir entries))) ∨
      ∃ there lost, fs.locate true p = .ok (.removed there lost) by
    rcases hlocate with ⟨there, entries, hfound⟩ | ⟨there, lost, hremoved⟩
    · exact isDirectory_of_found hfound
    · rw [isDirectory, stat_eq_ok_iff.mpr (.inr ⟨there, lost, hremoved, rfl⟩)]
      rfl
  rw [locate] at h
  split at h
  · cases h
  next hnul =>
  split at h
  · cases h
  next hshort =>
  have hnul' : ¬ p.toString.contains '\x00' := by
    rw [String.contains_char_eq, decide_eq_true_iff] at hnul ⊢
    rw [htext, List.mem_append, not_or] at hnul
    exact hnul.1
  have hshort' : ¬ p.toString.utf8ByteSize > maxPathBytes := fun hlong =>
    hshort (Nat.lt_of_lt_of_le hlong (Path.utf8ByteSize_le_below hp back))
  rw [locate, if_neg hnul', if_neg hshort']
  have hanchor : (p.below back).anchor = p.anchor := rfl
  rw [hanchor] at h
  split at h
  · rcases exists_dir_of_followLost_append (mapError_eq_ok_iff.mp h) hback with
      ⟨there, entries, hfound⟩ | ⟨there, lost, hremoved⟩
    · rw [hfound]
      exact .inl ⟨there, entries, rfl⟩
    · rw [hremoved]
      exact .inr ⟨there, lost, rfl⟩
  · obtain ⟨there, entries, hfound⟩ :=
      exists_dir_of_follow_append (mapError_eq_ok_iff.mp h) hback
    rw [hfound]
    exact .inl ⟨there, entries, rfl⟩

/-- Directories that are there are not created. -/
lemma ensureBelow_of_isDirectory {names : List String}
    (h : ∀ front, front ≠ [] → front <+: names → fs.isDirectory (p.below front) = .ok true) :
    fs.ensureBelow p names = (fs, .ok ()) := by
  induction names generalizing p with
  | nil => rfl
  | cons name rest ih =>
    have hname : fs.isDirectory (p.child name) = .ok true := by
      have := h [name] (List.cons_ne_nil name []) (List.cons_prefix_cons.mpr ⟨rfl, List.nil_prefix⟩)
      rwa [Path.below_cons, Path.below_nil] at this
    rw [ensureBelow, ensureDirectory_of_isDirectory hname]
    refine ih fun front _ hfront => ?_
    rw [← Path.below_cons]
    exact h (name :: front) (List.cons_ne_nil _ _) (List.cons_prefix_cons.mpr ⟨rfl, hfront⟩)

/-- The directories that lead to a path that can be followed are not created. -/
theorem ensureDirectories_of_locate {followLast : Bool} {destination : Destination}
    (h : fs.locate followLast p = .ok destination) :
    fs.ensureDirectories p.parent = (fs, .ok ()) := by
  refine ensureBelow_of_isDirectory fun front hne hfront => ?_
  obtain ⟨middle, hmiddle⟩ := hfront
  have hnames : p.names ≠ [] := by
    intro hnil
    have : front ++ middle = [] := hmiddle.trans (by rw [Path.parent, hnil, List.dropLast_nil])
    exact hne (List.append_eq_nil_iff.mp this).1
  have hp : p = (⟨p.anchor, front⟩ : Path).below (middle ++ [p.names.getLast hnames]) := by
    have hsplit : front ++ (middle ++ [p.names.getLast hnames]) = p.names := by
      rw [← List.append_assoc, hmiddle, Path.parent, List.dropLast_append_getLast]
    rw [Path.below, hsplit]
  rw [hp] at h
  exact isDirectory_of_locate_below h hne (by simp)

/-- What leads to the file in one file system leads to its place in the other one. -/
lemma DifferAt.lands (h : DifferAt place fs fs') {bytes : ByteArray}
    (hfound : fs.locate true p = .ok (.found place (.file bytes))) :
    Lands place (fs'.locate true p) := by
  have hlocate := h.locate true p
  rw [hfound] at hlocate
  generalize fs'.locate true p = outcome' at hlocate
  cases hlocate with
  | found _ _ _ apart => exact absurd rfl apart
  | landed _ hlands' => exact hlands'
  | refused hrefused _ => cases hrefused

/-! ### Removing and replacing -/

/-- What is left of the working directory is a directory. -/
def Stands (fs : FileSystem) : Prop :=
  ∃ entries, fs.at? (fs.cwd.take (fs.cwd.length - fs.lost)) = some (.dir entries)

section Alter

variable {bytes : ByteArray}

/-- Nothing lies below a file. -/
lemma FileAt.at?_append (h : FileAt place fs) {back : Place} (hback : back ≠ []) :
    fs.at? (place ++ back) = none := by
  rw [Option.eq_none_iff_forall_ne_some]
  intro inode hinode
  obtain ⟨entries, hdir⟩ := Inode.exists_dir_of_at?_append hinode hback
  obtain ⟨bytes, hbytes⟩ := h _ hdir
  cases hbytes

/-- A file system in which the inode at the place of a file has been changed differs in it alone. -/
lemma differAt_of_alterEntries (hproper : fs.Proper) (hstands : fs.Stands)
    (hat : fs.at? place = some (.file bytes)) {change : Option Inode → Option Inode}
    (hchange : ∀ inode, change (some (.file bytes)) = some inode → ∃ bytes', inode = .file bytes')
    (hentries : fs'.entries = Inode.alterEntries change place fs.entries)
    (hcwd : fs'.cwd = fs.cwd) (hlost : fs'.lost = fs.lost) : DifferAt place fs fs' := by
  have hat' : ∀ there, fs'.at? there =
      (Inode.dir (Inode.alterEntries change place fs.entries)).at? there := fun there => by
    rw [at?, hentries]
  have hplace : place ≠ [] := by
    rintro rfl
    cases hat
  have hself : fs'.at? place = change (some (.file bytes)) := by
    rw [hat']
    exact Inode.at?_alterEntries_self hproper hat hplace
  have hfile : FileAt place fs := fun inode hinode =>
    ⟨bytes, Option.some.inj (hinode.symm.trans hat)⟩
  have hfile' : FileAt place fs' := by
    intro inode hinode
    rw [hself] at hinode
    exact hchange inode hinode
  have hstart : fs.cwd.take (fs.cwd.length - fs.lost) ≠ place := by
    obtain ⟨entries, hdir⟩ := hstands
    intro hstart
    rw [hstart, hat] at hdir
    cases hdir
  have hapart : ∀ there, ¬ there <+: place → fs'.at? there = fs.at? there := by
    intro there hthere
    by_cases hbelow : place <+: there
    · obtain ⟨back, rfl⟩ := hbelow
      have hback : back ≠ [] := by
        rintro rfl
        rw [List.append_nil] at hthere
        exact hthere List.prefix_rfl
      rw [hfile'.at?_append hback, hfile.at?_append hback]
    · rw [hat', Inode.at?_alterEntries_apart hproper hthere hbelow]
      rfl
  refine ⟨hcwd, hlost, hstart, hapart, fun front back hplace hback => ?_, hfile, hfile'⟩
  subst hplace
  obtain ⟨entries, hdir⟩ := Inode.exists_dir_of_at?_append hat hback
  refine ⟨⟨entries, hdir⟩, Inode.alterEntries change back entries, ?_⟩
  rw [hat']
  exact Inode.at?_alterEntries_front hproper hdir hback

lemma differAt_set (hproper : fs.Proper) (hstands : fs.Stands)
    (hat : fs.at? place = some (.file bytes)) (bytes' : ByteArray) :
    DifferAt place fs (fs.set place (.file bytes')) :=
  differAt_of_alterEntries hproper hstands hat
    (fun _ hinode => ⟨bytes', (Option.some.inj hinode).symm⟩) rfl rfl rfl

/-- When a file is removed, the working directory loses nothing that it had not lost before. -/
lemma lost_erase (hstands : fs.Stands) (hat : fs.at? place = some (.file bytes)) :
    (fs.erase place).lost = fs.lost := by
  rw [erase]
  simp only
  split
  · next hbegins =>
    rw [List.isPrefixOf_iff_prefix] at hbegins
    obtain ⟨entries, hdir⟩ := hstands
    have hlong : fs.cwd.length - fs.lost < place.length := by
      by_contra hshort
      have hfront : place <+: fs.cwd.take (fs.cwd.length - fs.lost) := by
        rw [List.prefix_take_iff]
        exact ⟨hbegins, Nat.le_of_not_lt hshort⟩
      obtain ⟨back, hback⟩ := hfront
      cases back with
      | nil =>
        rw [← hback, List.append_nil, hat] at hdir
        cases hdir
      | cons name rest =>
        rw [← hback] at hdir
        obtain ⟨inside, hinside⟩ := Inode.exists_dir_of_at?_append hdir (List.cons_ne_nil name rest)
        cases hinside.symm.trans hat
    omega
  · rfl

/-- Nothing is left where a file has been removed. -/
lemma at?_erase (hproper : fs.Proper) (hat : fs.at? place = some (.file bytes)) :
    (fs.erase place).at? place = none := by
  have hplace : place ≠ [] := by
    rintro rfl
    cases hat
  exact Inode.at?_alterEntries_self hproper hat hplace

lemma differAt_erase (hproper : fs.Proper) (hstands : fs.Stands)
    (hat : fs.at? place = some (.file bytes)) : DifferAt place fs (fs.erase place) :=
  differAt_of_alterEntries hproper hstands hat (fun _ hinode => by cases hinode) rfl rfl
    (lost_erase hstands hat)

end Alter

/-! ### Scans -/

/-- The place is not below the directory that the path leads to. -/
def Outside (fs : FileSystem) (place : Place) (p : Path) : Prop :=
  ∀ there inode, fs.locate true p = .ok (.found there inode) → ¬ there <+: place

lemma scanned_of_stat {entries : List (String × Inode)} (h : fs.stat p = .ok (.dir entries))
    (showHidden : Bool) :
    fs.scanned p showHidden = sortEntries (Inode.toEntries showHidden p entries) := by
  rw [scanned, entriesAt, h]
  rfl

lemma scanned_of_noDirectory (h : NoDirectory (fs.stat p)) (showHidden : Bool) :
    fs.scanned p showHidden = [] := by
  rw [scanned, entriesAt]
  generalize fs.stat p = outcome at h
  cases h <;> rfl

namespace DifferAt

/-- Where the entries of each directory are shown alike, scans show the same. -/
lemma scanned_eq (h : DifferAt place fs fs') {showHidden : Bool}
    (hshow : ∀ there entries entries', fs.locate true p = .ok (.found there (.dir entries)) →
      fs'.at? there = some (.dir entries') →
      Inode.toEntries showHidden p entries' = Inode.toEntries showHidden p entries) :
    fs'.scanned p showHidden = fs.scanned p showHidden := by
  have hstat := h.stat p
  generalize houtcome : fs.stat p = outcome at hstat
  generalize houtcome' : fs'.stat p = outcome' at hstat
  cases hstat with
  | same => rw [scanned, scanned, entriesAt, entriesAt, houtcome, houtcome']
  | @dirs there entries entries' hfound hat' =>
    rw [scanned_of_stat houtcome, scanned_of_stat houtcome',
      hshow there entries entries' hfound hat']
  | noDirectory hnone hnone' =>
    rw [scanned_of_noDirectory (houtcome' ▸ hnone'), scanned_of_noDirectory (houtcome ▸ hnone)]

/-- A file is not seen in a directory that it does not lie below. -/
theorem scanned_eq_of_outside (h : DifferAt place fs fs') (houtside : fs.Outside place p)
    (showHidden : Bool) : fs'.scanned p showHidden = fs.scanned p showHidden := by
  refine h.scanned_eq fun there entries entries' hfound hdir' => ?_
  rw [h.apart there (houtside there _ hfound), at?_of_locate_found hfound] at hdir'
  cases hdir'
  rfl

end DifferAt

/-- Other bytes of a file are not seen in any directory. -/
theorem scanned_set (hproper : fs.Proper) (hstands : fs.Stands) {bytes : ByteArray}
    (hat : fs.at? place = some (.file bytes)) (bytes' : ByteArray) (showHidden : Bool) :
    (fs.set place (.file bytes')).scanned p showHidden = fs.scanned p showHidden := by
  have hdiffer := differAt_set hproper hstands hat bytes'
  refine hdiffer.scanned_eq fun there entries entries' hfound hdir' => ?_
  have hdir := at?_of_locate_found hfound
  by_cases hthere : there <+: place
  · obtain ⟨back, rfl⟩ := hthere
    have hback : back ≠ [] := by
      rintro rfl
      rw [List.append_nil, hdir] at hat
      cases hat
    rw [at?, set, Inode.at?_alterEntries_front hproper hdir hback] at hdir'
    obtain rfl := Inode.dir.inj (Option.some.inj hdir')
    rw [at?] at hat hdir
    rw [Inode.at?_append, hdir, Option.bind_some] at hat
    exact Inode.toEntries_alterEntries (Inode.Proper.at? hproper hdir) hat bytes' showHidden p
  · rw [hdiffer.apart there hthere, hdir] at hdir'
    cases hdir'
    rfl

end Sidebar.FileSystem
