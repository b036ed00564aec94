import Sidebar.Proofs.FileSystem.Following
import Sidebar.Proofs.Outcome

/-!
# Writing files and creating directories

A file that has been written holds what was written, and can be written again. Directories that
have been created are there, also when the file system has grown since: creating them once more
changes nothing.
-/

namespace Sidebar.FileSystem

variable {fs fs' : FileSystem} {p : Path}

/-! ### Places -/

lemma followLost_false_eq (fs : FileSystem) (lost : Nat) (here : Place) (names : List String) :
    (∃ place target, fs.followLost false lost here names = .ok (.found place (.link target))) ∨
      fs.followLost false lost here names = fs.followLost true lost here names := by
  fun_induction FileSystem.followLost fs true lost here names with
  | case1 here names => rw [followLost]; exact follow_false_eq fs maxLinks here names
  | case2 lost here => rw [followLost]; exact .inr rfl
  | case3 lost here rest ih => rw [followLost, if_pos rfl]; exact ih
  | case4 lost here rest hdot ih => rw [followLost, if_neg hdot, if_pos rfl]; exact ih
  | case5 lost here name rest hdot hup => rw [followLost, if_neg hdot, if_neg hup]; exact .inr rfl

lemma locate_false_eq (fs : FileSystem) (p : Path) :
    (∃ place target, fs.locate false p = .ok (.found place (.link target))) ∨
      fs.locate false p = fs.locate true p := by
  rw [locate, locate]
  split
  · exact .inr rfl
  split
  · exact .inr rfl
  split
  · rcases fs.followLost_false_eq fs.lost fs.cwd p.names with ⟨place, target, h⟩ | h
    · exact .inl ⟨place, target, by rw [h]; rfl⟩
    · exact .inr (by rw [h])
  · rcases fs.follow_false_eq maxLinks [] p.names with ⟨place, target, h⟩ | h
    · exact .inl ⟨place, target, by rw [h]; rfl⟩
    · exact .inr (by rw [h])

lemma locate_missing_true {directory : Place} {name : String}
    (h : fs.locate false p = .ok (.missing directory name)) :
    fs.locate true p = .ok (.missing directory name) := by
  rcases fs.locate_false_eq p with ⟨place, target, hlink⟩ | heq
  · rw [hlink] at h
    simp at h
  · rw [← heq, h]

/-- Unless a path leads into a removed directory, names are followed from a place. -/
lemma exists_follow_of_followLost {followLast : Bool} {lost : Nat} {here : Place}
    {names : List String} {destination : Destination}
    (h : fs.followLost followLast lost here names = .ok destination) :
    (∃ place lost, destination = .removed place lost) ∨
      ∃ here names, fs.follow followLast maxLinks here names = .ok destination := by
  fun_induction FileSystem.followLost fs followLast lost here names with
  | case1 here names => exact .inr ⟨here, names, h⟩
  | case2 lost here => exact .inl ⟨here, lost + 1, (Except.ok.inj h).symm⟩
  | case3 lost here rest ih => exact ih h
  | case4 lost here rest hdot ih => exact ih h
  | case5 => simp at h

lemma exists_follow {followLast : Bool} {destination : Destination}
    (h : fs.locate followLast p = .ok destination) :
    (∃ place lost, destination = .removed place lost) ∨
      ∃ here names, fs.follow followLast maxLinks here names = .ok destination := by
  rw [locate] at h
  split at h
  · simp at h
  split at h
  · simp at h
  split at h
  · exact exists_follow_of_followLost (mapError_eq_ok_iff.mp h)
  · exact .inr ⟨[], p.names, mapError_eq_ok_iff.mp h⟩

lemma at?_of_locate_found {followLast : Bool} {place : Place} {inode : Inode}
    (h : fs.locate followLast p = .ok (.found place inode)) : fs.at? place = some inode := by
  rcases exists_follow h with ⟨_, _, hremoved⟩ | ⟨here, names, hfollow⟩
  · simp at hremoved
  · exact at?_of_follow_found hfollow

lemma at?_of_locate_missing {followLast : Bool} {directory : Place} {name : String}
    (h : fs.locate followLast p = .ok (.missing directory name)) :
    ∃ entries, fs.at? directory = some (.dir entries) ∧ entries.lookup name = none := by
  rcases exists_follow h with ⟨_, _, hremoved⟩ | ⟨here, names, hfollow⟩
  · simp at hremoved
  · exact at?_of_follow_missing hfollow

/-! ### Putting inodes -/

/-- What is put where a name is missing is found there. -/
lemma locate_set_missing {directory : Place} {name : String}
    (h : fs.locate true p = .ok (.missing directory name)) {inode : Inode}
    (hinode : inode.Linkless) :
    fs.GrowsTo (fs.set (directory ++ [name]) inode) ∧
      (fs.set (directory ++ [name]) inode).locate true p =
        .ok (.found (directory ++ [name]) inode) := by
  obtain ⟨entries, hat, hlookup⟩ := at?_of_locate_missing h
  have hgrow : fs.GrowsTo (fs.set (directory ++ [name]) inode) := by
    apply growsTo_set hinode
    intro old hold
    rw [at?_child hat, hlookup] at hold
    simp at hold
  have hset := at?_set fs inode name hat
  have hlocate := hgrow.locate true p
  rw [h] at hlocate
  refine ⟨hgrow, ?_⟩
  generalize houtcome : (fs.set (directory ++ [name]) inode).locate true p = outcome at hlocate
  cases hlocate with
  | missing _ _ absent => rw [hset] at absent; simp at absent
  | created _ _ present =>
    rw [hset] at present
    rw [Option.some.inj present]

/-- A file that is overwritten is found where it was. -/
lemma locate_set_file {place : Place} {old : ByteArray}
    (h : fs.locate true p = .ok (.found place (.file old))) (bytes : ByteArray) :
    fs.GrowsTo (fs.set place (.file bytes)) ∧
      (fs.set place (.file bytes)).locate true p = .ok (.found place (.file bytes)) := by
  have hat := at?_of_locate_found h
  have hgrow : fs.GrowsTo (fs.set place (.file bytes)) := by
    apply growsTo_set (Inode.linkless_file bytes)
    intro inode hinode
    rw [hat] at hinode
    rw [← Option.some.inj hinode]
    exact .file old bytes
  have hset : (fs.set place (.file bytes)).at? place = some (.file bytes) := by
    rcases List.eq_nil_or_concat place with rfl | ⟨directory, name, rfl⟩
    · simp [at?] at hat
    · rw [List.concat_eq_append] at hat ⊢
      rw [at?, Inode.at?_append, Option.bind_eq_some_iff] at hat
      obtain ⟨there, hthere, hat⟩ := hat
      obtain ⟨entries, -, rfl, -⟩ := Inode.at?_cons_eq_some hat
      exact at?_set fs _ name hthere
  have hlocate := hgrow.locate true p
  rw [h] at hlocate
  refine ⟨hgrow, ?_⟩
  generalize houtcome : (fs.set place (.file bytes)).locate true p = outcome at hlocate
  cases hlocate with
  | found _ grow =>
    have := at?_of_locate_found houtcome
    rw [hset] at this
    rw [← Option.some.inj this]

/-! ### Files -/

/-- Writing a file puts it where the path leads from then on. -/
lemma exists_place_of_putFile {bytes : ByteArray} (h : fs.putFile p bytes = .ok fs') :
    fs.GrowsTo fs' ∧ ∃ place, fs'.locate true p = .ok (.found place (.file bytes)) := by
  obtain ⟨destination, hlocate, h⟩ := bind_eq_ok_iff.mp h
  split at h
  · next place old =>
    obtain rfl := Except.ok.inj h
    obtain ⟨hgrow, hfound⟩ := locate_set_file hlocate bytes
    exact ⟨hgrow, place, hfound⟩
  · cases h
  · next directory name =>
    obtain rfl := Except.ok.inj h
    obtain ⟨hgrow, hfound⟩ := locate_set_missing hlocate (Inode.linkless_file bytes)
    exact ⟨hgrow, _, hfound⟩
  · cases h

lemma putFile_of_found {place : Place} {old : ByteArray}
    (h : fs.locate true p = .ok (.found place (.file old))) (bytes : ByteArray) :
    fs.putFile p bytes = .ok (fs.set place (.file bytes)) := by
  rw [putFile, h]
  rfl

/-- A file that can be written can be written with other bytes. -/
lemma exists_putFile {bytes : ByteArray} (h : fs.putFile p bytes = .ok fs') (bytes' : ByteArray) :
    ∃ fs'', fs.putFile p bytes' = .ok fs'' := by
  obtain ⟨destination, hlocate, h⟩ := bind_eq_ok_iff.mp h
  rw [putFile, hlocate]
  split at h
  · exact ⟨_, rfl⟩
  · cases h
  · exact ⟨_, rfl⟩
  · cases h

lemma bytesAt_of_found {place : Place} {bytes : ByteArray}
    (h : fs.locate true p = .ok (.found place (.file bytes))) : fs.bytesAt p = .ok bytes := by
  rw [bytesAt, stat_eq_ok_iff.mpr (.inl ⟨place, h⟩)]
  rfl

/-! ### Directories -/

lemma isDirectory_of_found {place : Place} {entries : List (String × Inode)}
    (h : fs.locate true p = .ok (.found place (.dir entries))) : fs.isDirectory p = .ok true := by
  rw [isDirectory, stat_eq_ok_iff.mpr (.inl ⟨place, h⟩)]
  rfl

/-- A directory that has been created is there. -/
lemma isDirectory_of_ensureDirectory (h : fs.ensureDirectory p = .ok fs') :
    fs.GrowsTo fs' ∧ fs'.isDirectory p = .ok true := by
  have hpresent : (do if ← fs.isDirectory p then return fs else throw (.system .exists)) =
      Except.ok (ε := AccessError) fs' → fs.GrowsTo fs' ∧ fs'.isDirectory p = .ok true := by
    intro h
    obtain ⟨isDir, hdir, h⟩ := bind_eq_ok_iff.mp h
    cases isDir with
    | false => cases h
    | true =>
      obtain rfl : fs = fs' := Except.ok.inj h
      exact ⟨.refl fs, hdir⟩
  obtain ⟨destination, hlocate, h⟩ := bind_eq_ok_iff.mp h
  cases destination with
  | missing directory name =>
    obtain rfl : fs.set (directory ++ [name]) (.dir []) = fs' := Except.ok.inj h
    obtain ⟨hgrow, hfound⟩ :=
      locate_set_missing (locate_missing_true hlocate) Inode.linkless_emptyDir
    exact ⟨hgrow, isDirectory_of_found hfound⟩
  | found place inode => exact hpresent h
  | removed place lost => exact hpresent h

/-- A directory that is there is not created again. -/
lemma ensureDirectory_of_isDirectory (h : fs.isDirectory p = .ok true) :
    fs.ensureDirectory p = .ok fs := by
  obtain ⟨inode, hstat, -⟩ := isDirectory_eq_true_iff.mp h
  rw [ensureDirectory, h]
  rcases fs.locate_false_eq p with ⟨place, target, hlink⟩ | heq
  · rw [hlink]
    rfl
  · rw [heq]
    rcases stat_eq_ok_iff.mp hstat with ⟨place, hfound⟩ | ⟨place, lost, hremoved, -⟩
    · rw [hfound]
      rfl
    · rw [hremoved]
      rfl

/-- Directories that have been created stay, and creating them again changes nothing. -/
lemma ensureBelow_again {names : List String} (h : fs.ensureBelow p names = (fs', .ok ())) :
    fs.GrowsTo fs' ∧ ∀ later, fs'.GrowsTo later → later.ensureBelow p names = (later, .ok ()) := by
  induction names generalizing fs p with
  | nil =>
    obtain rfl : fs = fs' := (Prod.mk.inj h).1
    exact ⟨.refl fs, fun later _ => rfl⟩
  | cons name rest ih =>
    rw [ensureBelow] at h
    split at h
    · next created hcreated =>
      obtain ⟨hgrow, hdir⟩ := isDirectory_of_ensureDirectory hcreated
      obtain ⟨hgrow', hagain⟩ := ih h
      refine ⟨hgrow.trans hgrow', fun later hlater => ?_⟩
      rw [ensureBelow,
        ensureDirectory_of_isDirectory ((hgrow'.trans hlater).isDirectory hdir)]
      exact hagain later hlater
    · simp at h

theorem ensureDirectories_again (h : fs.ensureDirectories p = (fs', .ok ())) :
    fs.GrowsTo fs' ∧ ∀ later, fs'.GrowsTo later → later.ensureDirectories p = (later, .ok ()) :=
  ensureBelow_again h

end Sidebar.FileSystem
