import Sidebar.Proofs.FileSystem.Altered
import Sidebar.Proofs.FileSystem.Rescanning
import Sidebar.Proofs.FileSystem.Writing

/-!
# File systems that differ in one file

Two file systems differ at a place when they agree everywhere else, and at the place itself there is
a file or nothing. Then a path leads to the same directory or link in both, it leads to the place in
both, or it is refused in both. So paths are resolved alike, and the same ones lead to directories.

Replacing the bytes of a file changes no scan. Removing the file changes the scans of no directory
that it does not lie below.
-/

namespace Sidebar

namespace FileSystem

/-- At the place there is a file, or nothing. -/
def FileAt (place : Place) (fs : FileSystem) : Prop :=
  ∀ inode, fs.at? place = some inode → ∃ bytes, inode = .file bytes

/-- The file systems agree but for a file at the place, which either of them may lack. The working
directory does not depend on it. -/
structure DifferAt (place : Place) (fs fs' : FileSystem) : Prop where
  cwd : fs'.cwd = fs.cwd
  lost : fs'.lost = fs.lost
  /-- What is left of the working directory is not at the place. -/
  start : fs.cwd.take (fs.cwd.length - fs.lost) ≠ place
  apart : ∀ there, ¬ there <+: place → fs'.at? there = fs.at? there
  way : ∀ front back, place = front ++ back → back ≠ [] →
    (∃ entries, fs.at? front = some (.dir entries)) ∧
      ∃ entries', fs'.at? front = some (.dir entries')
  fileAt : FileAt place fs
  fileAt' : FileAt place fs'

namespace DifferAt

variable {place : Place} {fs fs' : FileSystem}

lemma symm (h : DifferAt place fs fs') : DifferAt place fs' fs where
  cwd := h.cwd.symm
  lost := h.lost.symm
  start := by
    rw [h.cwd, h.lost]
    exact h.start
  apart there hthere := (h.apart there hthere).symm
  way front back hplace hback := (h.way front back hplace hback).symm
  fileAt := h.fileAt'
  fileAt' := h.fileAt

lemma ne_nil (h : DifferAt place fs fs') : place ≠ [] := by
  rintro rfl
  obtain ⟨bytes, hfile⟩ := h.fileAt _ (Inode.at?_nil _)
  cases hfile

/-- The place is no directory. -/
lemma ne_of_dir (h : DifferAt place fs fs') {there : Place} {entries : List (String × Inode)}
    (hat : fs.at? there = some (.dir entries)) : there ≠ place := by
  rintro rfl
  obtain ⟨bytes, hfile⟩ := h.fileAt _ hat
  cases hfile

/-- Nor is it on the way to a directory. -/
lemma dropLast_ne_of_dir (h : DifferAt place fs fs') {there : Place}
    {entries : List (String × Inode)} (hat : fs.at? there = some (.dir entries)) :
    there.dropLast ≠ place := by
  rcases List.eq_nil_or_concat' there with rfl | ⟨front, name, rfl⟩
  · exact h.ne_of_dir hat
  · obtain ⟨inside, hfront⟩ := Inode.exists_dir_of_at?_append hat (List.cons_ne_nil name [])
    rw [List.dropLast_concat]
    exact h.ne_of_dir hfront

lemma exists_dir (h : DifferAt place fs fs') {there : Place} {entries : List (String × Inode)}
    (hat : fs.at? there = some (.dir entries)) :
    ∃ entries', fs'.at? there = some (.dir entries') := by
  by_cases hthere : there <+: place
  · obtain ⟨back, hback⟩ := hthere
    refine (h.way there back hback.symm ?_).2
    rintro rfl
    exact h.ne_of_dir hat ((List.append_nil there).symm.trans hback)
  · exact ⟨entries, (h.apart there hthere).trans hat⟩

/-- Away from the place there is the same in both, unless it is a directory in both. -/
lemma at?_eq_or_dirs (h : DifferAt place fs fs') {there : Place} (hne : there ≠ place) :
    fs'.at? there = fs.at? there ∨
      (∃ entries, fs.at? there = some (.dir entries)) ∧
        ∃ entries', fs'.at? there = some (.dir entries') := by
  by_cases hthere : there <+: place
  · obtain ⟨back, hback⟩ := hthere
    refine .inr (h.way there back hback.symm ?_)
    rintro rfl
    exact hne ((List.append_nil there).symm.trans hback)
  · exact .inl (h.apart there hthere)

end DifferAt

/-! ### Following paths -/

/-- The path leads to the place, whether there is a file or not. -/
inductive Lands (place : Place) : Except AccessError Destination → Prop
  | found (bytes : ByteArray) : Lands place (.ok (.found place (.file bytes)))
  | missing {directory : Place} {name : String} (h : directory ++ [name] = place) :
      Lands place (.ok (.missing directory name))

/-- The path leads beyond what is there. -/
inductive Refused : Except AccessError Destination → Prop
  | noEntry : Refused (.error (.system .noEntry))
  | notDirectory : Refused (.error (.system .notDirectory))

/-- Two outcomes of following a path. -/
inductive OutcomesAlike (place : Place) :
    Except AccessError Destination → Except AccessError Destination → Prop
  | found (there : Place) (inode inode' : Inode) (apart : there ≠ place) :
      OutcomesAlike place (.ok (.found there inode)) (.ok (.found there inode'))
  | missing (directory : Place) (name : String) :
      OutcomesAlike place (.ok (.missing directory name)) (.ok (.missing directory name))
  | removed (there : Place) (lost : Nat) :
      OutcomesAlike place (.ok (.removed there lost)) (.ok (.removed there lost))
  | error (e : AccessError) : OutcomesAlike place (.error e) (.error e)
  | landed {outcome outcome' : Except AccessError Destination} (h : Lands place outcome)
      (h' : Lands place outcome') : OutcomesAlike place outcome outcome'
  | refused {outcome outcome' : Except AccessError Destination} (h : Refused outcome)
      (h' : Refused outcome') : OutcomesAlike place outcome outcome'

section AtPlace

variable {place here : Place} {fs : FileSystem} {followLast : Bool} {links : Nat} {name : String}
  {rest : List String} {outcome : Except Errno Destination}

/-- No name leads on from a file. -/
lemma FileAt.refused (h : FileAt place fs)
    (hleads : fs.Leads followLast links place (name :: rest) outcome) :
    Refused (outcome.mapError .system) := by
  have hdir : ∀ entries, fs.at? place ≠ some (.dir entries) := by
    intro entries hat
    obtain ⟨bytes, hfile⟩ := h _ hat
    cases hfile
  cases hleads with
  | nothing hat => exact .noEntry
  | blocked hat _ =>
    obtain ⟨bytes, rfl⟩ := h _ hat
    exact .notDirectory
  | dot hat | up hat | tooLong hat => exact absurd hat (hdir _)
  | missing hlook | noWay hlook => exact absurd hlook.dir (hdir _)
  | linkItself _ hlook | linksSpent _ hlook | link _ hlook => exact absurd hlook.dir (hdir _)
  | entry hlook => exact absurd hlook.dir (hdir _)

/-- What becomes of a name that is looked up where the file may be. -/
lemma FileAt.lands_or_refused (h : FileAt place fs) {entries : List (String × Inode)}
    (hlook : fs.LooksUp here entries name) (hplace : here ++ [name] = place)
    (hleads : fs.Leads followLast links here (name :: rest) outcome) :
    if rest = [] then Lands place (outcome.mapError .system)
    else Refused (outcome.mapError .system) := by
  have hlookup := at?_child hlook.dir name
  rw [hplace] at hlookup
  obtain rfl := hleads.eq
  cases hat : fs.at? place with
  | none =>
    rw [hat] at hlookup
    cases rest with
    | nil =>
      rw [(Leads.missing hlook hlookup.symm).eq]
      exact .missing hplace
    | cons next rest =>
      rw [(Leads.noWay hlook hlookup.symm (List.cons_ne_nil next rest)).eq]
      exact .noEntry
  | some inode =>
    obtain ⟨bytes, rfl⟩ := h inode hat
    rw [hat] at hlookup
    have hdown := fs.leads followLast links place rest
    rw [← hplace] at hdown
    rw [(Leads.entry hlook hlookup.symm (fun _ => Inode.noConfusion) hdown).eq, hplace]
    cases rest with
    | nil =>
      rw [(Leads.arrives hat).eq]
      exact .found bytes
    | cons next rest => exact h.refused (fs.leads followLast links place (next :: rest))

end AtPlace

namespace DifferAt

variable {place : Place} {fs fs' : FileSystem}

/-- A name that is looked up in one of the file systems is looked up in the other as well. Unless it
leads to the place it finds the same there, or a directory in both. -/
lemma looksUp (h : DifferAt place fs fs') {here : Place} {name : String}
    {entries : List (String × Inode)} (hlook : fs.LooksUp here entries name) :
    ∃ entries', fs'.LooksUp here entries' name ∧
      (here ++ [name] ≠ place → entries'.lookup name = entries.lookup name ∨
        (∃ inside, entries.lookup name = some (.dir inside)) ∧
          ∃ inside', entries'.lookup name = some (.dir inside')) := by
  obtain ⟨entries', hat'⟩ := h.exists_dir hlook.dir
  refine ⟨entries', ⟨hat', hlook.ne_dot, hlook.ne_up, hlook.short⟩, fun hne => ?_⟩
  have hthere := h.at?_eq_or_dirs hne
  rwa [at?_child hlook.dir, at?_child hat'] at hthere

/-- What is no directory is found in both. -/
lemma lookup_eq (h : DifferAt place fs fs') {here : Place} {name : String}
    {entries : List (String × Inode)} (hlook : fs.LooksUp here entries name)
    (hne : here ++ [name] ≠ place) {found : Option Inode} (hlookup : entries.lookup name = found)
    (hfound : ∀ inside, found ≠ some (.dir inside)) :
    ∃ entries', fs'.LooksUp here entries' name ∧ entries'.lookup name = found := by
  obtain ⟨entries', hlook', hsame⟩ := h.looksUp hlook
  rcases hsame hne with hsame | ⟨⟨inside, hdir⟩, -⟩
  · exact ⟨entries', hlook', hsame.trans hlookup⟩
  · exact absurd (hlookup.symm.trans hdir) (hfound inside)

/-- A name that is looked up where the file may be leads there in both, or is refused in both. -/
lemma leads_at_place (h : DifferAt place fs fs') {followLast : Bool} {links : Nat} {here : Place}
    {name : String} {rest : List String} {entries : List (String × Inode)}
    {outcome : Except Errno Destination} (hlook : fs.LooksUp here entries name)
    (hplace : here ++ [name] = place)
    (hleads : fs.Leads followLast links here (name :: rest) outcome) :
    ∃ outcome', fs'.Leads followLast links here (name :: rest) outcome' ∧
      OutcomesAlike place (outcome.mapError .system) (outcome'.mapError .system) := by
  obtain ⟨entries', hlook', -⟩ := h.looksUp hlook
  have hleads' := fs'.leads followLast links here (name :: rest)
  have houtcome := h.fileAt.lands_or_refused hlook hplace hleads
  have houtcome' := h.fileAt'.lands_or_refused hlook' hplace hleads'
  refine ⟨_, hleads', ?_⟩
  by_cases hrest : rest = []
  · rw [if_pos hrest] at houtcome houtcome'
    exact .landed houtcome houtcome'
  · rw [if_neg hrest] at houtcome houtcome'
    exact .refused houtcome houtcome'

/-- Until the place is reached, both file systems lead along the same way. -/
theorem leads (h : DifferAt place fs fs') {followLast : Bool} {links : Nat} {here : Place}
    {names : List String} {outcome : Except Errno Destination} (hhere : here ≠ place)
    (hleads : fs.Leads followLast links here names outcome) :
    ∃ outcome', fs'.Leads followLast links here names outcome' ∧
      OutcomesAlike place (outcome.mapError .system) (outcome'.mapError .system) := by
  induction hleads with
  | @arrives _ here inode hat =>
    rcases h.at?_eq_or_dirs hhere with hsame | ⟨-, entries', hdir'⟩
    · exact ⟨_, .arrives (hsame.trans hat), .found here inode inode hhere⟩
    · exact ⟨_, .arrives hdir', .found here inode _ hhere⟩
  | nothing hat =>
    rcases h.at?_eq_or_dirs hhere with hsame | ⟨⟨entries, hdir⟩, -⟩
    · exact ⟨_, .nothing (hsame.trans hat), .error _⟩
    · cases hat.symm.trans hdir
  | blocked hat hdir =>
    rcases h.at?_eq_or_dirs hhere with hsame | ⟨⟨entries, hat'⟩, -⟩
    · exact ⟨_, .blocked (hsame.trans hat) hdir, .error _⟩
    · exact absurd (Option.some.inj (hat.symm.trans hat')) (hdir entries)
  | dot hat _ ih =>
    obtain ⟨entries', hat'⟩ := h.exists_dir hat
    obtain ⟨outcome', hleads', halike⟩ := ih hhere
    exact ⟨outcome', .dot hat' hleads', halike⟩
  | up hat _ ih =>
    obtain ⟨entries', hat'⟩ := h.exists_dir hat
    obtain ⟨outcome', hleads', halike⟩ := ih (h.dropLast_ne_of_dir hat)
    exact ⟨outcome', .up hat' hleads', halike⟩
  | tooLong hat hdot hup hlong =>
    obtain ⟨entries', hat'⟩ := h.exists_dir hat
    exact ⟨_, .tooLong hat' hdot hup hlong, .error _⟩
  | @missing _ here name _ hlook hlookup =>
    by_cases hplace : here ++ [name] = place
    · exact h.leads_at_place hlook hplace (.missing hlook hlookup)
    · obtain ⟨entries', hlook', hlookup'⟩ := h.lookup_eq hlook hplace hlookup (by simp)
      exact ⟨_, .missing hlook' hlookup', .missing here name⟩
  | @noWay _ here name _ _ hlook hlookup hrest =>
    by_cases hplace : here ++ [name] = place
    · exact h.leads_at_place hlook hplace (.noWay hlook hlookup hrest)
    · obtain ⟨entries', hlook', hlookup'⟩ := h.lookup_eq hlook hplace hlookup (by simp)
      exact ⟨_, .noWay hlook' hlookup' hrest, .error _⟩
  | @linkItself _ here name _ _ hlast hlook hlookup =>
    by_cases hplace : here ++ [name] = place
    · exact h.leads_at_place hlook hplace (.linkItself hlast hlook hlookup)
    · obtain ⟨entries', hlook', hlookup'⟩ := h.lookup_eq hlook hplace hlookup (by simp)
      exact ⟨_, .linkItself hlast hlook' hlookup', .found _ _ _ hplace⟩
  | @linksSpent here name _ _ _ hpast hlook hlookup =>
    by_cases hplace : here ++ [name] = place
    · exact h.leads_at_place hlook hplace (.linksSpent hpast hlook hlookup)
    · obtain ⟨entries', hlook', hlookup'⟩ := h.lookup_eq hlook hplace hlookup (by simp)
      exact ⟨_, .linksSpent hpast hlook' hlookup', .error _⟩
  | @link _ here name target _ _ _ hpast hlook hlookup hdown ih =>
    by_cases hplace : here ++ [name] = place
    · exact h.leads_at_place hlook hplace (.link hpast hlook hlookup hdown)
    · obtain ⟨entries', hlook', hlookup'⟩ := h.lookup_eq hlook hplace hlookup (by simp)
      have hstart : (if target.startsWith '/' then [] else here) ≠ place := by
        split
        · exact h.ne_nil.symm
        · exact hhere
      obtain ⟨outcome', hleads', halike⟩ := ih hstart
      exact ⟨outcome', .link hpast hlook' hlookup' hleads', halike⟩
  | @entry _ here name _ _ _ _ hlook hlookup hlink hdown ih =>
    by_cases hplace : here ++ [name] = place
    · exact h.leads_at_place hlook hplace (.entry hlook hlookup hlink hdown)
    · obtain ⟨entries', hlook', hsame⟩ := h.looksUp hlook
      obtain ⟨outcome', hleads', halike⟩ := ih hplace
      refine ⟨outcome', ?_, halike⟩
      rcases hsame hplace with hsame | ⟨-, inside', hdir'⟩
      · exact .entry hlook' (hsame.trans hlookup) hlink hleads'
      · exact .entry hlook' hdir' (fun _ => Inode.noConfusion) hleads'

theorem follow (h : DifferAt place fs fs') (followLast : Bool) (links : Nat) {here : Place}
    (names : List String) (hhere : here ≠ place) :
    OutcomesAlike place ((fs.follow followLast links here names).mapError .system)
      ((fs'.follow followLast links here names).mapError .system) := by
  obtain ⟨outcome', hleads', halike⟩ := h.leads hhere (fs.leads followLast links here names)
  rwa [hleads'.eq]

theorem followLost (h : DifferAt place fs fs') (followLast : Bool) (lost : Nat) {here : Place}
    (names : List String) (hhere : here.take (here.length - lost) ≠ place) :
    OutcomesAlike place ((fs.followLost followLast lost here names).mapError .system)
      ((fs'.followLost followLast lost here names).mapError .system) := by
  fun_induction FileSystem.followLost fs followLast lost here names with
  | case1 here names =>
    rw [Nat.sub_zero, List.take_length] at hhere
    rw [FileSystem.followLost]
    exact h.follow followLast maxLinks names hhere
  | case2 lost here =>
    rw [FileSystem.followLost]
    exact .removed here (lost + 1)
  | case3 here lost _ ih =>
    rw [FileSystem.followLost, if_pos rfl]
    exact ih hhere
  | case4 lost here _ hdot ih =>
    rw [FileSystem.followLost, if_neg hdot, if_pos rfl]
    refine ih ?_
    rwa [List.dropLast_eq_take, List.take_take, List.length_take,
      show min (min (here.length - 1) here.length - lost) (here.length - 1) =
        here.length - (lost + 1) by omega]
  | case5 =>
    rw [FileSystem.followLost, if_neg ‹_›, if_neg ‹_›]
    exact .error _

theorem locate (h : DifferAt place fs fs') (followLast : Bool) (p : Path) :
    OutcomesAlike place (fs.locate followLast p) (fs'.locate followLast p) := by
  rw [FileSystem.locate, FileSystem.locate, h.cwd, h.lost]
  split
  · exact .error _
  · split
    · exact .error _
    · split
      · exact h.followLost _ _ _ h.start
      · exact h.follow _ _ _ h.ne_nil.symm

end DifferAt

/-! ### Access -/

/-- The access finds a file, or nothing. -/
inductive NoDirectory : Except AccessError Inode → Prop
  | file (bytes : ByteArray) : NoDirectory (.ok (.file bytes))
  | noEntry : NoDirectory (.error (.system .noEntry))
  | notDirectory : NoDirectory (.error (.system .notDirectory))

/-- Two outcomes of an access, where directories may differ that are at one place. -/
inductive AccessesAlike (fs fs' : FileSystem) (p : Path) :
    Except AccessError Inode → Except AccessError Inode → Prop
  | same (outcome : Except AccessError Inode) : AccessesAlike fs fs' p outcome outcome
  | dirs {there : Place} {entries entries' : List (String × Inode)}
      (found : fs.locate true p = .ok (.found there (.dir entries)))
      (at' : fs'.at? there = some (.dir entries')) :
      AccessesAlike fs fs' p (.ok (.dir entries)) (.ok (.dir entries'))
  | noDirectory {outcome outcome' : Except AccessError Inode} (h : NoDirectory outcome)
      (h' : NoDirectory outcome') : AccessesAlike fs fs' p outcome outcome'

lemma stat_of_lands {place : Place} {fs : FileSystem} {p : Path}
    (h : Lands place (fs.locate true p)) : NoDirectory (fs.stat p) := by
  rw [stat]
  generalize fs.locate true p = outcome at h
  cases h with
  | found bytes => exact .file bytes
  | missing h => exact .noEntry

lemma stat_of_refused {fs : FileSystem} {p : Path} (h : Refused (fs.locate true p)) :
    NoDirectory (fs.stat p) := by
  rw [stat]
  generalize fs.locate true p = outcome at h
  cases h with
  | noEntry => exact .noEntry
  | notDirectory => exact .notDirectory

namespace DifferAt

variable {place : Place} {fs fs' : FileSystem}

theorem stat (h : DifferAt place fs fs') (p : Path) :
    AccessesAlike fs fs' p (fs.stat p) (fs'.stat p) := by
  have hlocate := h.locate true p
  generalize houtcome : fs.locate true p = outcome at hlocate
  generalize houtcome' : fs'.locate true p = outcome' at hlocate
  cases hlocate with
  | found there inode inode' apart =>
    have hat := at?_of_locate_found houtcome
    have hat' := at?_of_locate_found houtcome'
    rw [stat_eq_ok_iff.mpr (.inl ⟨there, houtcome⟩),
      stat_eq_ok_iff.mpr (.inl ⟨there, houtcome'⟩)]
    rcases h.at?_eq_or_dirs apart with hsame | ⟨⟨entries, hdir⟩, entries', hdir'⟩
    · rw [hat, hat'] at hsame
      obtain rfl := Option.some.inj hsame
      exact .same _
    · obtain rfl := Option.some.inj (hat.symm.trans hdir)
      obtain rfl := Option.some.inj (hat'.symm.trans hdir')
      exact .dirs houtcome hat'
  | landed hlands hlands' =>
    exact .noDirectory (stat_of_lands (houtcome ▸ hlands)) (stat_of_lands (houtcome' ▸ hlands'))
  | refused hrefused hrefused' =>
    exact .noDirectory (stat_of_refused (houtcome ▸ hrefused))
      (stat_of_refused (houtcome' ▸ hrefused'))
  | missing directory name =>
    rw [FileSystem.stat, FileSystem.stat, houtcome, houtcome']
    exact .same _
  | removed there lost =>
    rw [FileSystem.stat, FileSystem.stat, houtcome, houtcome']
    exact .same _
  | error e =>
    rw [FileSystem.stat, FileSystem.stat, houtcome, houtcome']
    exact .same _

theorem isDirectory_eq (h : DifferAt place fs fs') (p : Path) :
    fs'.isDirectory p = fs.isDirectory p := by
  have hstat := h.stat p
  rw [isDirectory, isDirectory]
  generalize fs.stat p = outcome at hstat
  generalize fs'.stat p = outcome' at hstat
  cases hstat with
  | same => rfl
  | dirs => rfl
  | noDirectory hfound hfound' => cases hfound <;> cases hfound' <;> rfl

/-! ### Resolution -/

lemma linkAt?_eq (h : DifferAt place fs fs') : fs'.linkAt? = fs.linkAt? := by
  have hlink : ∀ {fs fs' : FileSystem} {there : Place} {target : String}, DifferAt place fs fs' →
      fs.at? there = some (.link target) → fs'.at? there = some (.link target) := by
    intro fs fs' there target h hat
    have hne : there ≠ place := by
      rintro rfl
      obtain ⟨bytes, hfile⟩ := h.fileAt _ hat
      cases hfile
    rcases h.at?_eq_or_dirs hne with hsame | ⟨⟨entries, hdir⟩, -⟩
    · exact hsame.trans hat
    · cases hat.symm.trans hdir
  funext way
  have hplace : fs'.placeOf? way = fs.placeOf? way := by
    simp only [placeOf?, above?, h.cwd, h.lost]
  rw [linkAt?, linkAt?, hplace]
  split
  · rfl
  · cases fs.placeOf? way with
    | none => rfl
    | some there =>
      simp only [Option.bind_some]
      split
      · next target hat => rw [hlink h.symm hat]
      · next hnot =>
        split
        · next target hat => exact absurd (hlink h hat) (hnot target)
        · rfl

theorem resolve_eq (h : DifferAt place fs fs') (p : Path) : fs'.resolve p = fs.resolve p := by
  have hway : fs'.resolveWay p = fs.resolveWay p := by
    simp only [resolveWay, resolveFrom_congr h.linkAt?_eq]
  have habsolute : fs'.absolutePath = fs.absolutePath := by
    funext way
    simp only [absolutePath, workingDirectory, h.cwd, h.lost]
  rw [resolve, resolve, hway, habsolute]
  refine congrArg (_ >>= ·) (funext fun way => congrArg (_ >>= ·) (funext fun resolved => ?_))
  have hstat := h.stat resolved
  generalize fs.stat resolved = outcome at hstat
  generalize fs'.stat resolved = outcome' at hstat
  cases hstat with
  | same => rfl
  | dirs => rfl
  | noDirectory hfound hfound' => cases hfound <;> cases hfound' <;> rfl

end DifferAt

end FileSystem

end Sidebar
