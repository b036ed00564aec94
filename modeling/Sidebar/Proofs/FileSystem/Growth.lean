import Sidebar.FileSystem.Basic
import Mathlib.Tactic.Lemma

/-!
# Growing file systems

Writing to files and creating files and directories makes a file system grow: what is there stays
what it is and where it is, but for the bytes of files, and new entries stand behind the old ones of
a directory. No link is new.

Main statement: putting an inode at a place makes a file system grow, unless something of another
kind is there.
-/

namespace Sidebar

namespace Inode

/-- There is no link in or below the inode. -/
def Linkless (inode : Inode) : Prop := ∀ place target, inode.at? place ≠ some (.link target)

mutual

/-- The inode is what the other one has become. -/
inductive GrowsTo : Inode → Inode → Prop
  | file (bytes bytes' : ByteArray) : GrowsTo (.file bytes) (.file bytes')
  | link (target : String) : GrowsTo (.link target) (.link target)
  | dir {entries entries' : List (String × Inode)} (grow : EntriesGrow entries entries') :
      GrowsTo (.dir entries) (.dir entries')
  | closed (entries : List (String × Inode)) : GrowsTo (.closed entries) (.closed entries)

/-- Old entries have become new ones of the same names, and others stand behind them. -/
inductive EntriesGrow : List (String × Inode) → List (String × Inode) → Prop
  | added (entries : List (String × Inode)) (linkless : ∀ entry ∈ entries, entry.2.Linkless) :
      EntriesGrow [] entries
  | entry (name : String) {inode inode' : Inode} {rest rest' : List (String × Inode)}
      (grow : GrowsTo inode inode') (growRest : EntriesGrow rest rest') :
      EntriesGrow ((name, inode) :: rest) ((name, inode') :: rest')

end

/-! ### Inodes without links -/

lemma linkless_file (bytes : ByteArray) : (file bytes).Linkless := by
  intro place target
  cases place <;> simp [at?]

lemma linkless_emptyDir : (dir []).Linkless := by
  intro place target
  cases place <;> simp [at?]

@[simp] lemma at?_nil (inode : Inode) : inode.at? [] = some inode := by
  cases inode <;> rfl

lemma at?_dir_cons (entries : List (String × Inode)) (name : String) (rest : Place) :
    (dir entries).at? (name :: rest) = (entries.lookup name).bind fun child => child.at? rest := by
  rw [at?]
  cases entries.lookup name <;> rfl

/-- Only a directory that can be read leads further. -/
lemma at?_cons_eq_some {inode there : Inode} {name : String} {rest : Place}
    (h : inode.at? (name :: rest) = some there) :
    ∃ entries child, inode = .dir entries ∧ entries.lookup name = some child ∧
      child.at? rest = some there := by
  cases inode with
  | dir entries =>
    rw [at?_dir_cons, Option.bind_eq_some_iff] at h
    obtain ⟨child, hchild, hat⟩ := h
    exact ⟨entries, child, rfl, hchild, hat⟩
  | file bytes => cases h
  | closed entries => cases h
  | link target => cases h

lemma at?_append (inode : Inode) (place rest : Place) :
    inode.at? (place ++ rest) = (inode.at? place).bind fun there => there.at? rest := by
  induction place generalizing inode with
  | nil => rw [List.nil_append, at?_nil, Option.bind_some]
  | cons name place ih =>
    cases inode with
    | dir entries =>
      rw [List.cons_append, at?_dir_cons, at?_dir_cons]
      cases entries.lookup name with
      | none => rfl
      | some child => exact ih child
    | file bytes => rfl
    | closed entries => rfl
    | link target => rfl

lemma mem_of_lookup_eq_some {entries : List (String × Inode)} {name : String} {inode : Inode}
    (h : entries.lookup name = some inode) : (name, inode) ∈ entries := by
  obtain ⟨front, back, rfl, -⟩ := List.lookup_eq_some_iff.mp h
  exact List.mem_append_right front List.mem_cons_self

/-! ### Lookup -/

namespace EntriesGrow

variable {entries entries' : List (String × Inode)}

/-- What is found by a name is found by it later on. -/
lemma exists_lookup (h : EntriesGrow entries entries') {name : String} {inode : Inode}
    (hfind : entries.lookup name = some inode) :
    ∃ inode', entries'.lookup name = some inode' ∧ inode.GrowsTo inode' := by
  induction entries generalizing entries' with
  | nil => simp at hfind
  | cons entry rest ih =>
    cases h with
    | entry other grow growRest =>
      rw [List.lookup_cons] at hfind ⊢
      split at hfind
      · obtain rfl := Option.some.inj hfind
        exact ⟨_, rfl, grow⟩
      · exact ih growRest hfind

/-- What is new holds no links. -/
lemma linkless_of_lookup (h : EntriesGrow entries entries') {name : String} {inode' : Inode}
    (hnone : entries.lookup name = none) (hfind : entries'.lookup name = some inode') :
    inode'.Linkless := by
  induction entries generalizing entries' with
  | nil =>
    cases h with
    | added _ linkless => exact linkless _ (mem_of_lookup_eq_some hfind)
  | cons entry rest ih =>
    cases h with
    | entry other grow growRest =>
      rw [List.lookup_cons] at hnone hfind
      split at hnone
      · simp at hnone
      · next hname =>
        rw [hname] at hfind
        exact ih growRest hnone hfind

end EntriesGrow

namespace GrowsTo

variable {a b c : Inode}

lemma exists_at? (h : GrowsTo a b) {place : Place} {inode : Inode}
    (hat : a.at? place = some inode) :
    ∃ inode', b.at? place = some inode' ∧ inode.GrowsTo inode' := by
  induction place generalizing a b with
  | nil =>
    obtain rfl : a = inode := by simpa using hat
    exact ⟨b, at?_nil b, h⟩
  | cons name rest ih =>
    obtain ⟨entries, child, rfl, hchild, hat⟩ := at?_cons_eq_some hat
    cases h with
    | dir grow =>
      obtain ⟨child', hchild', hgrow⟩ := grow.exists_lookup hchild
      rw [at?_dir_cons, hchild']
      exact ih hgrow hat

/-- Links have always been there. -/
lemma at?_eq_link (h : GrowsTo a b) {place : Place} {target : String}
    (hat : b.at? place = some (.link target)) : a.at? place = some (.link target) := by
  induction place generalizing a b with
  | nil =>
    obtain rfl : b = .link target := by simpa using hat
    cases h
    exact at?_nil _
  | cons name rest ih =>
    obtain ⟨entries', child', rfl, hchild', hat⟩ := at?_cons_eq_some hat
    cases h with
    | @dir entries entries' grow =>
      cases hchild : entries.lookup name with
      | none => exact absurd hat (grow.linkless_of_lookup hchild hchild' rest target)
      | some child =>
        obtain ⟨other, hother, hgrow⟩ := grow.exists_lookup hchild
        obtain rfl := Option.some.inj (hother.symm.trans hchild')
        rw [at?_dir_cons, hchild]
        exact ih hgrow hat

lemma linkless (h : GrowsTo a b) (ha : a.Linkless) : b.Linkless :=
  fun place target hat => ha place target (h.at?_eq_link hat)

end GrowsTo

lemma EntriesGrow.linkless {entries entries' : List (String × Inode)}
    (h : EntriesGrow entries entries') (hentries : ∀ entry ∈ entries, entry.2.Linkless) :
    ∀ entry ∈ entries', entry.2.Linkless := by
  induction entries generalizing entries' with
  | nil =>
    cases h with
    | added _ linkless => exact linkless
  | cons entry rest ih =>
    cases h with
    | entry name grow growRest =>
      intro entry' hentry'
      rcases List.mem_cons.mp hentry' with rfl | hentry'
      · exact grow.linkless (hentries _ List.mem_cons_self)
      · exact ih growRest (fun e he => hentries e (List.mem_cons_of_mem _ he)) entry' hentry'

/-! ### Order -/

mutual

theorem GrowsTo.refl : (inode : Inode) → GrowsTo inode inode
  | .file bytes => .file bytes bytes
  | .link target => .link target
  | .dir entries => .dir (EntriesGrow.refl entries)
  | .closed entries => .closed entries

theorem EntriesGrow.refl : (entries : List (String × Inode)) → EntriesGrow entries entries
  | [] => .added [] fun _ h => absurd h List.not_mem_nil
  | (name, inode) :: rest => .entry name (GrowsTo.refl inode) (EntriesGrow.refl rest)

end

mutual

theorem GrowsTo.trans : {a b c : Inode} → GrowsTo a b → GrowsTo b c → GrowsTo a c
  | _, _, _, .file bytes _, .file _ bytes'' => .file bytes bytes''
  | _, _, _, .link target, .link _ => .link target
  | _, _, _, .dir grow, .dir grow' => .dir (EntriesGrow.trans grow grow')
  | _, _, _, .closed entries, .closed _ => .closed entries

theorem EntriesGrow.trans : {a b c : List (String × Inode)} → EntriesGrow a b → EntriesGrow b c →
    EntriesGrow a c
  | _, _, _, .added _ linkless, grow => .added _ (grow.linkless linkless)
  | _, _, _, .entry name grow growRest, .entry _ grow' growRest' =>
    .entry name (GrowsTo.trans grow grow') (EntriesGrow.trans growRest growRest')

end

/-! ### Changes -/

lemma lookup_alterEntry_self (name : String) (change : Option Inode → Option Inode) {inode : Inode}
    (entries : List (String × Inode)) (h : change (entries.lookup name) = some inode) :
    (alterEntry name change entries).lookup name = some inode := by
  induction entries with
  | nil =>
    rw [List.lookup_nil] at h
    rw [alterEntry, h]
    simp
  | cons entry rest ih =>
    obtain ⟨other, old⟩ := entry
    rw [alterEntry]
    by_cases hname : other = name
    · subst hname
      rw [List.lookup_cons_self] at h
      rw [if_pos rfl, h]
      simp
    · have hb : (name == other) = false := by simpa using Ne.symm hname
      rw [List.lookup_cons, hb] at h
      rw [if_neg hname, List.lookup_cons, hb]
      exact ih h

/-- Changing one entry to what it may grow to. -/
lemma entriesGrow_alterEntry {name : String} {change : Option Inode → Option Inode}
    {entries : List (String × Inode)}
    (hold : ∀ inode, entries.lookup name = some inode →
      ∃ inode', change (some inode) = some inode' ∧ inode.GrowsTo inode')
    (hnew : entries.lookup name = none → ∀ inode, change none = some inode → inode.Linkless) :
    EntriesGrow entries (alterEntry name change entries) := by
  induction entries with
  | nil =>
    refine .added _ fun entry hentry => ?_
    rw [alterEntry, Option.mem_toList, Option.map_eq_some_iff] at hentry
    obtain ⟨inode, hinode, rfl⟩ := hentry
    exact hnew rfl inode hinode
  | cons entry rest ih =>
    obtain ⟨other, old⟩ := entry
    rw [alterEntry]
    by_cases hname : other = name
    · subst hname
      obtain ⟨inode', hinode', hgrow⟩ := hold old List.lookup_cons_self
      rw [if_pos rfl, hinode']
      exact .entry other hgrow (EntriesGrow.refl rest)
    · have hb : (name == other) = false := by simpa using Ne.symm hname
      rw [List.lookup_cons, hb] at hold hnew
      rw [if_neg hname]
      exact .entry other (GrowsTo.refl old) (ih hold hnew)

/-- Putting an inode without links at a place, where there is nothing or what may grow to it. -/
lemma entriesGrow_alterEntries {inode : Inode} (hinode : inode.Linkless) {place : Place}
    {entries : List (String × Inode)}
    (hold : ∀ old, (dir entries).at? place = some old → old.GrowsTo inode) :
    EntriesGrow entries (alterEntries (fun _ => some inode) place entries) := by
  induction place generalizing entries with
  | nil => exact EntriesGrow.refl entries
  | cons name rest ih =>
    simp only [at?_dir_cons] at hold
    cases rest with
    | nil =>
      rw [alterEntries]
      refine entriesGrow_alterEntry (fun old hlookup => ?_) fun _ new hnew => ?_
      · exact ⟨inode, rfl, hold old (by rw [hlookup, Option.bind_some, at?_nil])⟩
      · rwa [← Option.some.inj hnew]
    | cons next rest =>
      rw [alterEntries]
      · refine entriesGrow_alterEntry (fun old hlookup => ?_) fun _ new hnew => by simp at hnew
        cases old with
        | dir children =>
          refine ⟨_, rfl, .dir (ih fun there hthere => hold there ?_)⟩
          rw [hlookup, Option.bind_some, hthere]
        | file bytes => exact ⟨_, rfl, GrowsTo.refl _⟩
        | closed children => exact ⟨_, rfl, GrowsTo.refl _⟩
        | link target => exact ⟨_, rfl, GrowsTo.refl _⟩
      · simp

lemma at?_alterEntries (inode : Inode) (name : String) (place : Place)
    {entries inside : List (String × Inode)} (h : (dir entries).at? place = some (.dir inside)) :
    (dir (alterEntries (fun _ => some inode) (place ++ [name]) entries)).at? (place ++ [name]) =
      some inode := by
  induction place generalizing entries with
  | nil =>
    rw [List.nil_append, alterEntries, at?_dir_cons,
      lookup_alterEntry_self name (fun _ => some inode) entries rfl, Option.bind_some, at?_nil]
  | cons next place ih =>
    rw [at?_dir_cons, Option.bind_eq_some_iff] at h
    obtain ⟨child, hchild, hat⟩ := h
    obtain ⟨children, rfl⟩ : ∃ children, child = .dir children := by
      cases place with
      | nil => exact ⟨inside, by simpa using hat⟩
      | cons other rest =>
        obtain ⟨children, -, rfl, -⟩ := at?_cons_eq_some hat
        exact ⟨children, rfl⟩
    rw [List.cons_append, alterEntries, at?_dir_cons,
      lookup_alterEntry_self next _ entries (by rw [hchild]), Option.bind_some, ih hat]
    simp

end Inode

namespace FileSystem

/-- The file system is what the other one has become. -/
structure GrowsTo (fs fs' : FileSystem) : Prop where
  entries : Inode.EntriesGrow fs.entries fs'.entries
  cwd : fs'.cwd = fs.cwd
  lost : fs'.lost = fs.lost

namespace GrowsTo

variable {fs fs' fs'' : FileSystem}

theorem refl (fs : FileSystem) : fs.GrowsTo fs := ⟨.refl fs.entries, rfl, rfl⟩

theorem trans (h : fs.GrowsTo fs') (h' : fs'.GrowsTo fs'') : fs.GrowsTo fs'' :=
  ⟨h.entries.trans h'.entries, h'.cwd.trans h.cwd, h'.lost.trans h.lost⟩

lemma exists_at? (h : fs.GrowsTo fs') {place : Place} {inode : Inode}
    (hat : fs.at? place = some inode) :
    ∃ inode', fs'.at? place = some inode' ∧ inode.GrowsTo inode' :=
  Inode.GrowsTo.exists_at? (.dir h.entries) hat

lemma at?_eq_link (h : fs.GrowsTo fs') {place : Place} {target : String}
    (hat : fs'.at? place = some (.link target)) : fs.at? place = some (.link target) :=
  Inode.GrowsTo.at?_eq_link (.dir h.entries) hat

end GrowsTo

/-- Putting an inode at a place, unless something of another kind is there. -/
theorem growsTo_set {fs : FileSystem} {place : Place} {inode : Inode} (hinode : inode.Linkless)
    (hold : ∀ old, fs.at? place = some old → old.GrowsTo inode) :
    fs.GrowsTo (fs.set place inode) :=
  ⟨Inode.entriesGrow_alterEntries hinode hold, rfl, rfl⟩

/-- What has been put into a directory is there. -/
theorem at?_set (fs : FileSystem) (inode : Inode) (name : String) {place : Place}
    {inside : List (String × Inode)} (h : fs.at? place = some (.dir inside)) :
    (fs.set (place ++ [name]) inode).at? (place ++ [name]) = some inode :=
  Inode.at?_alterEntries inode name place h

end FileSystem

end Sidebar
