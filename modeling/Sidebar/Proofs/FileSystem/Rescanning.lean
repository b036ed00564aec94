import Sidebar.Proofs.FileSystem.Scanning
import Sidebar.Proofs.Tree.Within
import Mathlib.Data.String.Basic

/-!
# Scanning again

A directory that has grown is scanned as a larger tree: display order puts the new entries between
the old ones and keeps those in their order.
-/

namespace Sidebar

/-! ### Sorting -/

section Sorting

variable {α : Type} {le : α → α → Bool}

/-- What stands in front of others is sorted behind those that must precede it. -/
lemma exists_mergeSort_cons (trans : ∀ a b c, le a b → le b c → le a c)
    (total : ∀ a b, le a b || le b a) (a : α) (l : List α) :
    ∃ front back, (a :: l).mergeSort le = front ++ a :: back ∧ l.mergeSort le = front ++ back ∧
      (∀ b ∈ front, le a b = false) ∧ ∀ b ∈ back, le a b = true := by
  obtain ⟨front, back, hsort, hrest, hfront⟩ := List.mergeSort_cons trans total a l
  refine ⟨front, back, hsort, hrest, fun b hb => by simpa using hfront b hb, ?_⟩
  have hsorted := List.pairwise_mergeSort trans total (a :: l)
  rw [hsort] at hsorted
  exact (List.pairwise_cons.mp (List.pairwise_append.mp hsorted).2.1).1

end Sorting

/-! ### Display order -/

section DisplayOrder

variable {dir₁ dir₂ dir₃ : Bool} {name₁ name₂ name₃ : String}

lemma siblingsLe_trans (h : siblingsLe dir₁ name₁ dir₂ name₂)
    (h' : siblingsLe dir₂ name₂ dir₃ name₃) : siblingsLe dir₁ name₁ dir₃ name₃ := by
  rw [siblingsLe] at *
  split at h
  · next hdir =>
    split at h'
    · next hdir' =>
      rw [if_pos (hdir.trans hdir')]
      exact decide_eq_true ((of_decide_eq_true h).trans (of_decide_eq_true h'))
    · next hdir' =>
      rw [if_neg (hdir ▸ hdir'), hdir]
      exact h'
  · next hdir =>
    have hfile : dir₂ = false := by rw [h] at hdir; simpa using Ne.symm hdir
    split at h'
    · next hdir' => rwa [if_neg (hdir' ▸ hdir)]
    · rw [hfile] at h'
      cases h'

variable (dir₁ dir₂ name₁ name₂) in
lemma siblingsLe_total : siblingsLe dir₁ name₁ dir₂ name₂ || siblingsLe dir₂ name₂ dir₁ name₁ := by
  rw [Bool.or_eq_true, siblingsLe, siblingsLe]
  by_cases hdir : dir₁ = dir₂
  · rw [if_pos hdir, if_pos hdir.symm, decide_eq_true_iff, decide_eq_true_iff]
    exact le_total _ _
  · rw [if_neg hdir, if_neg (Ne.symm hdir)]
    cases h : dir₁ with
    | true => exact .inl rfl
    | false => exact .inr (by simpa [h] using Ne.symm hdir)

end DisplayOrder

namespace Entry

/-- The entry may stand in front of the other one. -/
def siblingLe (a b : Entry) : Bool := siblingsLe a.isDir a.name b.isDir b.name

lemma siblingLe_trans (a b c : Entry) (hab : a.siblingLe b) (hbc : b.siblingLe c) :
    a.siblingLe c :=
  siblingsLe_trans hab hbc

lemma siblingLe_total (a b : Entry) : a.siblingLe b || b.siblingLe a :=
  siblingsLe_total a.isDir b.isDir a.name b.name

lemma sortEntries_cons (entry : Entry) (rest : List Entry) :
    ∃ front back, sortEntries (entry :: rest) = front ++ entry :: back ∧
      sortEntries rest = front ++ back ∧ (∀ e ∈ front, entry.siblingLe e = false) ∧
      ∀ e ∈ back, entry.siblingLe e = true :=
  exists_mergeSort_cons siblingLe_trans siblingLe_total entry rest

/-! ### Sorting larger lists -/

lemma Within.siblingLe_eq {a a' b b' : Entry} (ha : Within a a') (hb : Within b b') :
    a.siblingLe b = a'.siblingLe b' := by
  cases ha <;> cases hb <;> rfl

namespace WithinAll

lemma exists_of_mem {entries entries' : List Entry} (h : WithinAll entries entries') {e : Entry}
    (he : e ∈ entries) : ∃ e' ∈ entries', Within e e' := by
  induction entries' generalizing entries with
  | nil =>
    cases h
    exact absurd he List.not_mem_nil
  | cons entry' rest' ih =>
    cases h with
    | skip _ within =>
      obtain ⟨e', he', hwithin⟩ := ih within he
      exact ⟨e', List.mem_cons_of_mem _ he', hwithin⟩
    | keep within withinRest =>
      rcases List.mem_cons.mp he with rfl | he
      · exact ⟨entry', List.mem_cons_self, within⟩
      · obtain ⟨e', he', hwithin⟩ := ih withinRest he
        exact ⟨e', List.mem_cons_of_mem _ he', hwithin⟩

/-- More entries may be put anywhere. -/
lemma insert_skip {entries front back : List Entry} (h : WithinAll entries (front ++ back))
    (added : Entry) : WithinAll entries (front ++ added :: back) := by
  induction front generalizing entries with
  | nil => exact skip added h
  | cons e front ih =>
    cases h with
    | skip _ within => exact skip e (ih within)
    | keep within withinRest => exact keep within (ih withinRest)

/-- An entry and what it has become are put at corresponding places when they are put behind the
entries that must precede them. -/
lemma insert_keep {front back front' back' : List Entry}
    (h : WithinAll (front ++ back) (front' ++ back')) {entry entry' : Entry}
    (hentry : Within entry entry') (hfront : ∀ e ∈ front, entry.siblingLe e = false)
    (hback : ∀ e ∈ back, entry.siblingLe e = true)
    (hfront' : ∀ e ∈ front', entry'.siblingLe e = false)
    (hback' : ∀ e ∈ back', entry'.siblingLe e = true) :
    WithinAll (front ++ entry :: back) (front' ++ entry' :: back') := by
  induction front' generalizing front with
  | nil =>
    cases front with
    | nil => exact keep hentry h
    | cons e front =>
      obtain ⟨e', he', hwithin⟩ := h.exists_of_mem List.mem_cons_self
      have hle := hfront e List.mem_cons_self
      rw [hentry.siblingLe_eq hwithin, hback' e' he'] at hle
      cases hle
  | cons e' front' ih =>
    have hrest' : ∀ e ∈ front', entry'.siblingLe e = false :=
      fun e he => hfront' e (List.mem_cons_of_mem e' he)
    generalize hold : front ++ back = old at h
    cases h with
    | skip _ within =>
      subst hold
      exact skip e' (ih within hfront hrest')
    | @keep e _ rest _ within withinRest =>
      cases front with
      | nil =>
        have hle := hback e (by rw [List.nil_append] at hold; rw [hold]; exact List.mem_cons_self)
        rw [hentry.siblingLe_eq within, hfront' e' List.mem_cons_self] at hle
        cases hle
      | cons other front =>
        obtain ⟨rfl, rfl⟩ := List.cons.inj hold
        exact keep within
          (ih withinRest (fun e he => hfront e (List.mem_cons_of_mem other he)) hrest')

/-- Larger lists are sorted in the same order. -/
theorem sortEntries {entries entries' : List Entry} (h : WithinAll entries entries') :
    WithinAll (sortEntries entries) (sortEntries entries') := by
  induction entries' generalizing entries with
  | nil =>
    cases h
    rw [Sidebar.sortEntries, List.mergeSort_nil]
    exact .nil
  | cons entry' entries' ih =>
    obtain ⟨front', back', hsort', hrest', hfront', hback'⟩ := sortEntries_cons entry' entries'
    rw [hsort']
    cases h with
    | skip _ within =>
      have hwithin := ih within
      rw [hrest'] at hwithin
      exact hwithin.insert_skip entry'
    | @keep entry _ entries _ within withinRest =>
      obtain ⟨front, back, hsort, hrest, hfront, hback⟩ := sortEntries_cons entry entries
      have hwithin := ih withinRest
      rw [hrest, hrest'] at hwithin
      rw [hsort]
      exact hwithin.insert_keep within hfront hback hfront' hback'

end WithinAll

end Entry

/-! ### Grown directories -/

namespace Inode

mutual

theorem GrowsTo.toEntry (showHidden : Bool) (name : String) (p : Path) :
    {inode inode' : Inode} → GrowsTo inode inode' →
      Entry.Within (inode.toEntry showHidden name p) (inode'.toEntry showHidden name p)
  | _, _, .file bytes bytes' => .file name p.toString
  | _, _, .closed entries => .dir name p.toString .nil
  | _, _, .link target => .file name p.toString
  | _, _, @GrowsTo.dir entries entries' grow => by
    rw [Inode.toEntry, Inode.toEntry]
    refine .dir name p.toString ?_
    split
    · exact .nil
    · exact (EntriesGrow.toEntries showHidden p grow).sortEntries

/-- What has grown is shown by a larger tree. -/
theorem EntriesGrow.toEntries (showHidden : Bool) (directory : Path) :
    {entries entries' : List (String × Inode)} → EntriesGrow entries entries' →
      Entry.WithinAll (toEntries showHidden directory entries)
        (toEntries showHidden directory entries')
  | _, _, .added entries linkless => Entry.WithinAll.nil_left _
  | _, _, .entry name grow growRest => by
    have hrest := EntriesGrow.toEntries showHidden directory growRest
    rw [Inode.toEntries, Inode.toEntries]
    split
    · exact .keep (GrowsTo.toEntry showHidden name (directory.child name) grow) hrest
    · exact hrest

end

end Inode

namespace FileSystem

variable {fs fs' : FileSystem}

/-- What has been scanned is found again, in the same order. -/
theorem GrowsTo.scanned (h : fs.GrowsTo fs') (directory : Path) (showHidden : Bool) :
    Entry.WithinAll (fs.scanned directory showHidden) (fs'.scanned directory showHidden) := by
  rw [FileSystem.scanned]
  cases hentries : fs.entriesAt directory with
  | error e => exact .nil_left _
  | ok entries =>
    obtain ⟨inode, hstat, hinode⟩ := bind_eq_ok_iff.mp hentries
    obtain ⟨inode', hstat', hgrow⟩ := h.exists_stat hstat
    cases hgrow with
    | file bytes bytes' => cases hinode
    | closed others => cases hinode
    | link target => cases hinode
    | @dir others others' grow =>
      obtain rfl := Except.ok.inj hinode
      have hentries' : fs'.entriesAt directory = .ok others' := by
        rw [entriesAt, hstat']
        rfl
      rw [FileSystem.scanned, hentries']
      exact (grow.toEntries showHidden directory).sortEntries

/-- Where names are proper, each path stands only once in a scan. -/
theorem Proper.nodup_scanned (h : fs.Proper) (directory : Path) (showHidden : Bool) :
    (Entry.pathsAll (fs.scanned directory showHidden)).Nodup := by
  rw [FileSystem.scanned]
  cases hentries : fs.entriesAt directory with
  | error e => exact List.nodup_nil
  | ok entries =>
    rw [shownBelow, (Entry.pathsAll_sortEntries_perm _).nodup_iff]
    exact Inode.nodup_toEntries showHidden directory entries (h.entriesAt hentries)

end FileSystem

end Sidebar
