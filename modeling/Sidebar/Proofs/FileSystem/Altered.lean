import Sidebar.Proofs.FileSystem.Places

/-!
# Changing what is at one place

A change of the inode at a place is seen at the place and in the directories on the way to it, and
nowhere else. When it only gives other bytes to a file, the entries that show the directories stay
the same.
-/

namespace Sidebar

namespace Inode

/-! ### Changing one entry -/

section Alter

variable {name : String} {change : Option Inode → Option Inode} {entries : List (String × Inode)}

lemma lookup_alterEntry_of_ne {other : String} (h : other ≠ name)
    (change : Option Inode → Option Inode) (entries : List (String × Inode)) :
    (alterEntry name change entries).lookup other = entries.lookup other := by
  have hb : (other == name) = false := by simpa using h
  induction entries with
  | nil =>
    rw [alterEntry]
    cases change none <;> simp [List.lookup_cons, hb]
  | cons entry rest ih =>
    obtain ⟨found, inode⟩ := entry
    rw [alterEntry]
    split
    · next hname =>
      subst hname
      cases change (some inode) <;> simp [List.lookup_cons, hb]
    · rw [List.lookup_cons, List.lookup_cons, ih]

/-- Where names differ, a name finds what its entry has been changed to. -/
lemma lookup_alterEntry (h : (entries.map Prod.fst).Nodup) :
    (alterEntry name change entries).lookup name = change (entries.lookup name) := by
  induction entries with
  | nil =>
    rw [alterEntry, List.lookup_nil]
    cases change none <;> simp
  | cons entry rest ih =>
    obtain ⟨other, inode⟩ := entry
    rw [List.map_cons, List.nodup_cons] at h
    rw [alterEntry]
    split
    · next hname =>
      subst hname
      rw [List.lookup_cons_self]
      cases hchange : change (some inode) with
      | none =>
        have hnone : rest.lookup other = none := by
          rw [Option.eq_none_iff_forall_ne_some]
          intro inode' hlookup
          exact h.1 (List.mem_map.mpr ⟨_, mem_of_lookup_eq_some hlookup, rfl⟩)
        simpa using hnone
      | some inode' => simp
    · next hname =>
      have hb : (name == other) = false := by simpa using Ne.symm hname
      rw [List.lookup_cons, hb, ih h.2, List.lookup_cons, hb]

end Alter

/-! ### Changing the inode at a place -/

section AlterAt

variable {change : Option Inode → Option Inode} {entries : List (String × Inode)}

/-- Beside the way to the place nothing changes. -/
lemma at?_alterEntries_apart (h : (dir entries).Proper) {place there : Place}
    (hbefore : ¬ there <+: place) (hbelow : ¬ place <+: there) :
    (dir (alterEntries change place entries)).at? there = (dir entries).at? there := by
  induction place generalizing entries there with
  | nil => exact absurd List.nil_prefix hbelow
  | cons name rest ih =>
    cases there with
    | nil => exact absurd List.nil_prefix hbefore
    | cons other below =>
      rw [at?_dir_cons, at?_dir_cons]
      by_cases hname : other = name
      · subst hname
        rw [List.cons_prefix_cons, not_and] at hbefore hbelow
        cases rest with
        | nil => exact absurd List.nil_prefix (hbelow rfl)
        | cons next rest =>
          rw [alterEntries, lookup_alterEntry h.1]
          · cases hlookup : entries.lookup other with
            | none => rfl
            | some child =>
              cases child with
              | dir children =>
                have hchildren := (h.2.of_mem (mem_of_lookup_eq_some hlookup)).2
                exact ih hchildren (hbefore rfl) (hbelow rfl)
              | file bytes => rfl
              | closed children => rfl
              | link target => rfl
          · simp
      · cases rest with
        | nil => rw [alterEntries, lookup_alterEntry_of_ne hname]
        | cons next rest =>
          rw [alterEntries, lookup_alterEntry_of_ne hname]
          simp

/-- A directory on the way to the place is changed below. -/
lemma at?_alterEntries_front (h : (dir entries).Proper) {front back : Place}
    {inside : List (String × Inode)} (hat : (dir entries).at? front = some (.dir inside))
    (hback : back ≠ []) :
    (dir (alterEntries change (front ++ back) entries)).at? front =
      some (.dir (alterEntries change back inside)) := by
  induction front generalizing entries with
  | nil =>
    rw [at?_nil] at hat
    cases hat
    rw [List.nil_append, at?_nil]
  | cons name front ih =>
    rw [at?_dir_cons, Option.bind_eq_some_iff] at hat
    obtain ⟨child, hchild, hat⟩ := hat
    have hproper := (h.2.of_mem (mem_of_lookup_eq_some hchild)).2
    obtain ⟨next, rest, hrest⟩ := List.exists_cons_of_ne_nil
      (List.append_ne_nil_of_right_ne_nil front hback)
    obtain ⟨children, rfl⟩ : ∃ children, child = .dir children := by
      cases front with
      | nil => exact ⟨inside, by simpa using hat⟩
      | cons other others =>
        obtain ⟨children, -, rfl, -⟩ := at?_cons_eq_some hat
        exact ⟨children, rfl⟩
    rw [List.cons_append, hrest, alterEntries, at?_dir_cons, lookup_alterEntry h.1, hchild,
      Option.bind_some, ← hrest]
    · exact ih hproper hat
    · simp

/-- The place itself holds what it has been changed to. -/
lemma at?_alterEntries_self (h : (dir entries).Proper) {place : Place} {inode : Inode}
    (hat : (dir entries).at? place = some inode) (hplace : place ≠ []) :
    (dir (alterEntries change place entries)).at? place = change (some inode) := by
  obtain ⟨front, name, rfl⟩ := (List.eq_nil_or_concat' place).resolve_left hplace
  obtain ⟨inside, hfront⟩ := exists_dir_of_at?_append hat (List.cons_ne_nil name [])
  have hinside : (dir inside).Proper := h.at? hfront
  rw [at?_append, hfront, Option.bind_some, at?_dir_cons] at hat
  rw [at?_append, at?_alterEntries_front h hfront (List.cons_ne_nil name []), Option.bind_some,
    at?_dir_cons, alterEntries, lookup_alterEntry hinside.1]
  cases hlookup : inside.lookup name with
  | none =>
    rw [hlookup] at hat
    cases hat
  | some there =>
    rw [hlookup, Option.bind_some, at?_nil] at hat
    obtain rfl := Option.some.inj hat
    cases change (some there) with
    | none => rfl
    | some inode => exact at?_nil inode

/-- Other bytes of a file are not seen in the entries that show a directory. -/
lemma toEntries_alterEntries (h : (dir entries).Proper) {place : Place} {old : ByteArray}
    (hat : (dir entries).at? place = some (.file old)) (bytes : ByteArray) (showHidden : Bool)
    (directory : Path) :
    toEntries showHidden directory (alterEntries (fun _ => some (.file bytes)) place entries) =
      toEntries showHidden directory entries := by
  have hentry : ∀ (name : String) (change : Option Inode → Option Inode) (directory : Path)
      (entries : List (String × Inode)) (inode inode' : Inode),
      entries.lookup name = some inode → change (some inode) = some inode' →
      (∀ p, inode'.toEntry showHidden name p = inode.toEntry showHidden name p) →
      toEntries showHidden directory (alterEntry name change entries) =
        toEntries showHidden directory entries := by
    intro name change directory entries inode inode' hlookup hchange hsame
    induction entries with
    | nil => cases hlookup
    | cons entry rest ih =>
      obtain ⟨other, there⟩ := entry
      rw [alterEntry]
      split
      · next hname =>
        subst hname
        rw [List.lookup_cons_self] at hlookup
        obtain rfl := Option.some.inj hlookup
        simp [hchange, toEntries, hsame]
      · next hname =>
        have hb : (name == other) = false := by simpa using Ne.symm hname
        rw [List.lookup_cons, hb] at hlookup
        rw [toEntries, toEntries, ih hlookup]
  induction place generalizing entries directory with
  | nil => cases hat
  | cons name rest ih =>
    rw [at?_dir_cons, Option.bind_eq_some_iff] at hat
    obtain ⟨child, hchild, hat⟩ := hat
    cases rest with
    | nil =>
      rw [at?_nil] at hat
      obtain rfl := Option.some.inj hat
      exact hentry name _ directory entries _ _ hchild rfl fun p => rfl
    | cons next rest =>
      obtain ⟨children, -, rfl, -⟩ := at?_cons_eq_some hat
      have hchildren := (h.2.of_mem (mem_of_lookup_eq_some hchild)).2
      rw [alterEntries]
      · refine hentry name _ directory entries _ _ hchild rfl fun p => ?_
        rw [toEntry, toEntry, ih hchildren hat]
      · simp

end AlterAt

end Inode

end Sidebar
