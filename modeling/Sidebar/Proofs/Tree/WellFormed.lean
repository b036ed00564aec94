import Sidebar.Proofs.Tree.Position

/-!
# Well-formed forests

A forest records its shape several times over: in the lists of children, in the ids, in the parent
that each row names, in the levels and in the marks of last siblings. In a well-formed forest these
records agree, and only directories with children are open.

Main consequence: ids tell nodes apart, so what the forest finds by an id, by a parent or among
siblings is what the position of the node shows.
-/

namespace Sidebar

open Node

/-- Of siblings, exactly the last one is marked as the last. -/
def LastMarked (ns : List Node) : Prop :=
  ∀ front n back, ns = front ++ n :: back → (n.row.isLast ↔ back = [])

/-- The records of a forest agree. -/
structure Forest.WellFormed (treeId : String) (f : Forest) : Prop where
  /-- The rows are numbered in pre-order from one. -/
  tids : f.rows.map tid = (List.range' 1 f.size).map (tidOf treeId)
  /-- Each row is found by its id. -/
  found : ∀ n ∈ f.rows, f.find? n.tid = some n
  /-- No other id leads to a node. -/
  unknown : ∀ tid, (∀ n ∈ f.rows, n.tid ≠ tid) → f.find? tid = none
  root : ∀ n ∈ f.roots, n.row.level = 0 ∧ n.row.parentTid = none
  child : ∀ n ∈ f.rows, ∀ c ∈ n.children,
    c.row.level = n.row.level + 1 ∧ c.row.parentTid = some n.tid
  lastRoot : LastMarked f.roots
  lastChild : ∀ n ∈ f.rows, LastMarked n.children
  file : ∀ n ∈ f.rows, n.row.isDir = false → n.children = []
  opened : ∀ n ∈ f.rows, n.isOpen → n.row.isDir ∧ n.children ≠ []

/-! ### Ids tell nodes apart -/

/-- Ids with different numbers differ. -/
lemma Node.tidOf_injective (treeId : String) : Function.Injective (tidOf treeId) := by
  intro k l h
  have hdigits : Nat.toDigits 10 k = Nat.toDigits 10 l := by
    have := congrArg String.toList h
    simpa [tidOf, Nat.toString_eq_ofList_toDigits] using this
  rw [← Nat.ofDigitChars_ten_toDigits (n := k), hdigits, Nat.ofDigitChars_ten_toDigits]

lemma Node.nodup_tids_range' (treeId : String) (number count : Nat) :
    ((List.range' number count).map (tidOf treeId)).Nodup :=
  List.Nodup.map (tidOf_injective treeId) List.nodup_range'

/-- Where a key tells the items of a list apart, an item is found by its key. -/
lemma find?_eq_some_of_nodup {α β : Type} [DecidableEq β] (key : α → β) {l : List α}
    (h : (l.map key).Nodup) {a : α} (ha : a ∈ l) :
    l.find? (fun x => key x = key a) = some a := by
  induction l with
  | nil => exact absurd ha List.not_mem_nil
  | cons b l ih =>
    rw [List.map_cons, List.nodup_cons] at h
    rcases List.mem_cons.mp ha with rfl | ha
    · simp
    · have hne : key b ≠ key a := fun he => h.1 (he ▸ List.mem_map_of_mem ha)
      rw [List.find?_cons_of_neg (by simpa using hne), ih h.2 ha]

namespace Forest.WellFormed

variable {treeId : String} {f : Forest}

lemma nodup_tids (h : f.WellFormed treeId) : (f.rows.map tid).Nodup := by
  rw [h.tids]
  exact nodup_tids_range' treeId 1 f.size

lemma nodup_rows (h : f.WellFormed treeId) : f.rows.Nodup := h.nodup_tids.of_map

lemma nodup_visibleRows (h : f.WellFormed treeId) : f.visibleRows.Nodup := by
  rw [visibleRows_eq_shownAll]
  exact (shownAll_sublist_preorderAll f.roots).nodup (f.rows_eq_preorderAll ▸ h.nodup_rows)

/-- Nodes with the same id are the same. -/
lemma eq_of_tid_eq (h : f.WellFormed treeId) {n m : Node} (hn : n ∈ f.rows) (hm : m ∈ f.rows)
    (htid : n.tid = m.tid) : n = m := by
  have hfound := h.found n hn
  rw [htid, h.found m hm] at hfound
  exact (Option.some.inj hfound).symm

lemma contains_of_mem_rows (h : f.WellFormed treeId) {n : Node} (hn : n ∈ f.rows) :
    f.contains n := by
  simp [contains, h.found n hn]

/-- Just the rows with children can be opened, since no file has any. -/
lemma isExpandable_iff (h : f.WellFormed treeId) {n : Node} (hn : n ∈ f.rows) :
    n.isExpandable ↔ n.children ≠ [] := by
  cases hdir : n.row.isDir with
  | true => simp [isExpandable, hasChildren, hdir]
  | false => simp [isExpandable, hdir, h.file n hn hdir]

lemma atPath?_eq (h : f.WellFormed treeId) (path : String) :
    f.atPath? path = f.rows.find? fun n => n.path = path := by
  rw [atPath?, tidOfPath?]
  cases hfind : f.rows.find? fun n => n.path = path with
  | none => rfl
  | some n => exact h.found n (List.mem_of_find?_eq_some hfind)

/-- Where paths differ, each row is found at its own path. -/
lemma atPath?_path (h : f.WellFormed treeId) (hpaths : (f.rows.map path).Nodup) {n : Node}
    (hn : n ∈ f.rows) : f.atPath? n.path = some n := by
  rw [h.atPath?_eq]
  exact find?_eq_some_of_nodup path hpaths hn

lemma tidOfPath?_path (h : f.WellFormed treeId) (hpaths : (f.rows.map path).Nodup) {n : Node}
    (hn : n ∈ f.rows) : f.tidOfPath? n.path = some n.tid := by
  have hfind := h.atPath?_path hpaths hn
  rw [h.atPath?_eq] at hfind
  rw [tidOfPath?, hfind, Option.map_some]

end Forest.WellFormed

end Sidebar
