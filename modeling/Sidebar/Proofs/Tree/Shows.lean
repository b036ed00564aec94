import Sidebar.Proofs.Tree.WellFormed

/-!
# What a forest shows

A forest in use is that of its snapshot, but for the directories that have been opened. Without its
open marks and the number of its build it is the forest that any build makes of the same entries.

This is the invariant that carries the others: every such forest is well-formed, since each of its
rows is that of an entry.
-/

namespace Sidebar

namespace Node

/-- The row of a node without the number of the build and the open mark. -/
def bareRow (n : Node) : Row := { n.row with key := ⟨0, n.tid⟩, isOpen := false }

/-! ### Rows of entries -/

section OfEntries

variable {treeId : String} {build number : Nat} {level : Int} {parentTid : Option String}

lemma children_ofEntry (isLast : Bool) (entry : Entry) :
    (ofEntry treeId build number level parentTid isLast entry).children =
      ofEntries treeId build (number + 1) (level + 1) (some (tidOf treeId number))
        entry.children := by
  cases entry <;> simp [ofEntry, ofEntries, Entry.children]

lemma row_ofEntry (isLast : Bool) (entry : Entry) :
    (ofEntry treeId build number level parentTid isLast entry).row =
      ⟨⟨build, tidOf treeId number⟩, entry.name, entry.path, entry.isDir, level, parentTid, false,
        isLast⟩ := by
  cases entry <;> simp [ofEntry, Entry.name, Entry.path, Entry.isDir]

lemma exists_of_mem_ofEntries {n : Node} {entries : List Entry}
    (h : n ∈ ofEntries treeId build number level parentTid entries) :
    ∃ number' isLast entry, n = ofEntry treeId build number' level parentTid isLast entry := by
  induction entries generalizing number with
  | nil => simp [ofEntries] at h
  | cons entry rest ih =>
    rw [ofEntries, List.mem_cons] at h
    rcases h with rfl | h
    · exact ⟨_, _, _, rfl⟩
    · exact ih h

/-- Each node below that of an entry is that of an entry as well. -/
lemma exists_of_mem_preorder {m n : Node} (hm : m ∈ n.preorder) {isLast : Bool} {entry : Entry}
    (hn : n = ofEntry treeId build number level parentTid isLast entry) :
    ∃ number' level' parentTid' isLast' entry',
      m = ofEntry treeId build number' level' parentTid' isLast' entry' := by
  induction n generalizing number level parentTid isLast entry with
  | node row children ih =>
    rw [preorder, List.mem_cons, mem_preorderAll] at hm
    rcases hm with rfl | ⟨c, hc, hm⟩
    · exact ⟨_, _, _, _, _, hn⟩
    · have hchildren := congrArg Node.children hn
      rw [children_node, children_ofEntry] at hchildren
      obtain ⟨_, _, _, hc'⟩ := exists_of_mem_ofEntries (hchildren ▸ hc)
      exact ih c hc hm hc'

lemma exists_of_mem_rows {n : Node} {entries : List Entry}
    (h : n ∈ preorderAll (ofEntries treeId build number level parentTid entries)) :
    ∃ number' level' parentTid' isLast' entry',
      n = ofEntry treeId build number' level' parentTid' isLast' entry' := by
  obtain ⟨m, hm, hn⟩ := mem_preorderAll.mp h
  obtain ⟨_, _, _, hm'⟩ := exists_of_mem_ofEntries hm
  exact exists_of_mem_preorder hn hm'

lemma lastMarked_ofEntries (entries : List Entry) :
    LastMarked (ofEntries treeId build number level parentTid entries) := by
  intro front n back h
  induction entries generalizing number front with
  | nil => simp [ofEntries] at h
  | cons entry rest ih =>
    rw [ofEntries] at h
    cases front with
    | nil =>
      obtain ⟨rfl, rfl⟩ := List.cons.inj h
      cases rest <;> simp [row_ofEntry, ofEntries]
    | cons m front => exact ih front (List.cons.inj h).2

end OfEntries

/-! ### Bare rows -/

mutual

theorem map_bareRow_ofEntry (treeId : String) (build number : Nat) (level : Int)
    (parentTid : Option String) (isLast : Bool) :
    (entry : Entry) →
      (ofEntry treeId build number level parentTid isLast entry).map bareRow =
        ofEntry treeId 0 number level parentTid isLast entry
  | .file name path => by simp [ofEntry, map, mapAll, bareRow, tid]
  | .dir name path children => by
    simp [ofEntry, map, bareRow, tid, mapAll_bareRow_ofEntries treeId build _ _ _ children]

/-- The nodes of a snapshot are closed, and differ between builds in their number alone. -/
theorem mapAll_bareRow_ofEntries (treeId : String) (build number : Nat) (level : Int)
    (parentTid : Option String) :
    (entries : List Entry) →
      mapAll bareRow (ofEntries treeId build number level parentTid entries) =
        ofEntries treeId 0 number level parentTid entries
  | [] => by simp [ofEntries, mapAll]
  | entry :: rest => by
    simp [ofEntries, mapAll, map_bareRow_ofEntry treeId build _ _ _ _ entry,
      mapAll_bareRow_ofEntries treeId build _ _ _ rest]

end

end Node

open Node

/-- The forest is that of the entries, with some of its expandable nodes open. -/
structure Forest.Shows (treeId : String) (entries : List Entry) (f : Forest) : Prop where
  bare : mapAll bareRow f.roots = Node.ofEntries treeId 0 1 0 none entries
  build : ∀ n ∈ f.rows, n.key.build = f.build
  expandable : ∀ n ∈ f.rows, n.isOpen → n.isExpandable

namespace Forest

/-- The rows of a new build are closed and carry its number. -/
lemma of_mem_rows_ofEntries {treeId : String} {build : Nat} {entries : List Entry} {n : Node}
    (hn : n ∈ (ofEntries treeId build entries).rows) : n.isOpen = false ∧ n.key.build = build := by
  rw [rows_eq_preorderAll] at hn
  obtain ⟨_, _, _, _, _, rfl⟩ := exists_of_mem_rows hn
  simp [isOpen, key, row_ofEntry]

/-- A new build shows its entries. -/
theorem shows_ofEntries (treeId : String) (build : Nat) (entries : List Entry) :
    (ofEntries treeId build entries).Shows treeId entries where
  bare := mapAll_bareRow_ofEntries treeId build 1 0 none entries
  build := fun _ hn => (of_mem_rows_ofEntries hn).2
  expandable := fun _ hn hopen => absurd hopen (by simp [(of_mem_rows_ofEntries hn).1])

/-- An empty forest shows the empty snapshot. -/
theorem shows_empty (treeId : String) : (({} : Forest)).Shows treeId [] :=
  shows_ofEntries treeId 0 []

namespace Shows

variable {treeId : String} {entries : List Entry} {f : Forest}

/-- Opening and closing expandable nodes does not change what a forest shows. -/
theorem map (h : f.Shows treeId entries) {g : Node → Row}
    (hrow : ∀ n ∈ f.rows, ∃ isOpen, g n = { n.row with isOpen := isOpen })
    (hopen : ∀ n ∈ f.rows, (g n).isOpen → n.isExpandable) :
    (f.map g).Shows treeId entries where
  bare := by
    have hbare : f.map (fun n => bareRow (n.map g)) = f.map bareRow := by
      refine map_congr fun n hn => ?_
      obtain ⟨isOpen, hg⟩ := hrow n hn
      simp [bareRow, tid, hg]
    have hmap := (map_map g bareRow f).trans hbare
    exact (congrArg Forest.roots hmap).trans h.bare
  build := by
    intro n hn
    rw [rows_map, List.mem_map] at hn
    obtain ⟨m, hm, rfl⟩ := hn
    obtain ⟨isOpen, hg⟩ := hrow m hm
    simpa [key, hg] using h.build m hm
  expandable := by
    intro n hn hn'
    rw [rows_map, List.mem_map] at hn
    obtain ⟨m, hm, rfl⟩ := hn
    obtain ⟨isOpen, hg⟩ := hrow m hm
    have := hopen m hm (by simpa [Node.isOpen] using hn')
    simpa [isExpandable, hg] using this

/-- Opening or closing the nodes with one identity, where they are expandable. -/
theorem modify (h : f.Shows treeId entries) {key : NodeKey} (isOpen : Bool)
    (hkey : ∀ n ∈ f.rows, n.key = key → n.isExpandable) :
    (f.modify key fun row => { row with isOpen := isOpen }).Shows treeId entries := by
  apply h.map
  · intro n _
    split
    · exact ⟨isOpen, rfl⟩
    · exact ⟨n.row.isOpen, rfl⟩
  · intro n hn hopen
    split at hopen
    · next hn_key => exact hkey n hn hn_key
    · exact h.expandable n hn hopen

theorem expandAll (h : f.Shows treeId entries) (expand : Bool) :
    (f.expandAll expand).Shows treeId entries := by
  apply h.map
  · intro n _
    split
    · exact ⟨expand, rfl⟩
    · exact ⟨n.row.isOpen, rfl⟩
  · intro n hn hopen
    split at hopen
    · next hexpandable => exact hexpandable
    · exact h.expandable n hn hopen

/-- The bare rows are those of the entries. -/
lemma rows_bare (h : f.Shows treeId entries) :
    f.rows.map (Node.map bareRow) = preorderAll (Node.ofEntries treeId 0 1 0 none entries) := by
  rw [rows_eq_preorderAll, ← preorderAll_mapAll, h.bare]

/-- A row without its build and open mark is that of an entry. -/
lemma exists_bare (h : f.Shows treeId entries) {n : Node} (hn : n ∈ f.rows) :
    ∃ number level parentTid isLast entry,
      n.map bareRow = ofEntry treeId 0 number level parentTid isLast entry := by
  have hmem : n.map bareRow ∈ f.rows.map (Node.map bareRow) := List.mem_map_of_mem hn
  rw [h.rows_bare] at hmem
  exact exists_of_mem_rows hmem

lemma tids (h : f.Shows treeId entries) :
    f.rows.map tid = (List.range' 1 f.size).map (tidOf treeId) := by
  have hbare : f.rows.map tid = (f.rows.map (Node.map bareRow)).map tid := by
    simp [Function.comp_def, tid, bareRow]
  have hsize : f.size = Entry.countAll entries := by
    have hlength := congrArg List.length h.rows_bare
    rw [List.length_map, length_rows] at hlength
    rw [hlength, ← List.length_map tid, tids_ofEntries, List.length_map, List.length_range']
  rw [hbare, h.rows_bare, tids_ofEntries, hsize]

/-- What does not look at open marks and the number of the build is the same for all forests that
show the same entries. -/
lemma map_rows_congr {α : Type} {g : Forest} (hf : f.Shows treeId entries)
    (hg : g.Shows treeId entries) (φ : Node → α) (hφ : ∀ n, φ (n.map bareRow) = φ n) :
    f.rows.map φ = g.rows.map φ := by
  have hbare : ∀ ns : List Node, ns.map φ = (ns.map (Node.map bareRow)).map φ := by
    intro ns
    simp [hφ]
  rw [hbare, hbare g.rows, hf.rows_bare, hg.rows_bare]

lemma paths_congr {g : Forest} (hf : f.Shows treeId entries) (hg : g.Shows treeId entries) :
    f.rows.map Node.path = g.rows.map Node.path :=
  hf.map_rows_congr hg Node.path fun n => by simp [Node.path, bareRow]

/-! ### Well-formedness -/

lemma mapAll_bareRow_children {n : Node} {number : Nat} {level : Int} {parentTid : Option String}
    {isLast : Bool} {entry : Entry}
    (hn : n.map bareRow = ofEntry treeId 0 number level parentTid isLast entry) :
    mapAll bareRow n.children =
      Node.ofEntries treeId 0 (number + 1) (level + 1) (some (tidOf treeId number))
        entry.children := by
  rw [← children_map, hn, children_ofEntry]

lemma bareRow_eq {n : Node} {number : Nat} {level : Int} {parentTid : Option String}
    {isLast : Bool} {entry : Entry}
    (hn : n.map bareRow = ofEntry treeId 0 number level parentTid isLast entry) :
    bareRow n =
      ⟨⟨0, tidOf treeId number⟩, entry.name, entry.path, entry.isDir, level, parentTid, false,
        isLast⟩ := by
  rw [← row_map bareRow n, hn, row_ofEntry]

/-- The records of siblings are those of the entries they show. -/
lemma of_mem_siblings {ns : List Node} {number : Nat} {level : Int} {parentTid : Option String}
    {siblings : List Entry}
    (h : mapAll bareRow ns = Node.ofEntries treeId 0 number level parentTid siblings) {n : Node}
    (hn : n ∈ ns) : n.row.level = level ∧ n.row.parentTid = parentTid := by
  have hmem : n.map bareRow ∈ mapAll bareRow ns := by
    rw [mapAll_eq_map]
    exact List.mem_map_of_mem hn
  rw [h] at hmem
  obtain ⟨_, _, _, hn'⟩ := exists_of_mem_ofEntries hmem
  have hrow := bareRow_eq hn'
  exact ⟨congrArg Row.level hrow, congrArg Row.parentTid hrow⟩

lemma lastMarked_siblings {ns : List Node} {number : Nat} {level : Int}
    {parentTid : Option String} {siblings : List Entry}
    (h : mapAll bareRow ns = Node.ofEntries treeId 0 number level parentTid siblings) :
    LastMarked ns := by
  rintro front n back rfl
  have hmarked := @lastMarked_ofEntries treeId 0 number level parentTid siblings
  rw [← h, mapAll_eq_map, List.map_append, List.map_cons] at hmarked
  simpa [bareRow] using hmarked _ _ _ rfl

/-- What shows a snapshot is well-formed. -/
theorem wellFormed (h : f.Shows treeId entries) : f.WellFormed treeId := by
  have hnodup : (f.rows.map tid).Nodup := by
    rw [h.tids]
    exact nodup_tids_range' treeId 1 f.size
  refine
    { tids := h.tids
      found := fun n hn => find?_eq_some_of_nodup tid hnodup hn
      unknown := fun tid htid => List.find?_eq_none.mpr fun n hn => by simpa using htid n hn
      root := fun n hn => of_mem_siblings h.bare hn
      lastRoot := lastMarked_siblings h.bare
      child := ?_
      lastChild := ?_
      file := ?_
      opened := ?_ }
  · intro n hn c hc
    obtain ⟨number, level, parentTid, isLast, entry, hn'⟩ := h.exists_bare hn
    have hrow := bareRow_eq hn'
    obtain ⟨hlevel, hparent⟩ := of_mem_siblings (mapAll_bareRow_children hn') hc
    have hn_level : n.row.level = level := congrArg Row.level hrow
    have hn_tid : n.tid = tidOf treeId number := congrArg (fun r : Row => r.key.tid) hrow
    exact ⟨by rw [hlevel, hn_level], by rw [hparent, hn_tid]⟩
  · intro n hn
    obtain ⟨_, _, _, _, _, hn'⟩ := h.exists_bare hn
    exact lastMarked_siblings (mapAll_bareRow_children hn')
  · intro n hn hfile
    obtain ⟨_, _, _, _, entry, hn'⟩ := h.exists_bare hn
    have hdir : n.row.isDir = entry.isDir := congrArg Row.isDir (bareRow_eq hn')
    have hchildren := mapAll_bareRow_children hn'
    cases entry with
    | file name path => simpa [Entry.children, Node.ofEntries, mapAll_eq_map] using hchildren
    | dir name path children => simp [hdir, Entry.isDir] at hfile
  · intro n hn hopen
    simpa [isExpandable, hasChildren] using h.expandable n hn hopen

end Shows

end Forest

end Sidebar
