import Sidebar.Proofs.Workbench.Run

/-!
# Nodes that are held

A node that was once in the tree is held for ever: loads put new nodes in front of those that the
store holds, and nothing but its open mark ever changes about a node. So the rows without these
marks can only become more, whatever is done at a workbench.
-/

namespace Sidebar

namespace Store

variable {s : Store} {n : Node}

/-- All rows that the store holds, without their open marks. -/
def heldRows (s : Store) : List Row := s.forests.flatMap Forest.closedRows

lemma mem_heldRows_iff {row : Row} :
    row ∈ s.heldRows ↔ ∃ n, s.Holds n ∧ n.row.closed = row := by
  simp only [heldRows, List.mem_flatMap, Forest.closedRows, List.mem_map, Holds]
  constructor
  · rintro ⟨f, hf, n, hn, hrow⟩
    exact ⟨n, ⟨f, hf, hn⟩, hrow⟩
  · rintro ⟨n, ⟨f, hf, hn⟩, hrow⟩
    exact ⟨f, hf, n, hn, hrow⟩

lemma heldRows_load (s : Store) (entries : List Entry) :
    (s.load entries).heldRows = (s.load entries).forest.closedRows ++ s.heldRows := rfl

lemma heldRows_expand (s : Store) (n : Node) (expand : Option Bool) :
    (s.expand n expand).heldRows = s.heldRows := by
  rw [Store.expand]
  cases expanded? n expand with
  | none => rfl
  | some isOpen =>
    simp only [heldRows, forests, modify, List.flatMap_cons, List.flatMap_map,
      Forest.closedRows_modify]

lemma heldRows_expandAll (s : Store) (expand : Bool) :
    (s.expandAll expand).heldRows = s.heldRows := by
  simp only [heldRows, forests, expandAll, List.flatMap_cons, Forest.closedRows_expandAll]

lemma build_expand (s : Store) (n : Node) (expand : Option Bool) :
    (s.expand n expand).forest.build = s.forest.build := by
  rw [Store.expand]
  cases expanded? n expand <;> rfl

lemma heldRows_expandIn (record : SessionRecord) (s : Store) :
    (record.expandIn s).store.heldRows = s.heldRows :=
  record.expandIn_induction (motive := fun s' => s'.heldRows = s.heldRows) rfl
    fun s' _ n h _ => (heldRows_expand s' n _).trans h

lemma build_expandIn (record : SessionRecord) (s : Store) :
    (record.expandIn s).store.forest.build = s.forest.build :=
  record.expandIn_induction (motive := fun s' => s'.forest.build = s.forest.build) rfl
    fun s' _ n h _ => (build_expand s' n _).trans h

/-- A later store holds what the earlier one holds, and its tree is no older. -/
structure Precedes (s s' : Store) : Prop where
  rows : s.heldRows <:+ s'.heldRows
  build : s.forest.build ≤ s'.forest.build

namespace Precedes

variable {s' s'' : Store}

lemma of_eq (hrows : s'.heldRows = s.heldRows) (hbuild : s'.forest.build = s.forest.build) :
    s.Precedes s' :=
  ⟨hrows ▸ List.suffix_rfl, Nat.le_of_eq hbuild.symm⟩

lemma refl (s : Store) : s.Precedes s := of_eq rfl rfl

lemma trans (h : s.Precedes s') (h' : s'.Precedes s'') : s.Precedes s'' :=
  ⟨h.rows.trans h'.rows, Nat.le_trans h.build h'.build⟩

lemma loadJson {snapshot : Json String} (hload : s.loadJson snapshot = .ok s') : s.Precedes s' := by
  obtain ⟨entries, -, rfl⟩ := exists_load_of_loadJson hload
  refine ⟨?_, Nat.le_succ _⟩
  rw [heldRows_load]
  exact List.suffix_append _ _

/-- A node that is held is held later too, maybe with another open mark. -/
lemma exists_holds (h : s.Precedes s') (hn : s.Holds n) :
    ∃ n', s'.Holds n' ∧ n'.row.closed = n.row.closed :=
  mem_heldRows_iff.mp (h.rows.mem (mem_heldRows_iff.mpr ⟨n, hn, rfl⟩))

end Precedes

end Store

namespace Workbench

theorem precedes_act (w : Workbench) (a : Action) : w.store.Precedes (w.act a).store := by
  have onNode : ∀ key (f : Node → Workbench), (∀ n, w.store.Precedes (f n).store) →
      w.store.Precedes (w.onNode key f).store :=
    fun key f hf => onNode_induction (motive := fun w' => w.store.Precedes w'.store) (.refl _)
      fun n _ => hf n
  have settle : ∀ move, w.store.Precedes (w.settle (w.step move)).store := by
    intro move
    rcases settle_step w move with heq | ⟨n, heq⟩ <;> rw [heq]
    · exact .refl _
    · exact .of_eq rfl rfl
  cases a with
  | load snapshot =>
    rw [act]
    cases hload : w.store.loadJson snapshot with
    | error e => exact .refl _
    | ok store => exact .loadJson hload
  | expand key expand =>
    exact onNode key _ fun n => .of_eq (Store.heldRows_expand ..) (Store.build_expand ..)
  | expandAll expand => exact .of_eq (Store.heldRows_expandAll ..) rfl
  | select key => exact onNode key _ fun n => .of_eq rfl rfl
  | click key => exact onNode key _ fun n => .of_eq rfl rfl
  | rightClick key => exact onNode key _ fun n => .of_eq rfl rfl
  | doubleClick load key => exact onNode key _ fun n => .refl _
  | selectDown => exact settle _
  | selectUp => exact settle _
  | openNode load key => exact onNode key _ fun n => .refl _
  | closeTab tid => exact .refl _
  | setCurrentTab tid => exact .refl _
  | restore record =>
    exact .of_eq (Store.heldRows_expandIn record w.store) (Store.build_expandIn record w.store)
  | restoreWithTabs load record =>
    have hstore := SessionRecord.store_applyTo record load w.store w.tabs
    rw [act, hstore]
    exact .of_eq (Store.heldRows_expandIn record w.store) (Store.build_expandIn record w.store)

lemma Reachable.run {treeId : String} {w : Workbench} (h : w.Reachable treeId)
    (actions : List Action) : (w.run actions).Reachable treeId := by
  obtain ⟨start, before, rfl⟩ := h
  exact ⟨start, before ++ actions, (List.foldl_append).symm⟩

theorem precedes_run (w : Workbench) (actions : List Action) :
    w.store.Precedes (w.run actions).store := by
  induction actions generalizing w with
  | nil => exact .refl _
  | cons a actions ih => exact (w.precedes_act a).trans (ih (w.act a))

end Workbench

end Sidebar
