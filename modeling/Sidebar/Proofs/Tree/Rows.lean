import Sidebar.Tree.Forest
import Mathlib.Data.List.Nodup
import Mathlib.Tactic.Lemma

/-!
# Rows of a tree

Induction on nodes, and which nodes the two orders of rows consist of. A change of rows acts on a
list of nodes as `List.map` does, so that two changes in a row are one change.
-/

namespace Sidebar

namespace Node

/-- Induction on a node, with the hypothesis for each of its children. -/
@[induction_eliminator]
theorem childInduction {motive : Node → Prop}
    (node : ∀ row children, (∀ c ∈ children, motive c) → motive (.node row children)) (n : Node) :
    motive n := by
  cases n with
  | node row children => exact node row children fun c _ => childInduction node c

/-! ### Equality -/

mutual

/-- Nodes are equal when their rows are, and the nodes below them. -/
def decEq : (n m : Node) → Decidable (n = m)
  | .node row children, .node row' children' =>
    match instDecidableEqRow row row', decEqAll children children' with
    | isTrue hrow, isTrue hchildren => isTrue (congr (congrArg Node.node hrow) hchildren)
    | isFalse hrow, _ => isFalse fun h => hrow (Node.node.inj h).1
    | _, isFalse hchildren => isFalse fun h => hchildren (Node.node.inj h).2

def decEqAll : (ns ms : List Node) → Decidable (ns = ms)
  | [], [] => isTrue rfl
  | [], _ :: _ => isFalse nofun
  | _ :: _, [] => isFalse nofun
  | n :: ns, m :: ms =>
    match n.decEq m, decEqAll ns ms with
    | isTrue hn, isTrue hns => isTrue (congr (congrArg List.cons hn) hns)
    | isFalse hn, _ => isFalse fun h => hn (List.cons.inj h).1
    | _, isFalse hns => isFalse fun h => hns (List.cons.inj h).2

end

instance : DecidableEq Node := decEq

/-! ### Membership -/

lemma mem_preorderAll {n : Node} {ns : List Node} :
    n ∈ preorderAll ns ↔ ∃ m ∈ ns, n ∈ m.preorder := by
  induction ns with
  | nil => simp [preorderAll]
  | cons m rest ih => simp [preorderAll, ih]

lemma mem_shownAll {n : Node} {ns : List Node} :
    n ∈ shownAll ns ↔ ∃ m ∈ ns, n ∈ m.shown := by
  induction ns with
  | nil => simp [shownAll]
  | cons m rest ih => simp [shownAll, ih]

lemma mem_preorderAll_of_mem {n : Node} {ns : List Node} (h : n ∈ ns) : n ∈ preorderAll ns :=
  mem_preorderAll.mpr ⟨n, h, by simp [preorder_eq]⟩

lemma mem_children_of_mem_shownChildren {n c : Node} (h : c ∈ n.shownChildren) :
    c ∈ n.children := by
  rw [shownChildren] at h
  split at h
  · exact h
  · exact absurd h List.not_mem_nil

lemma shownAll_sublist {ns : List Node} (h : ∀ n ∈ ns, n.shown.Sublist n.preorder) :
    (shownAll ns).Sublist (preorderAll ns) := by
  induction ns with
  | nil => exact List.Sublist.refl _
  | cons n rest ih =>
    rw [shownAll, preorderAll]
    exact (h n List.mem_cons_self).append (ih fun m hm => h m (List.mem_cons_of_mem n hm))

/-- The shown rows are some of all rows, in the same order. -/
lemma shown_sublist_preorder (n : Node) : n.shown.Sublist n.preorder := by
  induction n with
  | node row children ih =>
    rw [shown_eq, preorder_eq]
    refine List.Sublist.cons_cons _ ?_
    rw [shownChildren]
    split
    · exact shownAll_sublist ih
    · exact List.nil_sublist _

lemma shownAll_sublist_preorderAll (ns : List Node) : (shownAll ns).Sublist (preorderAll ns) :=
  shownAll_sublist fun n _ => shown_sublist_preorder n

/-! ### Changing rows -/

lemma mapAll_eq_map (f : Node → Row) (ns : List Node) : mapAll f ns = ns.map (map f) := by
  induction ns with
  | nil => rfl
  | cons n rest ih => rw [mapAll, ih, List.map_cons]

/-- Two changes of rows are one, which computes each row from the outcome of the first. -/
lemma map_map (f g : Node → Row) (n : Node) :
    (n.map f).map g = n.map fun m => g (m.map f) := by
  induction n with
  | node row children ih =>
    simp only [map, mapAll_eq_map, List.map_map]
    exact congrArg (Node.node _) (List.map_congr_left ih)

lemma map_congr {f g : Node → Row} (n : Node) (h : ∀ m ∈ n.preorder, f m = g m) :
    n.map f = n.map g := by
  induction n with
  | node row children ih =>
    simp only [map, mapAll_eq_map]
    rw [h _ (by simp [preorder_eq])]
    refine congrArg (Node.node _) (List.map_congr_left fun c hc => ih c hc fun m hm => h m ?_)
    rw [preorder_eq, children_node]
    exact List.mem_cons_of_mem _ (mem_preorderAll.mpr ⟨c, hc, hm⟩)

lemma map_row (n : Node) : n.map row = n := by
  induction n with
  | node row children ih =>
    simp only [map, mapAll_eq_map, row_node]
    rw [List.map_congr_left ih, List.map_id']

@[simp] lemma hasChildren_map (f : Node → Row) (n : Node) :
    (n.map f).hasChildren = n.hasChildren := by
  simp [hasChildren, mapAll_eq_map]

end Node

/-- The row with its open mark taken away. -/
def Row.closed (row : Row) : Row := { row with isOpen := false }

namespace Forest

@[simp] lemma build_map (g : Node → Row) (f : Forest) : (f.map g).build = f.build := rfl

lemma map_map (g h : Node → Row) (f : Forest) :
    (f.map g).map h = f.map fun n => h (n.map g) := by
  simp only [map, Node.mapAll_eq_map, List.map_map]
  exact congrArg (Forest.mk f.build) (List.map_congr_left fun n _ => Node.map_map g h n)

/-- A change of rows is settled by what it does to the rows of the forest. -/
lemma map_congr {g h : Node → Row} {f : Forest} (hrows : ∀ n ∈ f.rows, g n = h n) :
    f.map g = f.map h := by
  simp only [map, Node.mapAll_eq_map]
  refine congrArg (Forest.mk f.build) (List.map_congr_left fun n hn => Node.map_congr n ?_)
  intro m hm
  refine hrows m ?_
  rw [rows_eq_preorderAll]
  exact Node.mem_preorderAll.mpr ⟨n, hn, hm⟩

lemma map_row (f : Forest) : f.map Node.row = f := by
  simp only [map, Node.mapAll_eq_map]
  rw [List.map_congr_left fun n _ => Node.map_row n, List.map_id']

/-! ### What opening and closing leave as it is -/

/-- The rows without their open marks. -/
def closedRows (f : Forest) : List Row := f.rows.map fun n => n.row.closed

lemma closedRows_map {g : Node → Row} (hg : ∀ n, (g n).closed = n.row.closed) (f : Forest) :
    (f.map g).closedRows = f.closedRows := by
  simp [closedRows, rows_map, Function.comp_def, hg]

lemma closedRows_modify (key : NodeKey) (isOpen : Bool) (f : Forest) :
    (f.modify key fun row => { row with isOpen := isOpen }).closedRows = f.closedRows := by
  apply closedRows_map
  intro n
  split <;> rfl

lemma closedRows_expandAll (expand : Bool) (f : Forest) :
    (f.expandAll expand).closedRows = f.closedRows := by
  apply closedRows_map
  intro n
  split <;> rfl

end Forest

end Sidebar
