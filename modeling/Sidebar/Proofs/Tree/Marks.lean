import Sidebar.Proofs.Tree.Neighbours
import Sidebar.Proofs.Tree.Shows

/-!
# Open marks

Marking a forest anew leaves everything but the open marks as it is. Ids, parents and siblings are
looked up without a glance at the marks, so each lookup finds the node it found before, marked anew.

Where only nodes that can be opened are marked as open, the forest shows the same entries as before.
-/

namespace Sidebar

open Node

namespace Node

/-- The node with its own mark and those below it chosen by `opened`. -/
def remark (opened : Node → Bool) (n : Node) : Node :=
  n.map fun m => { m.row with isOpen := opened m }

section Remark

variable (opened : Node → Bool) (n : Node)

lemma row_remark : (n.remark opened).row = { n.row with isOpen := opened n } :=
  row_map _ n

@[simp] lemma key_remark : (n.remark opened).key = n.key := by
  rw [key, row_remark, key]

@[simp] lemma tid_remark : (n.remark opened).tid = n.tid := by
  rw [tid, row_remark, tid]

@[simp] lemma path_remark : (n.remark opened).path = n.path := by
  rw [path, row_remark, path]

@[simp] lemma level_remark : (n.remark opened).row.level = n.row.level := by
  rw [row_remark]

@[simp] lemma parentTid_remark : (n.remark opened).row.parentTid = n.row.parentTid := by
  rw [row_remark]

@[simp] lemma isLast_remark : (n.remark opened).row.isLast = n.row.isLast := by
  rw [row_remark]

@[simp] lemma children_remark :
    (n.remark opened).children = n.children.map (remark opened) := by
  rw [remark, children_map, mapAll_eq_map]
  rfl

end Remark

end Node

lemma nodeAfter_remark (opened : Node → Bool) (key : NodeKey) (ns : List Node) :
    nodeAfter key (ns.map (remark opened)) = (nodeAfter key ns).map (remark opened) := by
  fun_induction nodeAfter key ns with
  | case1 n next rest hn => simp [nodeAfter, hn]
  | case2 n next rest hn ih => simpa [nodeAfter, hn] using ih
  | case3 ns hns =>
    rcases ns with _ | ⟨n, _ | ⟨next, rest⟩⟩
    · rfl
    · rfl
    · exact absurd rfl (hns n next rest)

namespace Forest

/-- The forest with all open marks chosen anew. -/
def remark (opened : Node → Bool) (f : Forest) : Forest :=
  f.map fun n => { n.row with isOpen := opened n }

section Remark

variable (opened : Node → Bool) (f : Forest)

lemma rows_remark : (f.remark opened).rows = f.rows.map (Node.remark opened) :=
  rows_map _ f

lemma roots_remark : (f.remark opened).roots = f.roots.map (Node.remark opened) :=
  mapAll_eq_map _ f.roots

lemma find?_remark (tid : String) :
    (f.remark opened).find? tid = (f.find? tid).map (Node.remark opened) := by
  rw [find?, rows_remark, List.find?_map, find?]
  simp only [Function.comp_def, tid_remark]

variable (n : Node)

lemma contains_remark : (f.remark opened).contains (n.remark opened) = f.contains n := by
  simp [contains, find?_remark, Option.any_map]

lemma parent?_remark :
    (f.remark opened).parent? (n.remark opened) = (f.parent? n).map (Node.remark opened) := by
  rw [parent?, parentTid_remark, parent?]
  cases n.row.parentTid with
  | none => rfl
  | some parentTid => exact find?_remark opened f parentTid

lemma siblings_remark :
    (f.remark opened).siblings (n.remark opened) = (f.siblings n).map (Node.remark opened) := by
  rw [siblings, parent?_remark, siblings]
  cases f.parent? n with
  | none => exact roots_remark opened f
  | some parent => exact children_remark opened parent

lemma next?_remark :
    (f.remark opened).next? (n.remark opened) = (f.next? n).map (Node.remark opened) := by
  rw [next?, isLast_remark, siblings_remark, key_remark, nodeAfter_remark, next?]
  split <;> rfl

end Remark

/-- The forest with exactly those nodes open that `opened` chooses and that can be opened. -/
def withOpen (opened : Node → Bool) (f : Forest) : Forest :=
  f.remark fun n => n.isExpandable && opened n

namespace Shows

variable {treeId : String} {entries : List Entry} {f : Forest}

/-- Whatever is chosen to be open, the same entries are shown. -/
theorem withOpen (h : f.Shows treeId entries) (opened : Node → Bool) :
    (f.withOpen opened).Shows treeId entries := by
  apply h.map
  · intro n _
    exact ⟨_, rfl⟩
  · intro n _ hopen
    exact ((Bool.and_eq_true _ _).mp hopen).1

end Shows

end Forest

end Sidebar
