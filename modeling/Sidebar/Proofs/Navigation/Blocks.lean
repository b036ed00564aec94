import Sidebar.Proofs.Navigation.Behind
import Sidebar.Proofs.Navigation.Ends

/-!
# Subtrees in the list of rows

Rows are listed by working off a stack of pending nodes: the top node is listed, and its children go
onto the stack in its place, the first of them on top. At every turn the subtrees of the pending
nodes are what is still to be listed, one after the other from the top down. So any nodes are listed
subtree by subtree, also where one of them is repeated or lies below another.

In the list of a whole forest the subtree of a row is one block, and it is known by the parents that
rows name.
-/

namespace Sidebar

open Node

namespace Node

/-! ### The stack of pending nodes -/

lemma sizeAll_reverse (ns : List Node) : sizeAll ns.reverse = sizeAll ns := by
  induction ns with
  | nil => rfl
  | cons n rest ih =>
    rw [List.reverse_cons, sizeAll_append, ih, sizeAll, sizeAll, sizeAll, Nat.add_zero,
      Nat.add_comm]

/-- Works off a stack of pending nodes, of which the last one is the top, behind the rows that are
listed already. -/
def unstack (listed stack : List Node) : List Node :=
  match _ : stack.getLast? with
  | none => listed
  | some n => unstack (listed ++ [n]) (stack.dropLast ++ n.children.reverse)
termination_by sizeAll stack
decreasing_by
  have hsize := congrArg sizeAll (List.dropLast_append_getLast? n ‹_›)
  have hchildren := sizeAll_children_lt n
  simp only [sizeAll_append, sizeAll_reverse, sizeAll] at hsize ⊢
  omega

lemma preorderAll_eq_flatMap (ns : List Node) : preorderAll ns = ns.flatMap preorder := by
  induction ns with
  | nil => rfl
  | cons n rest ih => rw [preorderAll, ih, List.flatMap_cons]

/-- The rows listed so far and the subtrees of the pending nodes make up the same list at every
turn. -/
theorem unstack_eq (listed stack : List Node) :
    unstack listed stack = listed ++ stack.reverse.flatMap preorder := by
  fun_induction unstack listed stack with
  | case1 listed stack hempty =>
    rw [List.getLast?_eq_none_iff.mp hempty, List.reverse_nil, List.flatMap_nil, List.append_nil]
  | case2 listed stack n htop ih =>
    obtain ⟨rest, rfl⟩ : ∃ rest, stack = rest ++ [n] :=
      ⟨_, (List.dropLast_append_getLast? n htop).symm⟩
    rw [ih, List.dropLast_concat, List.reverse_append, List.reverse_append, List.reverse_reverse,
      List.reverse_singleton, List.flatMap_append, List.flatMap_append, List.flatMap_singleton,
      preorder_eq, preorderAll_eq_flatMap, List.append_assoc, List.singleton_append,
      List.cons_append]

/-- Any nodes are listed subtree by subtree. -/
lemma flatten_eq_flatMap (ns : List Node) : flatten ns = ns.flatMap preorder := by
  rw [flatten_eq_preorderAll, preorderAll_eq_flatMap]

lemma unstack_reverse (ns : List Node) : unstack [] ns.reverse = flatten ns := by
  rw [unstack_eq, List.reverse_reverse, List.nil_append, flatten_eq_flatMap]

lemma flatten_singleton (n : Node) : flatten [n] = n.preorder := by
  rw [flatten_eq_flatMap, List.flatMap_singleton]

end Node

/-! ### The block of a subtree -/

namespace Forest

/-- The rows between `front` and `back` are those of a subtree. They stand nowhere else, and are its
top and the rows that have the top as an ancestor. -/
structure IsBlock (f : Forest) (n : Node) (front back : List Node) : Prop where
  rows : f.rows = front ++ flatten [n] ++ back
  outside : ∀ m ∈ front ++ back, m ∉ flatten [n]
  below : ∀ m ∈ f.rows, m ∈ flatten [n] ↔ m = n ∨ f.Ancestor n m

variable {treeId : String} {f : Forest} {n : Node}

/-- The subtree of every row is one block. -/
theorem WellFormed.exists_isBlock (h : f.WellFormed treeId) (hn : n ∈ f.rows) :
    ∃ front back, f.IsBlock n front back := by
  obtain ⟨front, hrows⟩ := h.exists_rows_eq hn
  rw [← flatten_singleton] at hrows
  refine ⟨front, f.rowsBehind n, hrows, fun m hm hblock => ?_, fun m hm => ?_⟩
  · have hnodup := h.nodup_rows
    rw [hrows, List.nodup_append] at hnodup
    obtain ⟨hfront, -, hback⟩ := hnodup
    rcases List.mem_append.mp hm with hm | hm
    · exact (List.nodup_append.mp hfront).2.2 m hm m hblock rfl
    · exact hback m (List.mem_append_right _ hblock) m hm rfl
  · rw [flatten_singleton, preorder_eq, List.mem_cons, h.ancestor_iff hm, and_iff_right hn]

end Forest

namespace Workbench

variable {treeId : String} {w : Workbench}

/-- In every reachable tree any list of nodes is worked off to the subtrees of its nodes, each in
pre-order, one after the other. The rows of a single node are one block in the list of all rows,
which holds the node and just those rows that come to it on the way up from parent to parent. -/
theorem Reachable.flatten_eq_subtrees (h : w.Reachable treeId) :
    (∀ ns : List Node, flatten ns = ns.flatMap preorder ∧ unstack [] ns.reverse = flatten ns) ∧
    ∀ n ∈ w.store.forest.rows, ∃ front back, w.store.forest.IsBlock n front back :=
  ⟨fun ns => ⟨flatten_eq_flatMap ns, unstack_reverse ns⟩,
    fun _ hn => h.sound.wellFormed.exists_isBlock hn⟩

/-- The closed directory is listed, the one that it lies in, and the closed one once more. The file
in it is the other row of its block. -/
theorem flatten_eq_subtrees_fourRows :
    fourRows.Reachable "files" ∧
      (unstack [] [closedDirectory, openDirectory, closedDirectory].reverse).map Node.path =
        ["/a/b", "/a/b/x", "/a", "/a/b", "/a/b/x", "/a/c", "/a/b", "/a/b/x"] ∧
      closedDirectory ∈ fourRows.store.forest.rows ∧
      (∃ front back, fourRows.store.forest.IsBlock closedDirectory front back) ∧
      ∃ file ∈ fourRows.store.forest.rows, file.path = "/a/b/x" ∧
        fourRows.store.forest.Ancestor closedDirectory file := by
  have hreach : fourRows.Reachable "files" := ⟨_, _, rfl⟩
  have hrow : closedDirectory ∈ fourRows.store.forest.rows := by decide +kernel
  obtain ⟨hlist, hblocks⟩ := Reachable.flatten_eq_subtrees hreach
  obtain ⟨front, back, hblock⟩ := hblocks closedDirectory hrow
  refine ⟨hreach, ?_, hrow, ⟨front, back, hblock⟩, ?_⟩
  · rw [(hlist _).2, (hlist _).1]
    decide +kernel
  · obtain ⟨file, hfile, hpath, hbelow⟩ : ∃ file ∈ fourRows.store.forest.rows,
        file.path = "/a/b/x" ∧ file ∈ flatten [closedDirectory] := by
      decide +kernel
    refine ⟨file, hfile, hpath, ((hblock.below file hfile).mp hbelow).resolve_left ?_⟩
    rintro rfl
    exact absurd hpath (by decide)

end Workbench

end Sidebar
