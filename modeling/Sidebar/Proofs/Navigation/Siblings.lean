import Mathlib.Logic.Function.Iterate
import Sidebar.Proofs.Navigation.Ends

/-!
# Siblings

The sibling behind a node and the one in front of it are found in different ways: the first search
is cut short by the mark of last siblings, and both look for the list of siblings under the parent
that the node names. In a well-formed forest the two are converse to each other, and both tell which
nodes stand side by side in a list of siblings.
-/

namespace Sidebar

open Node

namespace Node

lemma sublist_preorderAll (ns : List Node) : ns.Sublist (preorderAll ns) := by
  induction ns with
  | nil => exact List.Sublist.refl _
  | cons n rest ih =>
    rw [preorderAll, preorder_eq, List.cons_append]
    exact (ih.trans (List.sublist_append_right _ _)).cons_cons n

end Node

namespace Forest

/-- The lists of siblings are the list of roots and the lists of children. -/
inductive AreSiblings (f : Forest) : List Node → Prop where
  | roots : f.AreSiblings f.roots
  | children {parent : Node} (hparent : parent ∈ f.rows) : f.AreSiblings parent.children

variable {treeId : String} {f : Forest} {p : Position} {n m : Node} {ns front back : List Node}

/-! ### Lists of siblings and positions -/

/-- A node in a list of siblings stands at the position between the others. -/
lemma AreSiblings.exists_fill (h : f.AreSiblings ns) (hns : ns = front ++ n :: back) :
    ∃ p : Position, f.roots = p.fill n ∧ p.front = front ∧ p.back = back := by
  cases h with
  | roots => exact ⟨.root front back, hns, rfl, rfl⟩
  | @children parent hparent =>
    obtain ⟨up, hfill⟩ := Position.exists_fill_of_mem_rows hparent
    refine ⟨.child front back parent.row up, ?_, rfl, rfl⟩
    rw [Position.fill, ← hns, hfill]
    cases parent
    rfl

lemma areSiblings_fill (hfill : f.roots = p.fill n) : f.AreSiblings (p.front ++ n :: p.back) := by
  cases p with
  | root front back =>
    have hroots : f.roots = front ++ n :: back := hfill
    exact hroots ▸ .roots
  | child front back parent up => exact .children (Position.mem_rows_of_fill (p := up) hfill)

namespace WellFormed

lemma nodup_siblings (h : f.WellFormed treeId) (hns : f.AreSiblings ns) : ns.Nodup := by
  cases hns with
  | roots =>
    have hnodup := h.nodup_rows
    rw [rows_eq_preorderAll] at hnodup
    exact (sublist_preorderAll f.roots).nodup hnodup
  | children hparent => exact (sublist_preorderAll _).nodup (h.nodup_below hparent)

/-! ### The next and the previous sibling -/

/-- The next sibling of a node stands right behind it in a list of siblings. -/
theorem next?_eq_some_iff (h : f.WellFormed treeId) (hn : n ∈ f.rows) :
    f.next? n = some m ↔ ∃ ns, f.AreSiblings ns ∧ [n, m] <:+: ns := by
  constructor
  · intro hnext
    obtain ⟨p, hfill⟩ := Position.exists_fill_of_mem_rows hn
    rw [h.next?_fill hfill] at hnext
    obtain ⟨rest, hback⟩ := List.head?_eq_some_iff.mp hnext
    refine ⟨_, areSiblings_fill hfill, p.front, rest, ?_⟩
    rw [hback]
    simp
  · rintro ⟨ns, hns, front, rest, hpair⟩
    have hcut : ns = front ++ n :: m :: rest := by simp [← hpair]
    obtain ⟨p, hfill, -, hback⟩ := hns.exists_fill hcut
    rw [h.next?_fill hfill, hback]
    rfl

/-- The previous sibling of a node stands right in front of it in a list of siblings. -/
theorem previous?_eq_some_iff (h : f.WellFormed treeId) (hm : m ∈ f.rows) :
    f.previous? m = some n ↔ ∃ ns, f.AreSiblings ns ∧ [n, m] <:+: ns := by
  constructor
  · intro hprevious
    obtain ⟨p, hfill⟩ := Position.exists_fill_of_mem_rows hm
    rw [h.previous?_fill hfill] at hprevious
    obtain ⟨front, hfront⟩ := List.getLast?_eq_some_iff.mp hprevious
    refine ⟨_, areSiblings_fill hfill, front, p.back, ?_⟩
    rw [hfront]
    simp
  · rintro ⟨ns, hns, front, back, hpair⟩
    have hcut : ns = (front ++ [n]) ++ m :: back := by simp [← hpair]
    obtain ⟨p, hfill, hfront, -⟩ := hns.exists_fill hcut
    rw [h.previous?_fill hfill, hfront, List.getLast?_concat]

/-- The mark of last siblings cuts the search short only where it finds nothing. -/
lemma next?_eq_nodeAfter (h : f.WellFormed treeId) (hn : n ∈ f.rows) :
    f.next? n = nodeAfter n.key (f.siblings n) := by
  obtain ⟨p, hfill⟩ := Position.exists_fill_of_mem_rows hn
  rw [h.next?_fill hfill, h.siblings_fill hfill,
    nodeAfter_append fun m hm => h.key_ne_of_mem_front hfill hm]

/-! ### From the first sibling to the last -/

/-- A step to the next sibling is a step in the list. -/
lemma bind_next? (h : f.WellFormed treeId) (hns : f.AreSiblings ns) (i : Nat) :
    ns[i]?.bind f.next? = ns[i + 1]? := by
  cases hi : ns[i]? with
  | none =>
    rw [List.getElem?_eq_none_iff] at hi
    rw [List.getElem?_eq_none (Nat.le_succ_of_le hi), Option.bind_none]
  | some n =>
    obtain ⟨hlength, rfl⟩ := List.getElem?_eq_some_iff.mp hi
    obtain ⟨p, hfill, -, hback⟩ := hns.exists_fill
      ((List.take_append_drop i ns).symm.trans (by rw [List.drop_eq_getElem_cons hlength]))
    rw [Option.bind_some, h.next?_fill hfill, hback, List.head?_drop]

/-- Steps from the first sibling lead along the list, and nowhere behind its end. -/
theorem iterate_next? (h : f.WellFormed treeId) (hns : f.AreSiblings ns) (i : Nat) :
    (fun n? => n?.bind f.next?)^[i] ns.head? = ns[i]? := by
  induction i with
  | zero => exact List.head?_eq_getElem?
  | succ i ih => rw [Function.iterate_succ_apply', ih, h.bind_next? hns]

end WellFormed

end Forest

namespace Workbench

variable {treeId : String} {w : Workbench}

/-- In every reachable tree a row is the next sibling of another one just when that is its previous
sibling, and just when they stand side by side among the children of a row or among the roots. The
mark of last siblings never disagrees with a search of the siblings. From the first of some siblings
the steps to the next one lead to each of them once, in order. -/
theorem Reachable.next_iff_previous (h : w.Reachable treeId) :
    (∀ n ∈ w.store.forest.rows, ∀ m ∈ w.store.forest.rows,
      (w.store.forest.next? n = some m ↔ w.store.forest.previous? m = some n) ∧
      (w.store.forest.next? n = some m ↔
        ∃ ns, w.store.forest.AreSiblings ns ∧ [n, m] <:+: ns)) ∧
    (∀ n ∈ w.store.forest.rows,
      w.store.forest.next? n = nodeAfter n.key (w.store.forest.siblings n)) ∧
    ∀ ns, w.store.forest.AreSiblings ns →
      ns.Nodup ∧ ∀ i, (fun n? => n?.bind w.store.forest.next?)^[i] ns.head? = ns[i]? := by
  have hwell := h.sound.wellFormed
  refine ⟨fun n hn m hm => ?_, fun n hn => hwell.next?_eq_nodeAfter hn, fun ns hns => ?_⟩
  · have hnext := hwell.next?_eq_some_iff (m := m) hn
    exact ⟨hnext.trans (hwell.previous?_eq_some_iff hm).symm, hnext⟩
  · exact ⟨hwell.nodup_siblings hns, hwell.iterate_next? hns⟩

/-- The last child of the open directory of `fourRows`. -/
def lastFile : Node :=
  .node ⟨⟨1, "files_4"⟩, "c", "/a/c", false, 1, some "files_1", false, true⟩ []

/-- The closed directory stands in front of the file. Two steps from it lead behind the file, where
no sibling is. -/
theorem next_iff_previous_fourRows :
    fourRows.Reachable "files" ∧
      closedDirectory ∈ fourRows.store.forest.rows ∧ lastFile ∈ fourRows.store.forest.rows ∧
      fourRows.store.forest.AreSiblings [closedDirectory, lastFile] ∧
      fourRows.store.forest.next? closedDirectory = some lastFile ∧
      fourRows.store.forest.previous? lastFile = some closedDirectory ∧
      (some closedDirectory >>= fourRows.store.forest.next? >>= fourRows.store.forest.next?) =
        none := by
  have hreach : fourRows.Reachable "files" := ⟨_, _, rfl⟩
  have hdirectory : closedDirectory ∈ fourRows.store.forest.rows := by decide +kernel
  have hfile : lastFile ∈ fourRows.store.forest.rows := by decide +kernel
  have hparent : openDirectory ∈ fourRows.store.forest.rows := by decide +kernel
  have hsiblings : fourRows.store.forest.AreSiblings [closedDirectory, lastFile] :=
    .children hparent
  obtain ⟨hpairs, -, hlists⟩ := Reachable.next_iff_previous hreach
  obtain ⟨hconverse, hbeside⟩ := hpairs _ hdirectory _ hfile
  have hnext := hbeside.mpr ⟨_, hsiblings, List.infix_rfl⟩
  exact ⟨hreach, hdirectory, hfile, hsiblings, hnext, hconverse.mp hnext,
    (hlists _ hsiblings).2 2⟩

end Workbench

end Sidebar
