import Sidebar.Proofs.Store.Sound
import Sidebar.Proofs.Tree.Visible

/-!
# One open mark

Opening or closing a node changes its mark and nothing else, in the tree or in the forests of
earlier builds. The node keeps its position, so marking it again is marking it once, and marking it
as it is changes nothing.
-/

namespace Sidebar

open Node

namespace Node

/-- The node with the given mark; the nodes below it keep theirs. -/
def withMark (isOpen : Bool) (n : Node) : Node := .node { n.row with isOpen := isOpen } n.children

section WithMark

variable (isOpen : Bool) (n : Node)

@[simp] lemma row_withMark : (n.withMark isOpen).row = { n.row with isOpen := isOpen } := rfl

@[simp] lemma key_withMark : (n.withMark isOpen).key = n.key := rfl

@[simp] lemma isOpen_withMark : (n.withMark isOpen).isOpen = isOpen := rfl

@[simp] lemma withMark_isOpen : n.withMark n.isOpen = n := by
  cases n
  rfl

end WithMark

lemma mapAll_append (g : Node → Row) (ns ms : List Node) :
    mapAll g (ns ++ ms) = mapAll g ns ++ mapAll g ms := by
  simp only [mapAll_eq_map, List.map_append]

/-- A change that keeps all rows changes nothing. -/
lemma mapAll_eq_self {g : Node → Row} {ns : List Node} (h : ∀ m ∈ preorderAll ns, g m = m.row) :
    mapAll g ns = ns := by
  rw [mapAll_eq_map]
  refine (List.map_congr_left fun n hn => ?_).trans (List.map_id' ns)
  exact (map_congr n fun m hm => h m (mem_preorderAll.mpr ⟨n, hn, hm⟩)).trans (map_row n)

lemma map_eq_node {g : Node → Row} {n : Node} (h : ∀ m ∈ preorderAll n.children, g m = m.row) :
    n.map g = .node (g n) n.children := by
  cases n
  exact congrArg (Node.node _) (mapAll_eq_self h)

end Node

/-! ### Marks and positions -/

namespace Position

/-- A change of rows that keeps those in front of a node and behind it only changes the node. -/
lemma mapAll_fill {g : Node → Row} {p : Position} {n : Node}
    (hbefore : ∀ m ∈ p.before preorderAll n, g m = m.row)
    (hbehind : ∀ m ∈ p.behind preorderAll, g m = m.row) :
    mapAll g (p.fill n) = p.fill (n.map g) := by
  induction p generalizing n with
  | root front back =>
    rw [fill, mapAll_append, mapAll, mapAll_eq_self hbefore, mapAll_eq_self hbehind, fill]
  | child front back parent up ih =>
    -- the parent keeps its row, and fills the gap above
    simp only [before, behind, List.mem_append, List.mem_cons] at hbefore hbehind
    have hfront := mapAll_eq_self fun m hm => hbefore m (Or.inr (Or.inr hm))
    have hback := mapAll_eq_self fun m hm => hbehind m (Or.inl hm)
    have hparent := hbefore _ (Or.inr (Or.inl rfl))
    rw [fill, ih (fun m hm => hbefore m (Or.inl hm)) fun m hm => hbehind m (Or.inr hm), fill, map,
      hparent, mapAll_append, mapAll, hfront, hback]
    rfl

end Position

namespace Forest

/-- The forest with the given mark at the nodes with an identity. -/
def withMark (key : NodeKey) (isOpen : Bool) (f : Forest) : Forest :=
  f.modify key fun row => { row with isOpen := isOpen }

@[simp] lemma build_withMark (key : NodeKey) (isOpen : Bool) (f : Forest) :
    (f.withMark key isOpen).build = f.build := rfl

/-- Where no row has the identity, nothing is marked. -/
lemma withMark_eq_self {f : Forest} {key : NodeKey} (h : ∀ n ∈ f.rows, n.key ≠ key)
    (isOpen : Bool) : f.withMark key isOpen = f :=
  (map_congr fun n hn => if_neg (h n hn)).trans f.map_row

/-- Of two marks the second one stays. -/
lemma withMark_withMark (key : NodeKey) (isOpen again : Bool) (f : Forest) :
    (f.withMark key isOpen).withMark key again = f.withMark key again := by
  rw [withMark, withMark, modify, modify, map_map]
  refine map_congr fun n _ => ?_
  simp only [Node.key, row_map]
  by_cases hkey : n.row.key = key <;> simp [hkey]

variable {treeId : String} {f : Forest} {p : Position} {n : Node}

/-- The marked node keeps its position, and all around it stays as it was. -/
theorem WellFormed.roots_withMark (h : f.WellFormed treeId) (hfill : f.roots = p.fill n)
    (isOpen : Bool) : (f.withMark n.key isOpen).roots = p.fill (n.withMark isOpen) := by
  have hnodup := h.nodup_tids
  rw [Position.rows_eq_of_fill hfill, preorder_eq, List.append_assoc, List.cons_append,
    List.map_append, List.map_cons, List.nodup_middle, List.nodup_cons, ← List.map_append] at hnodup
  have hother : ∀ m ∈ p.before preorderAll n ++ (preorderAll n.children ++ p.behind preorderAll),
      (if m.key = n.key then { m.row with isOpen := isOpen } else m.row) = m.row := by
    intro m hm
    refine if_neg fun hkey => hnodup.1 ?_
    have htid : m.tid = n.tid := congrArg NodeKey.tid hkey
    exact htid ▸ List.mem_map_of_mem hm
  simp only [List.forall_mem_append] at hother
  rw [withMark, modify, map, hfill, Position.mapAll_fill hother.1 hother.2.2,
    map_eq_node hother.2.1, if_pos rfl]
  rfl

lemma WellFormed.withMark_mem_rows (h : f.WellFormed treeId) (hn : n ∈ f.rows) (isOpen : Bool) :
    n.withMark isOpen ∈ (f.withMark n.key isOpen).rows := by
  obtain ⟨p, hfill⟩ := Position.exists_fill_of_mem_rows hn
  exact Position.mem_rows_of_fill (h.roots_withMark hfill isOpen)

/-- The rows after a node has been marked. -/
lemma WellFormed.rows_withMark (h : f.WellFormed treeId) (hn : n ∈ f.rows) (isOpen : Bool) :
    (f.withMark n.key isOpen).rows.map Node.row =
      f.rows.map fun m => if m = n then { m.row with isOpen := isOpen } else m.row := by
  rw [withMark, modify, rows_map, List.map_map]
  refine List.map_congr_left fun m hm => ?_
  have hkey : m.key = n.key ↔ m = n :=
    ⟨fun hkey => h.eq_of_tid_eq hm hn (congrArg NodeKey.tid hkey), congrArg Node.key⟩
  simp only [Function.comp_apply, row_map, hkey]

lemma WellFormed.withMark_isOpen (h : f.WellFormed treeId) (hn : n ∈ f.rows) :
    f.withMark n.key n.isOpen = f := by
  obtain ⟨p, hfill⟩ := Position.exists_fill_of_mem_rows hn
  have hroots : (f.withMark n.key n.isOpen).roots = f.roots := by
    rw [h.roots_withMark hfill, Node.withMark_isOpen, hfill]
  exact congrArg (Forest.mk f.build) hroots

end Forest

/-! ### Marks in the store -/

namespace Store.Sound

variable {treeId : String} {s : Store} {n : Node}

/-- Only the tree changes; no node of an earlier build has the identity of a row. -/
lemma modify_eq (h : s.Sound treeId) (hn : n ∈ s.forest.rows) (isOpen : Bool) :
    s.modify n.key (fun row => { row with isOpen := isOpen }) =
      { s with forest := s.forest.withMark n.key isOpen } := by
  have hretired : ∀ f ∈ s.retired, f.withMark n.key isOpen = f := by
    intro f hf
    obtain ⟨_, hshows⟩ := h.exists_shows
    obtain ⟨_, hshows'⟩ := h.shows f (List.mem_cons_of_mem _ hf)
    have hlt : f.build < s.forest.build := (List.pairwise_cons.mp h.builds).1 f hf
    refine Forest.withMark_eq_self (fun m hm hkey => ?_) isOpen
    rw [← hshows.build n hn, ← hshows'.build m hm, hkey] at hlt
    exact Nat.lt_irrefl _ hlt
  have hmap : s.retired.map (Forest.withMark n.key isOpen) = s.retired :=
    (List.map_congr_left hretired).trans (List.map_id' s.retired)
  rw [modify]
  exact congrArg (fun retired =>
    ({ s with forest := s.forest.withMark n.key isOpen, retired := retired } : Store)) hmap

/-- A row with children gets the given mark, or else the other one. -/
lemma expand_eq (h : s.Sound treeId) (hn : n ∈ s.forest.rows) (hexpandable : n.isExpandable)
    (expand : Option Bool) : s.expand n expand =
      { s with forest := s.forest.withMark n.key (expand.getD (!n.isOpen)) } := by
  rw [Store.expand, expanded?, if_pos hexpandable]
  exact h.modify_eq hn _

/-- The node as the first toggling leaves it is toggled back by the second one. -/
theorem toggle_toggle (h : s.Sound treeId) (hn : n ∈ s.forest.rows) (hexpandable : n.isExpandable) :
    (s.expand n none).expand (n.withMark (!n.isOpen)) none = s := by
  have hsound := h.expand (holds_of_mem_rows hn) none
  have hfirst := h.expand_eq hn hexpandable none
  have hmember := h.wellFormed.withMark_mem_rows hn (!n.isOpen)
  rw [hfirst] at hsound ⊢
  rw [hsound.expand_eq hmember hexpandable, key_withMark, isOpen_withMark, Option.getD_none,
    Bool.not_not, Option.getD_none, Forest.withMark_withMark, h.wellFormed.withMark_isOpen hn]

end Store.Sound

end Sidebar
