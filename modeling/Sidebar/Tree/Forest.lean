import Sidebar.Tree.Node

/-!
# Forests

One build of the tree: its roots, and the lookups that lead from a node to its neighbours. A node is
found by its id, a parent by the id that its child names.
-/

namespace Sidebar

/-- The trees of one build. -/
structure Forest where
  build : Nat := 0
  roots : List Node := []

/-- The node behind the first one with the given identity. -/
def nodeAfter (key : NodeKey) : List Node → Option Node
  | n :: next :: rest => if n.key = key then some next else nodeAfter key (next :: rest)
  | _ => none

/-- The node in front of the first one with the given identity. -/
def nodeBefore (key : NodeKey) : List Node → Option Node
  | previous :: n :: rest =>
    if previous.key = key then none
    else if n.key = key then some previous
    else nodeBefore key (n :: rest)
  | _ => none

namespace Forest

/-- The forest of a snapshot. -/
def ofEntries (treeId : String) (build : Nat) (entries : List Entry) : Forest :=
  ⟨build, Node.ofEntries treeId build 1 0 none entries⟩

/-- All rows, each node in front of its children. -/
def rows (f : Forest) : List Node := Node.flatten f.roots

/-- The rows that are shown. -/
def visibleRows (f : Forest) : List Node := Node.flattenShown f.roots

def size (f : Forest) : Nat := Node.sizeAll f.roots

theorem rows_eq_preorderAll (f : Forest) : f.rows = Node.preorderAll f.roots :=
  Node.flatten_eq_preorderAll f.roots

theorem visibleRows_eq_shownAll (f : Forest) : f.visibleRows = Node.shownAll f.roots :=
  Node.flattenShown_eq_shownAll f.roots

theorem length_rows (f : Forest) : f.rows.length = f.size := by
  rw [rows_eq_preorderAll, Node.length_preorderAll, size]

def find? (f : Forest) (tid : String) : Option Node := f.rows.find? fun n => n.tid = tid

/-- Whether a node belongs to this build. -/
def contains (f : Forest) (n : Node) : Bool := (f.find? n.tid).any fun found => found.key = n.key

def parent? (f : Forest) (n : Node) : Option Node := n.row.parentTid.bind f.find?

/-- The list that a node stands in: the children of its parent, or the roots. -/
def siblings (f : Forest) (n : Node) : List Node :=
  match f.parent? n with
  | some parent => parent.children
  | none => f.roots

/-- The following sibling; a node marked as the last one has none. -/
def next? (f : Forest) (n : Node) : Option Node :=
  if n.row.isLast then none else nodeAfter n.key (f.siblings n)

/-- The preceding sibling. -/
def previous? (f : Forest) (n : Node) : Option Node := nodeBefore n.key (f.siblings n)

/-- The id of the first row with the given path. -/
def tidOfPath? (f : Forest) (path : String) : Option String :=
  (f.rows.find? fun n => n.path = path).map Node.tid

/-- The node that `tidOfPath?` names. -/
def atPath? (f : Forest) (path : String) : Option Node := (f.tidOfPath? path).bind f.find?

/-- The paths of all open nodes, also of those below a closed one. -/
def openPaths (f : Forest) : List String := (f.rows.filter Node.isOpen).map Node.path

/-- Replaces every row by one computed from its node. -/
def map (g : Node → Row) (f : Forest) : Forest := { f with roots := Node.mapAll g f.roots }

theorem rows_map (g : Node → Row) (f : Forest) : (f.map g).rows = f.rows.map (Node.map g) := by
  simp only [rows_eq_preorderAll, map, Node.preorderAll_mapAll]

/-- Changes the row of one node. -/
def modify (key : NodeKey) (change : Row → Row) (f : Forest) : Forest :=
  f.map fun n => if n.key = key then change n.row else n.row

/-- Opens or closes every directory that has children. -/
def expandAll (expand : Bool) (f : Forest) : Forest :=
  f.map fun n => if n.isExpandable then { n.row with isOpen := expand } else n.row

end Forest

end Sidebar
