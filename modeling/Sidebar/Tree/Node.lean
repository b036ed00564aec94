import Sidebar.Tree.Snapshot

/-!
# Nodes

A node is a row of the tree together with its children. The shape of a tree never changes once it
is built; the fields of its rows do. `Node.map` is the one way to change them.
-/

namespace Sidebar

/-- The identity of a node: the build of the tree that it belongs to, and its id there. Ids are used
again by every build. -/
structure NodeKey where
  build : Nat
  tid : String
deriving DecidableEq

/-- The fields of a node. The parent is named by its id. -/
structure Row where
  key : NodeKey
  name : String
  path : String
  isDir : Bool
  level : Int
  parentTid : Option String
  isOpen : Bool := false
  isLast : Bool := false
deriving DecidableEq

inductive Node where
  | node (row : Row) (children : List Node)

namespace Node

def row : Node → Row
  | .node row _ => row

def children : Node → List Node
  | .node _ children => children

@[simp] theorem row_node (row : Row) (children : List Node) :
    (Node.node row children).row = row := rfl

@[simp] theorem children_node (row : Row) (children : List Node) :
    (Node.node row children).children = children := rfl

def key (n : Node) : NodeKey := n.row.key

def tid (n : Node) : String := n.row.key.tid

def path (n : Node) : String := n.row.path

def isOpen (n : Node) : Bool := n.row.isOpen

def hasChildren (n : Node) : Bool := !n.children.isEmpty

/-- Whether the node can be opened: it is a directory with at least one child. -/
def isExpandable (n : Node) : Bool := n.row.isDir && n.hasChildren

/-- The children that are shown when the node is: all of an open node, none of a closed one. -/
def shownChildren (n : Node) : List Node := if n.isOpen then n.children else []

/-! ### Size -/

mutual

def size : Node → Nat
  | .node _ children => 1 + sizeAll children

def sizeAll : List Node → Nat
  | [] => 0
  | n :: rest => n.size + sizeAll rest

end

@[simp] theorem sizeAll_append (ns ms : List Node) :
    sizeAll (ns ++ ms) = sizeAll ns + sizeAll ms := by
  induction ns with
  | nil => simp [sizeAll]
  | cons n ns ih => simp [sizeAll, ih, Nat.add_assoc]

theorem sizeAll_children_lt (n : Node) : sizeAll n.children < n.size := by
  cases n
  simp only [children_node, size]
  omega

theorem sizeAll_shownChildren_lt (n : Node) : sizeAll n.shownChildren < n.size := by
  have := sizeAll_children_lt n
  rw [shownChildren]
  split
  · exact this
  · simp only [sizeAll]
    omega

/-! ### Order of rows -/

mutual

/-- A node and everything below it, each node in front of its children. -/
def preorder : Node → List Node
  | .node row children => .node row children :: preorderAll children

def preorderAll : List Node → List Node
  | [] => []
  | n :: rest => n.preorder ++ preorderAll rest

end

mutual

/-- A node and the rows shown below it: the children of open nodes only. -/
def shown : Node → List Node
  | .node row children => .node row children :: if row.isOpen then shownAll children else []

def shownAll : List Node → List Node
  | [] => []
  | n :: rest => n.shown ++ shownAll rest

end

theorem preorder_eq (n : Node) : n.preorder = n :: preorderAll n.children := by
  cases n
  rfl

theorem shown_eq (n : Node) : n.shown = n :: shownAll n.shownChildren := by
  obtain ⟨row, children⟩ := n
  cases h : row.isOpen <;> simp [shown, shownChildren, isOpen, h, shownAll]

theorem preorderAll_append (ns ms : List Node) :
    preorderAll (ns ++ ms) = preorderAll ns ++ preorderAll ms := by
  induction ns with
  | nil => rfl
  | cons n ns ih => simp [preorderAll, ih]

theorem shownAll_append (ns ms : List Node) : shownAll (ns ++ ms) = shownAll ns ++ shownAll ms := by
  induction ns with
  | nil => rfl
  | cons n ns ih => simp [shownAll, ih]

mutual

theorem length_preorder : (n : Node) → n.preorder.length = n.size
  | .node _ children => by
    rw [preorder, size, List.length_cons, length_preorderAll children, Nat.add_comm]

theorem length_preorderAll : (ns : List Node) → (preorderAll ns).length = sizeAll ns
  | [] => rfl
  | n :: rest => by
    rw [preorderAll, sizeAll, List.length_append, length_preorder n, length_preorderAll rest]

end

/-- The rows of a forest as a list of pending nodes is worked off from the front, each node being
replaced by its children. -/
def flatten : List Node → List Node
  | [] => []
  | n :: rest => n :: flatten (n.children ++ rest)
termination_by pending => sizeAll pending
decreasing_by
  have := sizeAll_children_lt n
  simp only [sizeAll_append, sizeAll]
  omega

/-- The visible rows of a forest, worked off in the same way; a closed node is dropped with all that
lies below it. -/
def flattenShown : List Node → List Node
  | [] => []
  | n :: rest => n :: flattenShown (n.shownChildren ++ rest)
termination_by pending => sizeAll pending
decreasing_by
  have := sizeAll_shownChildren_lt n
  simp only [sizeAll_append, sizeAll]
  omega

/-- Working off the pending nodes lists them in pre-order. -/
theorem flatten_eq_preorderAll (ns : List Node) : flatten ns = preorderAll ns := by
  fun_induction flatten ns with
  | case1 => rfl
  | case2 n rest ih => simp [ih, preorderAll, preorder_eq, preorderAll_append]

theorem flattenShown_eq_shownAll (ns : List Node) : flattenShown ns = shownAll ns := by
  fun_induction flattenShown ns with
  | case1 => rfl
  | case2 n rest ih => simp [ih, shownAll, shown_eq, shownAll_append]

/-! ### Changing rows -/

mutual

/-- Replaces every row by one computed from the node as it was. -/
def map (f : Node → Row) : Node → Node
  | .node row children => .node (f (.node row children)) (mapAll f children)

def mapAll (f : Node → Row) : List Node → List Node
  | [] => []
  | n :: rest => n.map f :: mapAll f rest

end

@[simp] theorem row_map (f : Node → Row) (n : Node) : (n.map f).row = f n := by
  cases n
  rfl

@[simp] theorem children_map (f : Node → Row) (n : Node) :
    (n.map f).children = mapAll f n.children := by
  cases n
  rfl

mutual

theorem preorder_map (f : Node → Row) : (n : Node) → (n.map f).preorder = n.preorder.map (map f)
  | .node _ children => by
    rw [preorder, map, preorder, preorderAll_mapAll f children, List.map_cons, map]

/-- Changing rows keeps their order. -/
theorem preorderAll_mapAll (f : Node → Row) :
    (ns : List Node) → preorderAll (mapAll f ns) = (preorderAll ns).map (map f)
  | [] => rfl
  | n :: rest => by
    rw [mapAll, preorderAll, preorderAll, List.map_append, preorder_map f n,
      preorderAll_mapAll f rest]

end

/-! ### Nodes of a snapshot -/

/-- The id of the node with the given number. -/
def tidOf (treeId : String) (number : Nat) : String := treeId ++ "_" ++ toString number

mutual

/-- The node of an entry. Nodes are numbered in pre-order, and `number` is that of this node. -/
def ofEntry (treeId : String) (build number : Nat) (level : Int) (parentTid : Option String)
    (isLast : Bool) : Entry → Node
  | .file name path =>
    .node ⟨⟨build, tidOf treeId number⟩, name, path, false, level, parentTid, false, isLast⟩ []
  | .dir name path children =>
    .node ⟨⟨build, tidOf treeId number⟩, name, path, true, level, parentTid, false, isLast⟩
      (ofEntries treeId build (number + 1) (level + 1) (some (tidOf treeId number)) children)

/-- The nodes of a list of siblings, of which the first has the given number. -/
def ofEntries (treeId : String) (build number : Nat) (level : Int) (parentTid : Option String) :
    List Entry → List Node
  | [] => []
  | entry :: rest =>
    ofEntry treeId build number level parentTid rest.isEmpty entry ::
      ofEntries treeId build (number + entry.count) level parentTid rest

end

mutual

theorem tids_ofEntry (treeId : String) (build number : Nat) (level : Int)
    (parentTid : Option String) (isLast : Bool) :
    (entry : Entry) →
      (ofEntry treeId build number level parentTid isLast entry).preorder.map tid =
        (List.range' number entry.count).map (tidOf treeId)
  | .file name path => by simp [ofEntry, preorder, preorderAll, Entry.count, tid]
  | .dir name path children => by
    simp [ofEntry, preorder, Entry.count, tid, Nat.add_comm 1, List.range'_succ,
      tids_ofEntries treeId build _ _ _ children]

/-- The ids in pre-order are numbered without gaps. -/
theorem tids_ofEntries (treeId : String) (build number : Nat) (level : Int)
    (parentTid : Option String) :
    (entries : List Entry) →
      (preorderAll (ofEntries treeId build number level parentTid entries)).map tid =
        (List.range' number (Entry.countAll entries)).map (tidOf treeId)
  | [] => by simp [ofEntries, preorderAll, Entry.countAll]
  | entry :: rest => by
    rw [ofEntries, preorderAll, List.map_append, tids_ofEntry treeId build _ _ _ _ entry,
      tids_ofEntries treeId build _ _ _ rest, Entry.countAll, ← List.range'_append_1,
      List.map_append]

end

mutual

/-- The entry that a node shows. Children of a node that is no directory are not shown. -/
def toEntry : Node → Entry
  | .node row children =>
    if row.isDir then .dir row.name row.path (toEntries children) else .file row.name row.path

def toEntries : List Node → List Entry
  | [] => []
  | n :: rest => n.toEntry :: toEntries rest

end

mutual

theorem toEntry_ofEntry (treeId : String) (build number : Nat) (level : Int)
    (parentTid : Option String) (isLast : Bool) :
    (entry : Entry) → (ofEntry treeId build number level parentTid isLast entry).toEntry = entry
  | .file name path => by simp [ofEntry, toEntry]
  | .dir name path children => by
    simp [ofEntry, toEntry, toEntries_ofEntries treeId build _ _ _ children]

/-- The nodes of a snapshot show the snapshot. -/
theorem toEntries_ofEntries (treeId : String) (build number : Nat) (level : Int)
    (parentTid : Option String) :
    (entries : List Entry) →
      toEntries (ofEntries treeId build number level parentTid entries) = entries
  | [] => by simp [ofEntries, toEntries]
  | entry :: rest => by
    simp [ofEntries, toEntries, toEntry_ofEntry treeId build _ _ _ _ entry,
      toEntries_ofEntries treeId build _ _ _ rest]

end

end Node

end Sidebar
