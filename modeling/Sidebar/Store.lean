import Sidebar.Tree.Forest

/-!
# The store

The current forest, the forests of earlier builds, and the selected id. A rebuild replaces the
forest in one step, so that readers see either the old tree or the new one. Nodes of earlier builds
can still be held; they keep their own fields and are no longer part of the tree.
-/

namespace Sidebar

structure Store where
  treeId : String := "files"
  forest : Forest := {}
  /-- The earlier forests, the latest first. -/
  retired : List Forest := []
  selectedTid : Option String := none

namespace Store

/-- Replaces the tree by that of a snapshot and clears the selection. -/
def load (s : Store) (entries : List Entry) : Store :=
  { s with
    forest := Forest.ofEntries s.treeId (s.forest.build + 1) entries
    retired := s.forest :: s.retired
    selectedTid := none }

/-- Decodes a snapshot and loads it. -/
def loadJson (s : Store) (snapshot : Json String) : Except SnapshotError Store :=
  (Entry.ofSnapshot snapshot).map s.load

/-- The node with the given identity in the current forest or an earlier one, as it is now. -/
def node? (s : Store) (key : NodeKey) : Option Node :=
  ((s.forest :: s.retired).find? fun f => f.build = key.build).bind fun f => f.find? key.tid

/-- Changes the row of one node. -/
def modify (key : NodeKey) (change : Row → Row) (s : Store) : Store :=
  { s with
    forest := s.forest.modify key change
    retired := s.retired.map (Forest.modify key change) }

/-- The state that a node gets when it is opened, closed or, without a given state, toggled. Nodes
that cannot be opened stay as they are. -/
def expanded? (n : Node) (expand : Option Bool) : Option Bool :=
  if n.isExpandable then some (expand.getD (!n.isOpen)) else none

/-- Opens, closes or toggles a node. -/
def expand (s : Store) (n : Node) (expand : Option Bool) : Store :=
  match expanded? n expand with
  | some isOpen => s.modify n.key fun row => { row with isOpen := isOpen }
  | none => s

/-- Opens or closes every directory of the current tree that has children. -/
def expandAll (s : Store) (expand : Bool) : Store :=
  { s with forest := s.forest.expandAll expand }

/-- Remembers the id of a node as the selected one. -/
def select (s : Store) (n : Node) : Store := { s with selectedTid := some n.tid }

/-- The node of the current tree that has the selected id. -/
def selected? (s : Store) : Option Node := s.selectedTid.bind s.forest.find?

end Store

end Sidebar
