import Sidebar.Editor.Tabs
import Sidebar.Store

/-!
# The workbench

The tree with its tabs and the state of the selection, and what clicks and arrow keys do to it.
-/

namespace Sidebar

open Editor

/-- What was selected, opened and reported last. -/
structure Selection where
  node : Option NodeKey := none
  tab : Option Tab := none
  lastError : Option String := none

structure Workbench where
  store : Store := {}
  /-- The bound on walks in the tree. -/
  bound : Int := Navigator.defaultBound
  tabs : Tabs := {}
  selection : Selection := {}

/-- The menus that apply to files and to directories. -/
inductive Menu where
  | file
  | dir
deriving DecidableEq

/-- The workbench after a double click, with what opening the node led to. -/
structure DoubleClick where
  workbench : Workbench
  outcome : Except Failure Opened
  events : List Event

namespace Workbench

def navigator (w : Workbench) : Navigator := ⟨w.store.forest, w.bound⟩

/-- The node that was selected last, as it is now. -/
def selectedNode? (w : Workbench) : Option Node := w.selection.node.bind w.store.node?

/-- Selects a node here and in the store. -/
def click (w : Workbench) (n : Node) : Workbench :=
  { w with store := w.store.select n, selection := { w.selection with node := some n.key } }

/-- Selects a node and tells which menu applies to it. -/
def rightClick (w : Workbench) (n : Node) : Workbench × Menu :=
  (w.click n, if n.row.isDir then .dir else .file)

/-- Opens a node. The store keeps its selection, and the report of the last attempt is replaced. -/
def doubleClick (load : Loader) (w : Workbench) (n : Node) : DoubleClick :=
  let opening := w.tabs.openNode load n
  let selected := { w.selection with node := some n.key }
  let selection :=
    match opening.outcome with
    | .error _ => selected
    | .ok opened =>
      { selected with
        tab := opened.tab? <|> w.selection.tab
        lastError := opened.reason? }
  { workbench := { w with tabs := opening.tabs, selection := selection }
    outcome := opening.outcome
    events := opening.events }

/-- Moves the selection along `move`, or to the first root when nothing is selected. Where there is
no row to move to, nothing changes. -/
def step (move : Navigator → Node → Except NavigationError (Option Node)) (w : Workbench) :
    Except NavigationError (Workbench × Option Node) := do
  let target ←
    match w.selectedNode? with
    | none => pure w.store.forest.roots.head?
    | some n => move w.navigator n
  match target with
  | none => return (w, none)
  | some n => return (w.click n, some n)

def selectDown (w : Workbench) : Except NavigationError (Workbench × Option Node) :=
  w.step Navigator.below

def selectUp (w : Workbench) : Except NavigationError (Workbench × Option Node) :=
  w.step Navigator.above

end Workbench

end Sidebar
