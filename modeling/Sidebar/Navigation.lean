import Sidebar.Tree.Forest

/-!
# Navigation

Answers to what is shown where. The walks follow parents or last children and are bounded by a
number of moves: in a forest no walk is longer than the tree is deep, so a walk that needs more
moves has met a loop of parents.
-/

namespace Sidebar

/-- Why a question about a node has no answer. -/
inductive NavigationError where
  | notInTree (tid path : String)
  | noChildren (tid path : String)
  | noParent (tid path : String) (level : Int)
  | tooDeep (tid path : String) (bound : Int)
deriving DecidableEq

def NavigationError.message : NavigationError → String
  | .notInTree tid path => "node " ++ tid ++ " (" ++ path ++ ") is not part of the current tree"
  | .noChildren _ path => path ++ " has no children"
  | .noParent _ path level =>
    path ++ " is at level " ++ toString level ++ " but has no parent"
  | .tooDeep _ path bound => "walk from " ++ path ++ " exceeded depth bound " ++ toString bound

/-- A forest and the bound on walks in it. -/
structure Navigator where
  forest : Forest
  bound : Int

namespace Navigator

def defaultBound : Int := 4096

/-- The bound that is used when the given one is asked for: at least one move. -/
def clamp (bound : Int) : Int := max 1 bound

/-- Refuses nodes of other builds. -/
def requireMember (nav : Navigator) (n : Node) : Except NavigationError Unit :=
  if nav.forest.contains n then .ok () else .error (.notInTree n.tid n.path)

/-- The report on a walk from `start` that needs more moves than allowed. -/
def overrun (nav : Navigator) (start : Node) : NavigationError :=
  .tooDeep start.tid start.path nav.bound

/-! ### Down the last children -/

/-- The lowest row shown at the end of a node, found by following last children while they are
open. -/
def descend (overrun : NavigationError) : Nat → Node → Except NavigationError Node
  | moves, n =>
    match n.shownChildren.getLast? with
    | none => .ok n
    | some child =>
      match moves with
      | 0 => .error overrun
      | moves + 1 => descend overrun moves child

/-- The last visible row inside a node, which is taken as open and must have children. The move to
its own last child is always allowed. -/
def lastVisible (nav : Navigator) (n : Node) : Except NavigationError Node := do
  nav.requireMember n
  match n.children.getLast? with
  | none => .error (.noChildren n.tid n.path)
  | some child => descend (nav.overrun n) (nav.bound - 1).toNat child

/-! ### Up the parents -/

/-- The next sibling of the nearest ancestor that has one. -/
def climb (forest : Forest) (overrun : NavigationError) :
    Nat → Node → Except NavigationError (Option Node)
  | moves, n =>
    match forest.parent? n with
    | none => .error (.noParent n.tid n.path n.row.level)
    | some parent =>
      match forest.next? parent with
      | some next => .ok (some next)
      | none =>
        match moves with
        | 0 => .error overrun
        | moves + 1 => if parent.row.level = 0 then .ok none else climb forest overrun moves parent

/-- The row behind the subtree that a node stands in: for a root its next sibling, for any other
node the next sibling of the nearest ancestor that has one. The siblings of the node itself are
passed over. -/
def nextVisible (nav : Navigator) (n : Node) : Except NavigationError (Option Node) := do
  nav.requireMember n
  if n.row.level = 0 then return nav.forest.next? n
  climb nav.forest (nav.overrun n) nav.bound.toNat n

/-- Whether a node and all its ancestors are last siblings, and the ancestors are open. -/
def isLastShown (forest : Forest) (overrun : NavigationError) :
    Nat → Node → Except NavigationError Bool
  | moves, n =>
    if !n.row.isLast then .ok false
    else
      match forest.parent? n with
      | none => .ok true
      | some parent =>
        if !parent.isOpen then .ok false
        else
          match moves with
          | 0 => .error overrun
          | moves + 1 => isLastShown forest overrun moves parent

/-- Whether a node is the last visible row of the whole tree. -/
def isBottom (nav : Navigator) (n : Node) : Except NavigationError Bool := do
  nav.requireMember n
  if n.isOpen then return false
  isLastShown nav.forest (nav.overrun n) nav.bound.toNat n

/-- Whether an id is met on the way up from a node. -/
def meetsAbove (forest : Forest) (overrun : NavigationError) (ancestor : Option String) :
    Nat → Node → Except NavigationError Bool
  | moves, n =>
    match n.row.parentTid with
    | none => .ok false
    | some parentTid =>
      if ancestor = some parentTid then .ok true
      else
        match moves with
        | 0 => .error overrun
        | moves + 1 =>
          match forest.find? parentTid with
          | none => .ok false
          | some parent => meetsAbove forest overrun ancestor moves parent

/-- Whether the second id is that of a proper ancestor of the node with the first one. -/
def isAncestor (nav : Navigator) (tid ancestor : Option String) : Except NavigationError Bool :=
  match tid.bind nav.forest.find? with
  | none => .ok false
  | some n => meetsAbove nav.forest (nav.overrun n) ancestor nav.bound.toNat n

/-! ### One row up or down -/

/-- The visible row below a node. -/
def below (nav : Navigator) (n : Node) : Except NavigationError (Option Node) := do
  if ← nav.isBottom n then return none
  match n.shownChildren.head? with
  | some child => return some child
  | none =>
    match nav.forest.next? n with
    | some next => return some next
    | none => nav.nextVisible n

/-- The visible row above a node. -/
def above (nav : Navigator) (n : Node) : Except NavigationError (Option Node) :=
  match nav.forest.previous? n with
  | none => return nav.forest.parent? n
  | some previous =>
    if previous.isOpen && previous.hasChildren then some <$> nav.lastVisible previous
    else return some previous

end Navigator

end Sidebar
