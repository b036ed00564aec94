import Sidebar.Editor.FileContent
import Sidebar.Log
import Sidebar.Navigation

/-!
# Editor tabs

The open tabs in the order in which they were opened, and the current one. A tab belongs to the id
of a node: opening a node whose id has a tab already shows that tab.
-/

namespace Sidebar.Editor

structure Tab where
  tid : String
  path : String
  mode : String
  content : String
deriving DecidableEq

structure Tabs where
  tabs : List Tab := []
  currentTid : Option String := none
deriving DecidableEq

/-- What opening a node leads to: a tab, nothing to show for directories and images, or a report
that the file could not be loaded. -/
inductive Opened where
  | shown (tab : Tab)
  | nothing
  | failed (reason : String)
deriving DecidableEq

def Opened.tab? : Opened → Option Tab
  | .shown tab => some tab
  | _ => none

def Opened.reason? : Opened → Option String
  | .failed reason => some reason
  | _ => none

/-- The tabs after opening a node, with what it led to. -/
structure Opening where
  tabs : Tabs
  outcome : Except Failure Opened
  events : List Event := []

namespace Tabs

def find? (t : Tabs) (tid : String) : Option Tab := t.tabs.find? fun tab => tab.tid = tid

/-- The current tab. -/
def current? (t : Tabs) : Option Tab := t.currentTid.bind t.find?

/-- Makes the tab with an id the current one, if there is such a tab. -/
def setCurrent (t : Tabs) (tid : String) : Tabs :=
  if (t.find? tid).isSome then { t with currentTid := some tid } else t

/-- Adds a tab behind the others and makes it the current one. -/
def push (t : Tabs) (tab : Tab) : Tabs := ⟨t.tabs ++ [tab], some tab.tid⟩

/-- Opens a node: shows its tab, or loads its file into a new one. -/
def openNode (load : Loader) (t : Tabs) (n : Node) : Opening :=
  match t.find? n.tid with
  | some tab => { tabs := t.setCurrent n.tid, outcome := .ok (.shown tab) }
  | none =>
    if n.row.isDir then { tabs := t, outcome := .ok .nothing }
    else
      match load n.path with
      | .error failure =>
        { tabs := t, outcome := .error failure, events := [.fileRequested n.path] }
      | .ok (.unreadable reason) =>
        { tabs := t
          outcome := .ok (.failed reason)
          events := [.fileRequested n.path, .openFailed n.path reason] }
      | .ok .image =>
        { tabs := t
          outcome := .ok .nothing
          events := [.fileRequested n.path, .fileHandedOver n.path] }
      | .ok (.text mode content) =>
        let tab : Tab := ⟨n.tid, n.path, mode, content⟩
        { tabs := t.push tab
          outcome := .ok (.shown tab)
          events := [.fileRequested n.path, .fileOpened n.path mode] }

/-- The place of the tab with an id. -/
def index? (t : Tabs) (tid : String) : Option Nat := t.tabs.findIdx? fun tab => tab.tid = tid

/-- Closes the tab with an id. When it was the current one, the tab in front of it becomes current,
or the new first one. -/
def close (t : Tabs) (tid : String) : Tabs :=
  match t.index? tid with
  | none => t
  | some i =>
    let rest := t.tabs.eraseIdx i
    { tabs := rest
      currentTid :=
        if t.currentTid = some tid then rest[i - 1]?.map Tab.tid else t.currentTid }

/-- The tabs whose nodes lie somewhere below the node with an id. -/
def under (t : Tabs) (nav : Navigator) (tid : Option String) :
    Except NavigationError (List Tab) :=
  t.tabs.filterM fun tab => nav.isAncestor (some tab.tid) tid

end Tabs

end Sidebar.Editor
