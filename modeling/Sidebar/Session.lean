import Sidebar.Settings
import Sidebar.Workbench

/-!
# Sessions

The open directories and tabs of a workspace as they are saved between runs. Restoring is tolerant:
paths that the tree no longer has are skipped and reported.

The paths of a tree are texts of characters, as all names are that a system with UTF-8 names gives.
A saved path is whatever text the settings hold, and may have surrogates in it. Two of them side by
side, which saving would join to one character, are in no name that a system gives.
-/

namespace Sidebar

open Editor

/-- The saved state of one workspace. -/
structure SessionRecord where
  openPaths : List WideText := []
  filePaths : List WideText := []
  currentFile : Option WideText := none
deriving DecidableEq

namespace SessionRecord

/-- The texts of a list that are not empty; other values hold none. -/
def pathsOf : Option Json → List WideText
  | some (.arr items) => items.filterMap Json.nonEmptyText?
  | _ => []

/-- Reads a record. Whatever is not a path is dropped. -/
def ofFields (fields : Fields) : SessionRecord where
  openPaths := pathsOf (Fields.get? fields "open_paths")
  filePaths := pathsOf (Fields.get? fields "file_paths")
  currentFile := (Fields.get? fields "current_file").bind Json.nonEmptyText?

/-- Reads a record from a value, which must be an object. -/
def ofJson : Json → Except Failure SessionRecord
  | .obj fields => .ok (ofFields fields)
  | value => .error (.notARecord value.kind)

def toJson (r : SessionRecord) : Json :=
  .obj [
    ("open_paths", .arr (r.openPaths.map Json.str)),
    ("file_paths", .arr (r.filePaths.map Json.str)),
    ("current_file", (r.currentFile.map Json.str).getD .null)]

/-- The open paths of a forest as they are saved. -/
def openTexts (forest : Forest) : List WideText := forest.openPaths.map .ofString

/-- The path of a tab as it is saved. -/
def tabText (tab : Tab) : WideText := tab.path

/-- The state of a workspace as a record. Without tabs, those of the previous record are kept. -/
def capture (forest : Forest) (tabs : Option Tabs) (previous : Option SessionRecord) :
    SessionRecord :=
  match tabs with
  | some t => ⟨openTexts forest, t.tabs.map tabText, t.current?.map tabText⟩
  | none =>
    let kept := previous.getD {}
    ⟨openTexts forest, kept.filePaths, kept.currentFile⟩

end SessionRecord

/-! ### Applying a record -/

/-- The first node with a saved path. No node has one with surrogates in it. -/
def Forest.atSavedPath? (f : Forest) (path : WideText) : Option Node :=
  path.narrow?.bind f.atPath?

/-- The state of a workspace while a record is being applied to it. -/
structure Restored where
  store : Store
  tabs : Tabs := {}
  expanded : List WideText := []
  missing : List WideText := []
  reopened : List WideText := []
  events : List Event := []

namespace Restored

/-- Opens the first node with a path. -/
def expandPath (r : Restored) (path : WideText) : Restored :=
  match r.store.forest.atSavedPath? path with
  | some n =>
    if n.isExpandable then
      { r with store := r.store.expand n (some true), expanded := r.expanded ++ [path] }
    else
      { r with
        missing := r.missing ++ [path], events := r.events ++ [.savedDirectorySkipped path] }
  | none =>
    { r with
      missing := r.missing ++ [path], events := r.events ++ [.savedDirectorySkipped path] }

/-- Opens tabs for paths one after the other. `current` is the id of the latest tab whose path is
the current one of the record. -/
def reopenPaths (load : Loader) (currentFile : Option WideText) :
    Restored → (current : Option String) → List WideText →
      Restored × Except Failure (Option String)
  | r, current, [] => (r, .ok current)
  | r, current, path :: rest =>
    match r.store.forest.atSavedPath? path with
    | none =>
      reopenPaths load currentFile
        { r with missing := r.missing ++ [path], events := r.events ++ [.savedTabSkipped path] }
        current rest
    | some n =>
      let opening := r.tabs.openNode load n
      let opened := { r with tabs := opening.tabs, events := r.events ++ opening.events }
      match opening.outcome with
      | .error failure => (opened, .error failure)
      | .ok (.shown tab) =>
        reopenPaths load currentFile { opened with reopened := r.reopened ++ [path] }
          (if currentFile = some path then some tab.tid else current) rest
      | .ok _ =>
        reopenPaths load currentFile { opened with missing := r.missing ++ [path] } current rest

/-- Makes the tab with the given id current, if one is given. -/
def focus (r : Restored) (current : Option String) : Restored :=
  match current with
  | some tid => { r with tabs := r.tabs.setCurrent tid }
  | none => r

end Restored

namespace SessionRecord

/-- Opens the saved directories. -/
def expandIn (record : SessionRecord) (store : Store) : Restored :=
  record.openPaths.foldl Restored.expandPath { store := store }

/-- Opens the saved directories and tabs. -/
def applyTo (record : SessionRecord) (load : Loader) (store : Store) (tabs : Tabs) :
    Restored × Except Failure Unit :=
  match Restored.reopenPaths load record.currentFile
    { record.expandIn store with tabs := tabs } none record.filePaths with
  | (r, .error failure) => (r, .error failure)
  | (r, .ok current) => (r.focus current, .ok ())

end SessionRecord

/-! ### Saved sessions -/

namespace Session

/-- The name under which the session of a workspace is saved. -/
def key (fs : FileSystem) (root : Path) : Except Failure String :=
  (fs.resolve root).map Path.toString

/-- The record with the given name, if it is an object. -/
def find? (records : Fields) (name : WideText) : Option SessionRecord :=
  match Fields.get? records name with
  | some (.obj fields) => some (SessionRecord.ofFields fields)
  | _ => none

/-- The saved record of a workspace. -/
def load (fs : FileSystem) (file root : Path) : Except Failure (Option SessionRecord) := do
  let fields ← Settings.load fs file
  let name ← key fs root
  return find? (Settings.sessions fields) name

/-- The result of saving a session. -/
structure Saved where
  fs : FileSystem
  record : SessionRecord
  events : List Event

/-- Saves the session of a workspace beside those of the others. -/
def save (fs : FileSystem) (file root : Path) (forest : Forest) (tabs : Option Tabs) :
    Except Failure Saved := do
  let fields ← Settings.load fs file
  let name ← key fs root
  let records := Settings.sessions fields
  let record := SessionRecord.capture forest tabs (find? records name)
  let saved ← Settings.saveSessions fs file (.obj (Fields.put name record.toJson records))
  return ⟨saved, record, [.sessionSaved root.toString record.openPaths.length]⟩

end Session

end Sidebar
