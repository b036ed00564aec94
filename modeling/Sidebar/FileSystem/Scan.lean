import Sidebar.FileSystem.Resolve
import Sidebar.Log
import Sidebar.Text.Lowercase
import Sidebar.Tree.Snapshot

/-!
# Scanning directories

The entries of a directory as rows of a tree: directories first, each group in the order of the
small forms of the names. Links count as files, and names that begin with a dot can be left out.

A scan lists one directory after another. One that cannot be read is reported and has no rows below
it. Directories are entered one in another, and not without limit.
-/

namespace Sidebar

/-- An entry of a directory as a scan sees it. -/
structure DirectoryChild where
  name : String
  path : Path
  isDir : Bool

def isHidden (name : String) : Bool := name.startsWith '.'

/-- The order of siblings by kind and name. -/
def siblingsLe (dir₁ : Bool) (name₁ : String) (dir₂ : Bool) (name₂ : String) : Bool :=
  if dir₁ = dir₂ then decide (Text.lower name₁ ≤ Text.lower name₂) else dir₁

/-- The entries of a directory that a scan lists. -/
def listed (showHidden : Bool) (entries : List (String × Inode)) : List (String × Inode) :=
  entries.filter fun entry => showHidden || !isHidden entry.1

/-- The listed entries of a directory in display order, each with its inode. -/
def childrenOf (showHidden : Bool) (directory : Path) (entries : List (String × Inode)) :
    List (DirectoryChild × Inode) :=
  let children := (listed showHidden entries).map fun (name, inode) =>
    (⟨name, directory.child name, inode.isDir⟩, inode)
  children.mergeSort fun a b => siblingsLe a.1.isDir a.1.name b.1.isDir b.1.name

/-- The report on a directory that the system refuses to list. -/
def skipped (path : Path) (errno : Errno) : Event :=
  .directorySkipped path.toString (Failure.system errno path.toString).message

/-- The row of an entry, with those of what is in it. -/
def DirectoryChild.entry (child : DirectoryChild) (below : List Entry) : Entry :=
  if child.isDir then .dir child.name child.path.toString below
  else .file child.name child.path.toString

namespace FileSystem

/-- The children of a directory in display order. -/
def listDirectory (fs : FileSystem) (directory : Path) (showHidden : Bool) :
    Except AccessError (List DirectoryChild) := do
  let entries ← fs.entriesAt directory
  return (childrenOf showHidden directory entries).map Prod.fst

/-- The most directories that a scan is in at once. -/
def maxNestedDirectories : Nat := 985

/-- Whether a path has more bytes than the system reads, in all or in one name. -/
def isTooLong (p : Path) : Bool :=
  maxPathBytes < p.toString.utf8ByteSize || p.names.any fun name => maxNameBytes < name.utf8ByteSize

end FileSystem

/-- What the system gives for the entries of an inode when it is asked by its path. -/
def Inode.read (p : Path) (inode : Inode) : Except AccessError (List (String × Inode)) :=
  if FileSystem.isTooLong p then .error (.system .nameTooLong)
  else inode.entries?.mapError .system

/-- Scanning reports what is skipped, and can fail. -/
abbrev Scanner := EStateM Failure (List Event)

/-- The rows of a directory whose entries have been asked for. A number of directories, this one
included, may be entered one in another. -/
def walk (showHidden : Bool) :
    (levels : Nat) → (directory : Path) → Except AccessError (List (String × Inode)) →
      Scanner (List Entry)
  | 0, _, _ => throw .directoriesTooDeep
  | _ + 1, _, .error .embeddedNul => throw .embeddedNul
  | _ + 1, directory, .error (.system errno) => do
    modify (· ++ [skipped directory errno])
    return []
  | levels + 1, directory, .ok entries =>
    (childrenOf showHidden directory entries).mapM fun (child, inode) =>
      child.entry <$>
        if child.isDir then walk showHidden levels child.path (inode.read child.path) else pure []

/-- The result of scanning a workspace. -/
structure Scan where
  entries : List Entry
  events : List Event

/-- A scan that has failed, with the reports up to then. -/
structure ScanHalt where
  failure : Failure
  events : List Event := []

namespace FileSystem

/-- The snapshot of everything below a root, which is resolved first. A root that cannot be read
has an empty snapshot. -/
def scan (fs : FileSystem) (root : Path) (showHidden : Bool) : Except ScanHalt Scan := do
  let root ← (fs.resolve root).mapError fun failure => { failure := failure }
  match walk showHidden maxNestedDirectories root (fs.entriesAt root) [] with
  | .ok entries events => return ⟨entries, events⟩
  | .error failure events => throw ⟨failure, events⟩

end FileSystem

end Sidebar
