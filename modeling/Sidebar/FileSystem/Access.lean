import Sidebar.FileSystem.Basic

/-!
# Access to files

Paths are followed name by name: a middle component must be a directory, a link is replaced by its
target, and no more than forty links are followed on one way.
-/

namespace Sidebar

/-- Why an access fails: the system refuses it, or the path is no path at all. -/
inductive AccessError where
  | embeddedNul
  | system (errno : Errno)
deriving DecidableEq

/-- Where a path leads: to an inode, to a name that its directory does not have, or to the working
directory or one above it, of which the last `lost` have been removed. -/
inductive Destination where
  | found (place : Place) (inode : Inode)
  | missing (directory : Place) (name : String)
  | removed (place : Place) (lost : Nat)

namespace FileSystem

/-- The most bytes that one name may have. -/
def maxNameBytes : Nat := 255

/-- The most bytes that a path may have. -/
def maxPathBytes : Nat := 4095

/-- The most links that are followed on one way. -/
def maxLinks : Nat := 40

/-- The names in the target of a link. A slash at its end asks for a directory, as a dot does. -/
def targetNames (target : String) : List String :=
  let pieces := segments target.toList
  let names := pieces.filter (· ≠ [])
  (if pieces.getLast? = some [] then names ++ [['.']] else names).map String.ofList

/-- Follows names from a place. The last one is followed through a link only when `followLast` is
set, and it may be missing. -/
def follow (fs : FileSystem) (followLast : Bool) :
    (links : Nat) → (here : Place) → (names : List String) → Except Errno Destination
  | _, here, [] =>
    match fs.at? here with
    | some inode => .ok (.found here inode)
    | none => .error .noEntry
  | links, here, name :: rest =>
    match fs.at? here with
    | some (.dir entries) =>
      if name = "." then fs.follow followLast links here rest
      else if name = ".." then fs.follow followLast links here.dropLast rest
      else if name.utf8ByteSize > maxNameBytes then .error .nameTooLong
      else
        match entries.lookup name with
        | none => if rest.isEmpty then .ok (.missing here name) else .error .noEntry
        | some (.link target) =>
          if rest.isEmpty && !followLast then .ok (.found (here ++ [name]) (.link target))
          else
            match links with
            | 0 => .error .tooManyLinks
            | links + 1 =>
              fs.follow followLast links (if target.startsWith '/' then [] else here)
                (targetNames target ++ rest)
        | some _ => fs.follow followLast links (here ++ [name]) rest
    | some other => .error other.refusal
    | none => .error .noEntry
termination_by links _ names => (links, names.length)

/-- Follows names from a place of which the last `lost` directories have been removed. They are
empty, but `..` leads out of them. -/
def followLost (fs : FileSystem) (followLast : Bool) :
    (lost : Nat) → (here : Place) → (names : List String) → Except Errno Destination
  | 0, here, names => fs.follow followLast maxLinks here names
  | lost + 1, here, [] => .ok (.removed here (lost + 1))
  | lost + 1, here, name :: rest =>
    if name = "." then fs.followLost followLast (lost + 1) here rest
    else if name = ".." then fs.followLost followLast lost here.dropLast rest
    else .error .noEntry

/-- Follows a path. -/
def locate (fs : FileSystem) (followLast : Bool) (p : Path) : Except AccessError Destination :=
  if p.toString.contains '\x00' then .error .embeddedNul
  else if p.toString.utf8ByteSize > maxPathBytes then .error (.system .nameTooLong)
  else
    match p.anchor with
    | .relative => (fs.followLost followLast fs.lost fs.cwd p.names).mapError .system
    | _ => (fs.follow followLast maxLinks [] p.names).mapError .system

/-- The inode that a path leads to. A removed directory is an empty one. -/
def stat (fs : FileSystem) (p : Path) : Except AccessError Inode := do
  match ← fs.locate true p with
  | .found _ inode => return inode
  | .missing _ _ => throw (.system .noEntry)
  | .removed _ _ => return .dir []

/-- The bytes of a file. -/
def bytesAt (fs : FileSystem) (p : Path) : Except AccessError ByteArray := do
  match ← fs.stat p with
  | .file bytes => return bytes
  | .dir _ => throw (.system .isDirectory)
  | .closed _ => throw (.system .accessDenied)
  | .link _ => throw (.system .tooManyLinks)

/-- The entries of a directory. -/
def entriesAt (fs : FileSystem) (p : Path) : Except AccessError (List (String × Inode)) := do
  let inode ← fs.stat p
  inode.entries?.mapError .system

/-- Whether a path leads to a directory. A path that leads nowhere does not, but a name that no
directory can have is an error, and so is a way through a directory without permission. -/
def isDirectory (fs : FileSystem) (p : Path) : Except AccessError Bool :=
  match fs.stat p with
  | .ok inode => .ok inode.isDir
  | .error (.system .nameTooLong) => .error (.system .nameTooLong)
  | .error (.system .accessDenied) => .error (.system .accessDenied)
  | .error _ => .ok false

/-! ### Writing -/

/-- Creates or overwrites a file. -/
def putFile (fs : FileSystem) (p : Path) (bytes : ByteArray) : Except AccessError FileSystem := do
  match ← fs.locate true p with
  | .found place (.file _) => return fs.set place (.file bytes)
  | .found _ _ => throw (.system .isDirectory)
  | .missing directory name => return fs.set (directory ++ [name]) (.file bytes)
  | .removed _ _ => throw (.system .isDirectory)

/-- Creates a link. -/
def putLink (fs : FileSystem) (p : Path) (target : String) : Except AccessError FileSystem := do
  match ← fs.locate false p with
  | .found _ _ => throw (.system .exists)
  | .missing directory name => return fs.set (directory ++ [name]) (.link target)
  | .removed _ _ => throw (.system .exists)

/-- Creates a directory unless there is one. -/
def ensureDirectory (fs : FileSystem) (p : Path) : Except AccessError FileSystem := do
  match ← fs.locate false p with
  | .missing directory name => return fs.set (directory ++ [name]) (.dir [])
  | _ => if ← fs.isDirectory p then return fs else throw (.system .exists)

/-- Creates the directories on the way from a path down some names. The file system is also given
when this fails: directories created on the way stay. -/
def ensureBelow (fs : FileSystem) (p : Path) : List String → FileSystem × Except AccessError Unit
  | [] => (fs, .ok ())
  | name :: rest =>
    match fs.ensureDirectory (p.child name) with
    | .ok created => created.ensureBelow (p.child name) rest
    | .error error => (fs, .error error)

/-- Creates a directory together with the ones that it lies in. -/
def ensureDirectories (fs : FileSystem) (p : Path) : FileSystem × Except AccessError Unit :=
  fs.ensureBelow { p with names := [] } p.names

/-- Removes what is at a path, with all that lies below it. -/
def remove (fs : FileSystem) (p : Path) : Except AccessError FileSystem := do
  match ← fs.locate false p with
  | .found place _ => return fs.erase place
  | _ => throw (.system .noEntry)

/-- Changes the working directory. -/
def changeDirectory (fs : FileSystem) (p : Path) : Except AccessError FileSystem := do
  match ← fs.locate true p with
  | .found place (.dir _) => return { fs with cwd := place, lost := 0 }
  | .found _ other => throw (.system other.refusal)
  | .missing _ _ => throw (.system .noEntry)
  | .removed place lost => return { fs with cwd := place, lost := lost }

end FileSystem

end Sidebar
