import Sidebar.Path

/-!
# File systems

A tree of files, directories and symbolic links, together with the working directory. A place is the
list of names that leads to it from the root without links.
-/

namespace Sidebar

inductive Inode where
  | file (bytes : ByteArray)
  | dir (entries : List (String × Inode))
  /-- A directory without permission: what is in it is neither listed nor reached. -/
  | closed (entries : List (String × Inode))
  | link (target : String)
deriving Inhabited

/-- The names on the way from the root. -/
abbrev Place := List String

structure FileSystem where
  entries : List (String × Inode) := []
  /-- The working directory. -/
  cwd : Place := []
  /-- How many directories at the end of the working directory have been removed since it was
  entered. They stay lost when others are created in their places. -/
  lost : Nat := 0

/-- What the system reports when an access fails. -/
inductive Errno where
  | noEntry
  | accessDenied
  | exists
  | notDirectory
  | isDirectory
  | nameTooLong
  | tooManyLinks
deriving DecidableEq

namespace Errno

def code : Errno → Nat
  | .noEntry => 2
  | .accessDenied => 13
  | .exists => 17
  | .notDirectory => 20
  | .isDirectory => 21
  | .nameTooLong => 36
  | .tooManyLinks => 40

def text : Errno → String
  | .noEntry => "No such file or directory"
  | .accessDenied => "Permission denied"
  | .exists => "File exists"
  | .notDirectory => "Not a directory"
  | .isDirectory => "Is a directory"
  | .nameTooLong => "File name too long"
  | .tooManyLinks => "Too many levels of symbolic links"

end Errno

namespace Inode

def isDir : Inode → Bool
  | .dir _ => true
  | .closed _ => true
  | _ => false

/-- What the system says when something else is taken for a directory that can be read. -/
def refusal : Inode → Errno
  | .closed _ => .accessDenied
  | _ => .notDirectory

/-- The entries of a directory that can be read. -/
def entries? : Inode → Except Errno (List (String × Inode))
  | .dir entries => .ok entries
  | other => .error other.refusal

/-- The inode at the end of a list of names, with open directories on the way. -/
def at? (inode : Inode) : Place → Option Inode
  | [] => some inode
  | name :: rest =>
    match inode with
    | .dir entries =>
      match entries.lookup name with
      | some child => child.at? rest
      | none => none
    | _ => none

/-- Changes, adds or removes one entry of a directory. New entries go to the end. -/
def alterEntry (name : String) (change : Option Inode → Option Inode) :
    List (String × Inode) → List (String × Inode)
  | [] => ((change none).map (name, ·)).toList
  | (other, inode) :: rest =>
    if other = name then ((change (some inode)).map (name, ·)).toList ++ rest
    else (other, inode) :: alterEntry name change rest

/-- Changes, adds or removes the entry at a place below a list of entries. -/
def alterEntries (change : Option Inode → Option Inode) :
    Place → List (String × Inode) → List (String × Inode)
  | [], entries => entries
  | [name], entries => alterEntry name change entries
  | name :: rest, entries =>
    alterEntry name (fun
      | some (.dir children) => some (.dir (alterEntries change rest children))
      | other => other) entries

end Inode

namespace FileSystem

def at? (fs : FileSystem) (place : Place) : Option Inode := (Inode.dir fs.entries).at? place

/-- Puts an inode at a place, whose directory must be there. -/
def set (fs : FileSystem) (place : Place) (inode : Inode) : FileSystem :=
  { fs with entries := Inode.alterEntries (fun _ => some inode) place fs.entries }

/-- Removes what is at a place. The working directory is lost from there on when it lies below. -/
def erase (fs : FileSystem) (place : Place) : FileSystem :=
  { fs with
    entries := Inode.alterEntries (fun _ => none) place fs.entries
    lost :=
      if place.isPrefixOf fs.cwd then max fs.lost (fs.cwd.length - (place.length - 1))
      else fs.lost }

/-- The place that so many directories above the working directory have, unless it is lost. -/
def above? (fs : FileSystem) (levels : Nat) : Option Place :=
  if levels < fs.lost then none else some (fs.cwd.take (fs.cwd.length - levels))

end FileSystem

end Sidebar
