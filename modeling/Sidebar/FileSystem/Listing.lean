import Sidebar.FileSystem.Basic
import Sidebar.Json.Basic

/-!
# Listings of file systems

A file system as a JSON value: an object is a directory, a text is a file with that content, a list
with one text is a link to it, and a list with one object is a directory without permission.
-/

namespace Sidebar

namespace Inode

mutual

def ofJson? : Json → Option Inode
  | .str text => text.narrow?.map fun content => .file content.toUTF8
  | .obj fields => (ofFields? fields).map .dir
  | .arr [.str target] => target.narrow?.map .link
  | .arr [.obj fields] => (ofFields? fields).map .closed
  | _ => none

def ofFields? : List (WideText × Json) → Option (List (String × Inode))
  | [] => some []
  | (name, value) :: rest => do
    let inode ← ofJson? value
    let inodes ← ofFields? rest
    return (← name.narrow?, inode) :: inodes

end

end Inode

/-- The file system of a listing, with the working directory at its root. -/
def FileSystem.ofFields? (fields : Fields) : Option FileSystem :=
  (Inode.ofFields? fields).map fun entries => { entries := entries }

end Sidebar
