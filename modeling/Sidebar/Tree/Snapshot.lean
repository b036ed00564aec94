import Sidebar.Json.Basic

/-!
# Snapshots

A snapshot lists the files and directories of a workspace. It is given as a JSON value and decoded
entry by entry; the first entry in pre-order that breaks a rule is reported.
-/

namespace Sidebar

/-- A file or a directory of a snapshot. Only directories have children. -/
inductive Entry where
  | file (name path : String)
  | dir (name path : String) (children : List Entry)
deriving Inhabited

/-- Why a value is not a snapshot. -/
inductive SnapshotError where
  | notEntries (value : Json String)
  | notMapping (entry : Json String)
  | noPath (entry : Json String)
  | unknownType (path : String) (type : Json String)
  | childrenNotList (path : String)
  | fileWithChildren (path : String)

def SnapshotError.message : SnapshotError → String
  | .notEntries value => "'" ++ value.kind.word ++ "' object is not iterable"
  | .notMapping _ => "snapshot entry must be a mapping"
  | .noPath _ => "snapshot entry has no path"
  | .unknownType _ type => "unknown entry type " ++ type.inline
  | .childrenNotList _ => "children must be a list"
  | .fileWithChildren _ => "file entry cannot have children"

/-- The last segment of a path without the slashes at its end; the whole path when it holds nothing
but slashes. -/
def defaultName (path : String) : String :=
  let segment := ((path.toList.reverse.dropWhile (· = '/')).takeWhile (· ≠ '/')).reverse
  if segment.isEmpty then path else String.ofList segment

namespace Entry

def name : Entry → String
  | .file name _ => name
  | .dir name _ _ => name

def path : Entry → String
  | .file _ path => path
  | .dir _ path _ => path

def isDir : Entry → Bool
  | .file _ _ => false
  | .dir _ _ _ => true

def children : Entry → List Entry
  | .file _ _ => []
  | .dir _ _ children => children

mutual

/-- The number of entries in and below an entry. -/
def count : Entry → Nat
  | .file _ _ => 1
  | .dir _ _ children => 1 + countAll children

def countAll : List Entry → Nat
  | [] => 0
  | entry :: rest => entry.count + countAll rest

end

/-! ### Decoding -/

/-- What an entry says about itself. -/
structure Heading where
  name : String
  path : String
  isDir : Bool

namespace Heading

def path? (fields : Fields String) : Except SnapshotError String :=
  match (Fields.get? fields "path").bind Json.nonEmptyText? with
  | some path => .ok path
  | none => .error (.noPath (.obj fields))

/-- Whether the entry is a directory. An entry without a type is a file. -/
def isDir? (path : String) (fields : Fields String) : Except SnapshotError Bool :=
  match Fields.get? fields "type" with
  | none => .ok false
  | some (.str "f") => .ok false
  | some (.str "d") => .ok true
  | some type => .error (.unknownType path type)

/-- Children that count as absent are allowed everywhere, a list with items in directories. -/
def checkChildren (path : String) (isDir : Bool) (fields : Fields String) :
    Except SnapshotError Unit :=
  let children := (Fields.get? fields "children").getD .null
  if children.isBlank then .ok ()
  else
    match children with
    | .arr _ => if isDir then .ok () else .error (.fileWithChildren path)
    | _ => .error (.childrenNotList path)

/-- The name of an entry, taken from its path when none is given. -/
def nameOf (path : String) (fields : Fields String) : String :=
  ((Fields.get? fields "name").bind Json.nonEmptyText?).getD (defaultName path)

/-- The rules are checked in the order path, type, children. -/
def ofFields (fields : Fields String) : Except SnapshotError Heading := do
  let path ← path? fields
  let isDir ← isDir? path fields
  checkChildren path isDir fields
  return ⟨nameOf path fields, path, isDir⟩

def entry (heading : Heading) (children : List Entry) : Entry :=
  if heading.isDir then .dir heading.name heading.path children
  else .file heading.name heading.path

end Heading

mutual

/-- The entry that a value describes. -/
def ofJson : Json String → Except SnapshotError Entry
  | .obj fields => do
    let heading ← Heading.ofFields fields
    let children ← ofChildrenField fields
    return heading.entry children
  | value => .error (.notMapping value)

def ofItems : List (Json String) → Except SnapshotError (List Entry)
  | [] => .ok []
  | value :: rest => do
    let entry ← ofJson value
    let entries ← ofItems rest
    return entry :: entries

/-- The entries in the field of the children; none when there is no such field. -/
def ofChildrenField : List (String × Json String) → Except SnapshotError (List Entry)
  | [] => .ok []
  | (name, value) :: rest => if name = "children" then ofChildren value else ofChildrenField rest

def ofChildren : Json String → Except SnapshotError (List Entry)
  | .arr items => ofItems items
  | _ => .ok []

end

/-- The entries of a whole snapshot. An object offers the names of its fields and a text its
characters, which are no entries. -/
def ofSnapshot : Json String → Except SnapshotError (List Entry)
  | .arr items => ofItems items
  | .obj fields => ofItems (fields.map fun field => .str field.1)
  | .str text => ofItems (text.toList.map fun c => .str (String.singleton c))
  | value => .error (.notEntries value)

/-! ### Encoding -/

mutual

def toJson : Entry → Json String
  | .file name path =>
    .obj [("name", .str name), ("path", .str path), ("type", .str "f"), ("children", .arr [])]
  | .dir name path children =>
    .obj [("name", .str name), ("path", .str path), ("type", .str "d"),
      ("children", .arr (toItems children))]

def toItems : List Entry → List (Json String)
  | [] => []
  | entry :: rest => entry.toJson :: toItems rest

end

end Entry

end Sidebar
