import Sidebar.Failure

/-!
# Resolved paths

The absolute form of a path: links are followed, `..` is applied after following, and names that
lead nowhere are kept. A link that is met again while it is being followed stays as it is, together
with the names behind it.
-/

namespace Sidebar

/-- Where a way starts: at the root, which exactly two slashes tell apart, or so many directories
above the working directory. -/
inductive Base where
  | root
  | doubleRoot
  | above (levels : Nat)
deriving DecidableEq

/-- A way through the directories: where it starts and the names that follow, of which none is `..`.
Links are told apart by the ways to them. -/
structure Way where
  base : Base
  names : List String
deriving DecidableEq

namespace Base

/-- The base that an anchor stands for. -/
def ofAnchor : Anchor → Base
  | .relative => .above 0
  | .root => .root
  | .doubleRoot => .doubleRoot

/-- The base one directory up. Above the root there is nothing. -/
def up : Base → Base
  | .above levels => .above (levels + 1)
  | base => base

/-- The path that a way from the base is written as. -/
def path (names : List String) : Base → Path
  | .root => ⟨.root, names⟩
  | .doubleRoot => ⟨.doubleRoot, names⟩
  | .above levels => ⟨.relative, List.replicate levels ".." ++ names⟩

end Base

namespace Way

def down (way : Way) (name : String) : Way := { way with names := way.names ++ [name] }

def up (way : Way) : Way :=
  if way.names.isEmpty then { way with base := way.base.up }
  else { way with names := way.names.dropLast }

/-- The path that the way is written as. -/
def path (way : Way) : Path := way.base.path way.names

/-- Applies a name without looking at links. -/
def enter (way : Way) (name : String) : Way := if name = ".." then way.up else way.down name

/-- Puts unread pieces of a text behind a way. Pieces that go on with a slash start again at the
root. -/
def join (way : Way) (pieces : List String) : Way :=
  let rest := Path.ofString ("/".intercalate pieces)
  match rest.anchor with
  | .relative => rest.names.foldl enter way
  | anchor => rest.names.foldl enter ⟨.ofAnchor anchor, []⟩

end Way

/-- The links whose ends are known. -/
abbrev KnownLinks := List (Way × Way)

/-- The end of following names: all of them, or up to a link that leads back to itself, or a failure
on the way. -/
inductive Resolution where
  | resolved (way : Way) (known : KnownLinks)
  | looped (way : Way)
  | failed (failure : Failure)

namespace FileSystem

/-- The most links that are followed inside each other. -/
def maxNestedLinks : Nat := 985

/-- The place that a way without links leads to. -/
def placeOf? (fs : FileSystem) (way : Way) : Option Place :=
  match way.base with
  | .above levels => (fs.above? levels).map (· ++ way.names)
  | _ => some way.names

/-- The target of the link that a way leads to. A way whose text is too long leads to none. -/
def linkAt? (fs : FileSystem) (way : Way) : Option String :=
  if way.path.toString.utf8ByteSize > maxPathBytes then none
  else
    match (fs.placeOf? way).bind fs.at? with
    | some (.link target) => some target
    | _ => none

/-- Follows the pieces of a text. `active` holds the links that are being followed, and `nesting` is
the number of further ones that may be followed inside them. -/
def resolveFrom (fs : FileSystem) :
    (nesting : Nat) → (active : List Way) → (known : KnownLinks) → (here : Way) →
      (pieces : List String) → Resolution
  | _, _, known, here, [] => .resolved here known
  | nesting, active, known, here, name :: rest =>
    if name = "" || name = "." then fs.resolveFrom nesting active known here rest
    else if name = ".." then fs.resolveFrom nesting active known here.up rest
    else if name.contains '\x00' then .failed .embeddedNul
    else
      match fs.linkAt? (here.down name) with
      | none => fs.resolveFrom nesting active known (here.down name) rest
      | some target =>
        match known.lookup (here.down name) with
        | some there => fs.resolveFrom nesting active known there rest
        | none =>
          if active.contains (here.down name) then .looped ((here.down name).join rest)
          else
            match nesting with
            | 0 => .failed .linksTooDeep
            | nesting + 1 =>
              match fs.resolveFrom nesting (here.down name :: active) known
                  (if target.startsWith '/' then ⟨.root, []⟩ else here)
                  ((segments target.toList).map String.ofList) with
              | .resolved there known =>
                fs.resolveFrom (nesting + 1) active ((here.down name, there) :: known) there rest
              | .looped there => .looped (there.join rest)
              | .failed failure => .failed failure
termination_by nesting _ _ _ pieces => (nesting, pieces.length)

/-- The way that following a path leads to. -/
def resolveWay (fs : FileSystem) (p : Path) : Except Failure Way :=
  let start : Way := ⟨if p.anchor = .relative then .above 0 else .root, []⟩
  match fs.resolveFrom maxNestedLinks [] [] start p.names with
  | .resolved way _ => .ok way
  | .looped way => .ok way
  | .failed failure => .error failure

/-- The path of the working directory, unless it is lost. -/
def workingDirectory (fs : FileSystem) : Except Failure Path :=
  if 0 < fs.lost then .error .lostWorkingDirectory else .ok (.absolute fs.cwd)

/-- The absolute path of a way. -/
def absolutePath (fs : FileSystem) (way : Way) : Except Failure Path :=
  match way.base with
  | .above levels => do
    let cwd ← fs.workingDirectory
    return .absolute (cwd.names.take (cwd.names.length - levels) ++ way.names)
  | base => .ok (base.path way.names)

/-- The absolute form of a path. It is refused when following it comes to no end. -/
def resolve (fs : FileSystem) (p : Path) : Except Failure Path := do
  let resolved ← fs.absolutePath (← fs.resolveWay p)
  match fs.stat resolved with
  | .error .embeddedNul => throw .embeddedNul
  | .error (.system .tooManyLinks) => throw (.symlinkLoop resolved.toString)
  | _ => return resolved

end FileSystem

end Sidebar
