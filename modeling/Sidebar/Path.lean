/-!
# Paths

A path is where it starts and the names that follow. Reading a text drops doubled and trailing
slashes and the names `.`, but keeps `..`, which can be removed only by looking at links.
-/

namespace Sidebar

/-- Where a path starts. Exactly two leading slashes are told apart from one. -/
inductive Anchor where
  | relative
  | root
  | doubleRoot
deriving DecidableEq

structure Path where
  anchor : Anchor
  names : List String
deriving DecidableEq

/-- The pieces of a text between slashes, empty ones included. -/
def segments : List Char → List (List Char)
  | [] => [[]]
  | c :: cs =>
    if c = '/' then [] :: segments cs
    else
      match segments cs with
      | [] => [[c]]
      | first :: rest => (c :: first) :: rest

namespace Anchor

/-- The anchor of a text with the given number of leading slashes. -/
def ofSlashes : Nat → Anchor
  | 0 => .relative
  | 2 => .doubleRoot
  | _ => .root

def text : Anchor → String
  | .relative => ""
  | .root => "/"
  | .doubleRoot => "//"

end Anchor

namespace Path

/-- Whether a piece of a text is a name of the path. -/
def isName (segment : List Char) : Bool := segment ≠ [] && segment ≠ ['.']

def ofString (text : String) : Path :=
  ⟨.ofSlashes (text.toList.takeWhile (· = '/')).length,
    ((segments text.toList).filter isName).map String.ofList⟩

/-- The text of a path; a path without names that does not start at the root is a dot. -/
def toString (p : Path) : String :=
  match p.anchor, p.names with
  | .relative, [] => "."
  | anchor, names => anchor.text ++ "/".intercalate names

/-- The last name of a path; a path without names has the empty one. -/
def name (p : Path) : String := p.names.getLastD ""

/-- The path of an entry of a directory. -/
def child (p : Path) (name : String) : Path := { p with names := p.names ++ [name] }

/-- The path without its last name. -/
def parent (p : Path) : Path := { p with names := p.names.dropLast }

/-- The path from the root to a place. -/
def absolute (names : List String) : Path := ⟨.root, names⟩

end Path

end Sidebar
