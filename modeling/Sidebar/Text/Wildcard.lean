/-!
# Wildcards

In a shape of texts a `*` stands for any characters, perhaps none, and every other character for
itself.
-/

namespace Sidebar.Text

/-- Whether some end of a text, the whole text included, has a property. -/
def someSuffix (p : List Char → Bool) : List Char → Bool
  | [] => p []
  | c :: cs => p (c :: cs) || someSuffix p cs

/-- Whether a text has a shape. -/
def hasShape : List Char → List Char → Bool
  | [], text => text.isEmpty
  | c :: shape, text =>
    if c = '*' then someSuffix (hasShape shape) text
    else
      match text with
      | [] => false
      | d :: text => c = d && hasShape shape text

end Sidebar.Text
