/-!
# Editor modes

The mode of a text file is the first of the short names of the language that a look-up finds for the
name of the file and its content. What is looked up is not fixed here.
-/

namespace Sidebar.Editor

/-- The mode of plain text. -/
def plainMode : String := "text"

/-- The mode that images are handed over with. -/
def imageMode : String := "img"

/-- A look-up of languages by the name of a file, with its content to choose between several. It
gives the short names of the language, and nothing for a name that fits none. -/
structure Lexers where
  find? : (name content : String) → Option (List String)
  /-- No language goes by the mode of images. -/
  find?_ne_image : ∀ {name content aliases}, find? name content = some aliases →
    aliases.head? ≠ some imageMode

/-- The mode of a file with the given name and content. -/
def modeOf (lexers : Lexers) (name content : String) : String :=
  match lexers.find? name content with
  | some (first :: _) => first
  | _ => plainMode

/-- A text is never taken for an image. -/
theorem modeOf_ne_imageMode (lexers : Lexers) (name content : String) :
    modeOf lexers name content ≠ imageMode := by
  rw [modeOf]
  split
  · next first rest hfind =>
    simpa using lexers.find?_ne_image hfind
  · decide

end Sidebar.Editor
