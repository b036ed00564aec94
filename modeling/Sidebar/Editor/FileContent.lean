import Sidebar.Editor.Image
import Sidebar.Editor.Mode
import Sidebar.Failure
import Sidebar.Text.Encoding

/-!
# File contents

What the editor gets when it asks for a file.
-/

namespace Sidebar.Editor

inductive FileContent where
  | text (mode content : String)
  | image
  | unreadable (reason : String)
deriving DecidableEq

/-- How the editor gets at files. -/
abbrev Loader := String → Except Failure FileContent

/-- Loads a file of a file system. Images are told by their name alone. -/
def loadFile (lexers : Lexers) (fs : FileSystem) : Loader := fun path =>
  let target := Path.ofString path
  if isImage target.name then .ok .image
  else
    match fs.bytesAt target with
    | .ok bytes =>
      let content := Text.ofFile bytes
      .ok (.text (modeOf lexers target.name content) content)
    | .error .embeddedNul => .error .embeddedNul
    | .error (.system errno) =>
      .ok (.unreadable
        ("Cannot open " ++ path ++ ": " ++ (Failure.system errno target.toString).message))

end Sidebar.Editor
