import Sidebar.FileSystem.Resolve
import Sidebar.Json.Printer
import Sidebar.Navigation

/-!
# Settings

A JSON object in a file holds the preference for hidden files, the bound on walks and the saved
sessions. Reading is tolerant: a missing or malformed file is an empty object, a value of the wrong
kind is a default. Only a text that is nested too deeply is a failure.
-/

namespace Sidebar.Settings

def showHiddenKey : WideText := "show_hidden"

def maxTreeDepthKey : WideText := "max_tree_depth"

def sessionsKey : WideText := "sessions"

/-! ### The file -/

/-- The object that a text holds. -/
def parse (text : String) : Except Failure Fields :=
  match Json.parse text with
  | .ok (.obj fields) => .ok fields
  | .ok _ => .ok []
  | .error .malformed => .ok []
  | .error (.tooDeep container) => .error (.tooDeep container)

/-- The settings in the file. -/
def load (fs : FileSystem) (file : Path) : Except Failure Fields :=
  match fs.bytesAt file with
  | .error _ => .ok []
  | .ok bytes =>
    match String.fromUTF8? bytes with
    | none => .ok []
    | some text => parse text

/-- The text that is written for a value. -/
def written (value : Json) : String := value.print ++ "\n"

/-- Writes a value to the file and creates the directories that lead to it. Where this fails, the
file stays as it is. -/
def save (fs : FileSystem) (file : Path) (value : Json) : FileSystem :=
  match fs.ensureDirectories file.parent with
  | (prepared, .error _) => prepared
  | (prepared, .ok ()) =>
    match prepared.putFile file (written value).toUTF8 with
    | .ok saved => saved
    | .error _ => prepared

/-- Sets one of the settings and leaves the others. -/
def update (fs : FileSystem) (file : Path) (key : WideText) (value : Json) :
    Except Failure FileSystem := do
  let fields ← load fs file
  return save fs file (.obj (Fields.put key value fields))

/-! ### The values -/

/-- Hidden files are shown only when the setting is true. -/
def showHidden (fields : Fields) : Bool :=
  match Fields.get? fields showHiddenKey with
  | some (.bool value) => value
  | _ => false

/-- The bound on walks: a positive whole number, or the default. -/
def maxTreeDepth (fields : Fields) : Int :=
  match Fields.get? fields maxTreeDepthKey with
  | some (.int value) => if 0 < value then value else Navigator.defaultBound
  | _ => Navigator.defaultBound

def isObject : Json → Bool
  | .obj _ => true
  | _ => false

/-- The saved sessions by workspace; records that are no objects are dropped. -/
def sessions (fields : Fields) : Fields :=
  match Fields.get? fields sessionsKey with
  | some (.obj records) => records.filter fun record => isObject record.2
  | _ => []

/-- Sets the preference for hidden files. -/
def saveShowHidden (fs : FileSystem) (file : Path) (value : Bool) : Except Failure FileSystem :=
  update fs file showHiddenKey (.bool value)

/-- Replaces the saved sessions. -/
def saveSessions (fs : FileSystem) (file : Path) (records : Json) : Except Failure FileSystem :=
  update fs file sessionsKey records

end Sidebar.Settings
