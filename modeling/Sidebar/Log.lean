import Sidebar.Text.Quoted
import Sidebar.Text.WideText

/-!
# Events

What happens during an operation besides its result, in order. Most events are written to the log;
a request for a file and the hand-over of an image to a viewer are for the outside to act on.
-/

namespace Sidebar

inductive Event where
  | treeLoaded (treeId : String) (size : Nat)
  | directorySkipped (path reason : String)
  | fileRequested (path : String)
  | fileHandedOver (path : String)
  | fileOpened (path mode : String)
  | openFailed (path reason : String)
  | savedDirectorySkipped (path : WideText)
  | savedTabSkipped (path : WideText)
  | sessionSaved (root : String) (openPaths : Nat)
deriving DecidableEq

inductive LogLevel where
  | debug
  | warning
deriving DecidableEq

namespace Event

/-- The line that an event writes to the log, if it writes one. -/
def logLine? : Event → Option (LogLevel × WideText)
  | .treeLoaded treeId size =>
    some (.debug, "Loaded tree " ++ Text.quoted treeId ++ " with " ++ toString size ++ " nodes")
  | .directorySkipped path reason =>
    some (.debug, "Skipping unreadable directory " ++ path ++ ": " ++ reason)
  | .fileRequested _ => none
  | .fileHandedOver _ => none
  | .fileOpened path mode => some (.debug, "Opened " ++ path ++ " in mode " ++ Text.quoted mode)
  | .openFailed path reason => some (.warning, "Failed to open " ++ path ++ ": " ++ reason)
  | .savedDirectorySkipped path =>
    some (.warning, "Skipping saved open path no longer in tree: " ++ path)
  | .savedTabSkipped path => some (.warning, "Skipping saved tab no longer in tree: " ++ path)
  | .sessionSaved root openPaths =>
    some (.debug,
      "Saved session for " ++ root ++ " with " ++ toString openPaths ++ " open paths")

end Event

end Sidebar
