import Sidebar.FileSystem.Access
import Sidebar.Json.Parser
import Sidebar.Text.Quoted

/-!
# Failures

The causes that end an operation, and their messages. A question about the tree that has no answer
is a `NavigationError` instead.
-/

namespace Sidebar

inductive Failure where
  | embeddedNul
  | system (errno : Errno) (path : String)
  | symlinkLoop (path : String)
  | linksTooDeep
  | directoriesTooDeep
  | tooDeep (container : Json.Container)
  | notAPath
  | notARecord (kind : Json.Kind)
  | lostWorkingDirectory
  | outputRefused (reason : String)
deriving DecidableEq

namespace Failure

/-- What the system says, without the path that it is about. -/
def errnoText (errno : Errno) : String := "[Errno " ++ toString errno.code ++ "] " ++ errno.text

def systemMessage (errno : Errno) (path : String) : String :=
  errnoText errno ++ ": " ++ Text.quoted path

def containerWord : Json.Container → String
  | .array => "array"
  | .object => "object"

def depthText : String := "maximum recursion depth exceeded"

def message : Failure → String
  | .embeddedNul => "embedded null byte"
  | .system errno path => systemMessage errno path
  | .symlinkLoop path => "Symlink loop from " ++ Text.quoted path
  | .linksTooDeep => depthText
  | .directoriesTooDeep => depthText ++ " while calling a Python object"
  | .tooDeep container =>
    depthText ++ " while decoding a JSON " ++ containerWord container ++
      " from a unicode string"
  | .notAPath => "expected str, bytes or os.PathLike object, not list"
  | .notARecord kind => "'" ++ kind.word ++ "' object has no attribute 'get'"
  | .lostWorkingDirectory => errnoText .noEntry
  | .outputRefused reason => reason

/-- The failure of an access to a path. -/
def ofAccess (p : Path) : AccessError → Failure
  | .embeddedNul => .embeddedNul
  | .system errno => .system errno p.toString

end Failure

end Sidebar
