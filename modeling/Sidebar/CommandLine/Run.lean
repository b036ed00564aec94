import Sidebar.CommandLine.Usage
import Sidebar.FileSystem.Scan
import Sidebar.Session

/-!
# Running a command line

A run scans a workspace into a tree, opens directories as the saved session and the arguments ask,
answers one question, and saves the session when that is asked for. Nothing is written before the
question is answered. The answer itself is printed last: an output that refuses it ends a run that
has saved its session already.
-/

namespace Sidebar.CommandLine

/-- How a run ends: normally, with a status, with a message, or with a failure. -/
inductive Exit where
  | normal
  | status (code : Nat)
  | message (text : String)
  | failure (failure : Failure)
deriving DecidableEq

/-- What a run leaves behind. Its texts are what it writes to the standard output, in order. -/
structure Report where
  exit : Exit
  texts : List String := []
  err : String := ""
  fs : FileSystem
  events : List Event := []

def Report.out (report : Report) : String := String.join report.texts

/-- The surroundings of a run: the file of the settings, and the directory that stands in for a
missing root. -/
structure Context where
  settings : Path
  defaultRoot : Option String := none

/-- A scanned workspace. -/
structure Workspace where
  root : Path
  store : Store
  bound : Int
  events : List Event

/-- An early end, with the events up to it. -/
structure Halt where
  exit : Exit
  events : List Event := []

def Halt.ofFailure (events : List Event) (failure : Failure) : Halt := ⟨.failure failure, events⟩

namespace Workspace

def navigator (w : Workspace) : Navigator := ⟨w.store.forest, w.bound⟩

end Workspace

/-- The absolute path of an operand. -/
def resolveOperand (fs : FileSystem) : Operand → Except Failure String
  | none => .error .notAPath
  | some text => (fs.resolve (Path.ofString text)).map Path.toString

/-- The node that an operand names. -/
def nodeOf (fs : FileSystem) (forest : Forest) (operand : Operand) : Except Exit Node := do
  let path ← (resolveOperand fs operand).mapError Exit.failure
  match forest.atPath? path with
  | some n => return n
  | none => throw (.message ("Path not in tree: " ++ operand.getD ""))

/-! ### Preparing the workspace -/

/-- The directory that stands in for a missing root: the given one, or the working directory. -/
def defaultRoot (fs : FileSystem) (ctx : Context) : Except Failure Path :=
  match ctx.defaultRoot with
  | some text => .ok (.ofString text)
  | none => fs.workingDirectory

/-- The root as an absolute path, which must lead to a directory. The directory that would stand in
for it is looked up first. -/
def openRoot (fs : FileSystem) (ctx : Context) (args : Arguments) : Except Exit Path := do
  let standIn ← (defaultRoot fs ctx).mapError Exit.failure
  let given := (args.root.filter fun text => !text.isEmpty).map Path.ofString
  let root ← (fs.resolve (given.getD standIn)).mapError Exit.failure
  let isDir ← (fs.isDirectory root).mapError fun error => .failure (Failure.ofAccess root error)
  if isDir then return root else throw (.message ("Not a directory: " ++ root.toString))

/-- Scans the workspace into a store. -/
def loadWorkspace (fs : FileSystem) (ctx : Context) (args : Arguments) :
    Except Halt Workspace := do
  let root ← (openRoot fs ctx args).mapError fun exit => { exit := exit }
  let showHidden ←
    match args.showHidden with
    | some value => pure value
    | none => ((Settings.load fs ctx.settings).map Settings.showHidden).mapError (.ofFailure [])
  let scan ← (fs.scan root showHidden).mapError fun halt => .ofFailure halt.events halt.failure
  let store := Store.load {} scan.entries
  let events := scan.events ++ [.treeLoaded store.treeId store.forest.size]
  let bound ← ((Settings.load fs ctx.settings).map Settings.maxTreeDepth).mapError
    (.ofFailure events)
  return ⟨root, store, Navigator.clamp bound, events⟩

/-- Opens the directories of the saved session. -/
def restore (fs : FileSystem) (ctx : Context) (w : Workspace) : Except Halt Workspace := do
  let record ← (Session.load fs ctx.settings w.root).mapError (.ofFailure w.events)
  match record with
  | none => return w
  | some record =>
    let restored := record.expandIn w.store
    return { w with store := restored.store, events := w.events ++ restored.events }

/-- Opens the nodes that the operands name. -/
def expandOperands (fs : FileSystem) : Workspace → List Operand → Except Halt Workspace
  | w, [] => .ok w
  | w, operand :: rest => do
    let n ← (nodeOf fs w.store.forest operand).mapError fun exit => ⟨exit, w.events⟩
    expandOperands fs { w with store := w.store.expand n (some true) } rest

/-- The workspace as the question finds it. -/
def prepare (fs : FileSystem) (ctx : Context) (args : Arguments) : Except Halt Workspace := do
  let w ← loadWorkspace fs ctx args
  let w ← if args.restore then restore fs ctx w else pure w
  expandOperands fs w args.expand

/-! ### Answering -/

/-- What stands for a node that is not there. -/
def absent : String := "-"

/-- A visible row: its name behind two blanks for each level, with a slash behind directories. -/
def visibleLine (n : Node) : String :=
  String.ofList (List.replicate (2 * n.row.level.toNat) ' ') ++ n.row.name ++
    (if n.row.isDir then "/" else "")

/-- Asks the navigator about the node that an operand names. -/
def ask {α : Type} (fs : FileSystem) (w : Workspace) (operand : Operand)
    (question : Navigator → Node → Except NavigationError α) : Except Exit α := do
  let n ← nodeOf fs w.store.forest operand
  (question w.navigator n).mapError fun error => .message error.message

/-- The lines that answer a question. -/
def answer (fs : FileSystem) (w : Workspace) : Query → Except Exit (List String)
  | .find operand => do
    let path ← (resolveOperand fs operand).mapError Exit.failure
    return [(w.store.forest.tidOfPath? path).getD absent]
  | .next operand => do
    let next ← ask fs w operand Navigator.nextVisible
    return [(next.map Node.path).getD absent]
  | .last operand => do
    let last ← ask fs w operand Navigator.lastVisible
    return [last.path]
  | .isBottom operand => do
    let isBottom ← ask fs w operand Navigator.isBottom
    return [if isBottom then "yes" else "no"]
  | .visible => return w.store.forest.visibleRows.map visibleLine
  | .listOpen => return w.store.forest.openPaths

/-! ### Saving -/

/-- Saves the session, and the preference for hidden files when the arguments name it. -/
def save (fs : FileSystem) (ctx : Context) (args : Arguments) (w : Workspace) :
    Except Failure (FileSystem × List Event) := do
  let saved ← Session.save fs ctx.settings w.root w.store.forest none
  match args.showHidden with
  | none => return (saved.fs, saved.events)
  | some value => return (← Settings.saveShowHidden saved.fs ctx.settings value, saved.events)

/-! ### The whole run -/

/-- Answers the question of a prepared workspace and saves the session. -/
def conclude (fs : FileSystem) (ctx : Context) (args : Arguments) (w : Workspace) : Report :=
  match answer fs w args.query with
  | .error exit => { exit := exit, fs := fs, events := w.events }
  | .ok lines =>
    if args.save then
      match save fs ctx args w with
      | .error failure => { exit := .failure failure, fs := fs, events := w.events }
      | .ok (saved, events) =>
        { exit := .normal, texts := lines.map line, fs := saved, events := w.events ++ events }
    else { exit := .normal, texts := lines.map line, fs := fs, events := w.events }

/-- Runs a command line whose output takes what is written to it. -/
def run (fs : FileSystem) (ctx : Context) (argv : List String) : Report :=
  match parse argv with
  | .error .help => { exit := .status 0, texts := [help], fs := fs }
  | .error (.usage error) => { exit := .status 2, err := usageReport error, fs := fs }
  | .ok args =>
    match prepare fs ctx args with
    | .error halt => { exit := halt.exit, fs := fs, events := halt.events }
    | .ok w => conclude fs ctx args w

/-! ### Outputs -/

/-- A standard output. It may refuse a text for some reason, whatever it has taken before. -/
abbrev Output := (taken : List String) → (text : String) → Option String

/-- The texts that an output takes, up to the first one that it refuses, and why it does. -/
def Output.write (output : Output) : (taken : List String) → List String →
    List String × Option String
  | taken, [] => (taken, none)
  | taken, text :: rest =>
    match output taken text with
    | none => output.write (taken ++ [text]) rest
    | some reason => (taken, some reason)

/-- A text that is refused ends the run, but everything else is done by then. -/
def Report.writtenTo (report : Report) (output : Output) : Report :=
  match output.write [] report.texts with
  | (_, none) => report
  | (taken, some reason) =>
    { report with exit := .failure (.outputRefused reason), texts := taken }

/-- Runs a command line with an output. -/
def runOn (output : Output) (fs : FileSystem) (ctx : Context) (argv : List String) : Report :=
  (run fs ctx argv).writtenTo output

end Sidebar.CommandLine
