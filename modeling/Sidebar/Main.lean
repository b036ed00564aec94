import Sidebar.CommandLine.Run
import Sidebar.FileSystem.Listing

/-!
# The program

Runs the command line on the file system whose listing is on the standard input. What a run saves is
saved in that file system and ends with the program.
-/

namespace Sidebar.CommandLine

/-- What a run starts from. -/
structure Setting where
  fs : FileSystem
  context : Context

namespace Setting

/-- Reads the fields `files`, `cwd` and `settings`: the listing, the working directory and the file
of the settings. -/
def ofJson? (value : Json) : Option Setting :=
  match value.field? "files", value.field? "cwd", value.field? "settings" with
  | some (.obj files), some (.str cwd), some (.str settings) => do
    let listed ← FileSystem.ofFields? files
    let fs ← (listed.changeDirectory (.ofString (← cwd.narrow?))).toOption
    return ⟨fs, { settings := .ofString (← settings.narrow?) }⟩
  | _, _, _ => none

def ofText? (text : String) : Option Setting := (Json.parse text).toOption.bind ofJson?

end Setting

namespace Exit

def code : Exit → UInt32
  | .normal => 0
  | .status number => number.toUInt32
  | .message _ => 1
  | .failure _ => 1

/-- What is said about an early end. -/
def text : Exit → String
  | .message said => said ++ "\n"
  | .failure cause => cause.message ++ "\n"
  | _ => ""

end Exit

end Sidebar.CommandLine

open Sidebar.CommandLine

def main (argv : List String) : IO UInt32 := do
  let input ← (← IO.getStdin).getLine
  match Setting.ofText? input with
  | none =>
    IO.eprintln "The standard input holds no file system."
    return 1
  | some setting =>
    let report := run setting.fs setting.context argv
    IO.print report.out
    IO.eprint (report.err ++ report.exit.text)
    return report.exit.code
