import Sidebar.CommandLine.Options

/-!
# Usage texts
-/

namespace Sidebar.CommandLine

def line (text : String) : String := text ++ "\n"

def unlines (lines : List String) : String := String.join (lines.map line)

def usage : String := unlines [
  "usage: treenav [-h] [--show-hidden] [--no-show-hidden] [--expand PATH]",
  "               [--restore] [--save]",
  "               [--list-open | --find PATH | --next PATH | --last PATH | --is-bottom PATH | --visible]",
  "               [root]"]

def help : String := usage ++ unlines [
  "",
  "Answer file-tree navigation queries for a workspace.",
  "",
  "positional arguments:",
  "  root              Workspace directory. Defaults to current directory.",
  "",
  "options:",
  "  -h, --help        show this help message and exit",
  "  --show-hidden     Include dot files.",
  "  --no-show-hidden  Skip dot files.",
  "  --expand PATH     Open a directory (repeatable).",
  "  --restore         Apply the saved session before querying.",
  "  --save            Save open paths, and any --show-hidden/--no-show-hidden",
  "                    choice, after querying.",
  "  --list-open       Print open directory paths (default).",
  "  --find PATH       Print the node id for PATH.",
  "  --next PATH       Print the next visible node after PATH's subtree.",
  "  --last PATH       Print the last visible node under PATH.",
  "  --is-bottom PATH  Print whether PATH is the last visible row.",
  "  --visible         Print visible rows indented by depth."]

/-- What is written about a command line that cannot be read. -/
def usageReport (error : UsageError) : String :=
  usage ++ "treenav: error: " ++ error.message ++ "\n"

end Sidebar.CommandLine
