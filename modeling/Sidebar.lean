import Sidebar.Main
import Sidebar.Editor.KnownLanguages
import Sidebar.Proofs.Tree.Position
import Sidebar.Proofs.Tree.Shows
import Sidebar.Proofs.Navigation.Walks
import Sidebar.Proofs.Navigation.Moves
import Sidebar.Proofs.Store.Sound
import Sidebar.Proofs.Workbench.Run
import Sidebar.Proofs.Editor.Tabs
import Sidebar.Proofs.Session.Expanded
import Sidebar.Proofs.Session.RoundTrip
import Sidebar.Proofs.Editor.Origins
import Sidebar.Proofs.Settings.Saved
import Sidebar.Proofs.Workbench.Paths
import Sidebar.Proofs.Session.Saved
import Sidebar.Proofs.FileSystem.Rescanning
import Sidebar.Proofs.CommandLine.History
import Sidebar.Proofs.CommandLine.Restored
import Sidebar.Proofs.Editor.Edits
import Sidebar.Proofs.Navigation.Bounded
import Sidebar.Proofs.FileSystem.Names
import Sidebar.Proofs.Tree.Lines
import Sidebar.Proofs.FileSystem.Loaded
import Sidebar.Proofs.FileSystem.Places
import Sidebar.Proofs.CommandLine.Appended
import Sidebar.Proofs.CommandLine.Addressed
import Sidebar.Proofs.Tree.Decoding
import Sidebar.Proofs.Store.Building
import Sidebar.Proofs.Tree.Visible
import Sidebar.Proofs.Navigation.Hidden
import Sidebar.Proofs.Workbench.Held
import Sidebar.Proofs.Workbench.Selection
import Sidebar.Proofs.Workbench.Stale
import Sidebar.Proofs.Workbench.Keys
import Sidebar.Proofs.Navigation.Bottom
import Sidebar.Proofs.Navigation.Behind
import Sidebar.Proofs.CommandLine.Raised
import Sidebar.Proofs.FileSystem.Differing
import Sidebar.Proofs.FileSystem.Replaced
import Sidebar.Proofs.Settings.Sanitised
import Sidebar.Proofs.CommandLine.Parallel
import Sidebar.Proofs.CommandLine.Damaged
import Sidebar.Proofs.Tree.Ancestors
import Sidebar.Proofs.Navigation.Filtered
import Sidebar.Proofs.Navigation.Ancestry
import Sidebar.Proofs.Store.Marked
import Sidebar.Proofs.Navigation.Toggled
import Sidebar.Proofs.Session.Applied
import Sidebar.Proofs.CommandLine.Opened
import Sidebar.Proofs.Navigation.Ends
import Sidebar.Proofs.FileSystem.HiddenEntries
import Sidebar.Proofs.Tree.LastSegment
import Sidebar.Proofs.Store.Mirrored
import Sidebar.Proofs.Text.Utf8
import Sidebar.Proofs.Editor.Reading
import Sidebar.Proofs.Navigation.Blocks
import Sidebar.Proofs.Navigation.Siblings
import Sidebar.Proofs.Workbench.Picked
import Sidebar.Proofs.Editor.Loading
