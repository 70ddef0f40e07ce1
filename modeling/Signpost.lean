import Signpost.CommandLine
import Signpost.Main
import Signpost.Scripted
import Signpost.Server
import Signpost.Proofs.Act
import Signpost.Proofs.Navigator.Request
import Signpost.Proofs.Navigator.Refusal
import Signpost.Proofs.Breadcrumbs
import Signpost.Proofs.Session
import Signpost.Proofs.Navigator.Travel
import Signpost.Proofs.Navigator.OneMove
import Signpost.Proofs.History
import Signpost.Proofs.Navigator.Coherence
import Signpost.Proofs.Navigator.NonBlocking
import Signpost.Proofs.Navigator.Resumption
import Signpost.Proofs.Navigator.Composite
import Signpost.Proofs.Library
import Signpost.Proofs.Navigator.Grounded
import Signpost.Proofs.Navigator.Waiting
import Signpost.Proofs.Navigator.Outstanding
import Signpost.Proofs.Navigator.Agreement
import Signpost.Proofs.Navigator.Action
import Signpost.Proofs.Navigator.Retry
import Signpost.Proofs.Menu
import Signpost.Proofs.Navigator.Choosing
import Signpost.Proofs.Navigator.Answering
import Signpost.Proofs.Navigator.Selecting
import Signpost.Proofs.Navigator.Twin
import Signpost.Proofs.Host
import Signpost.Proofs.Scripted
import Signpost.Proofs.Text.Split
import Signpost.Proofs.Text.Utf8
import Signpost.Proofs.Command
import Signpost.Proofs.Command.Instruction
import Signpost.Proofs.Command.Spelling
import Signpost.Proofs.Check
import Signpost.Proofs.Link
import Signpost.Proofs.Link.Resolution
import Signpost.Proofs.Authorizer
import Signpost.Proofs.Location
import Signpost.Proofs.Value.Quoted
import Signpost.Proofs.Value.Indented
import Signpost.Proofs.Number.Reading
import Signpost.Proofs.Value.Legible
import Signpost.Proofs.Files.Path
import Signpost.Proofs.Files.Tree
import Signpost.Proofs.Files.Way
import Signpost.Proofs.Files.Directory
import Signpost.Proofs.Document.Directory
import Signpost.Proofs.Session.File
import Signpost.Proofs.Session.Through
import Signpost.Proofs.Navigator.Law
import Signpost.Proofs.Navigator.Charter
import Signpost.Proofs.Navigator.Errand
import Signpost.Proofs.Navigator.Following
import Signpost.Proofs.Navigator.Checked
import Signpost.Proofs.Navigator.Return
import Signpost.Proofs.Navigator.Permission
import Signpost.Proofs.Navigator.Invariant
import Signpost.Proofs.Navigator.Reloading
import Signpost.Proofs.Navigator.Conduct
import Signpost.Proofs.Navigator.Conforming
import Signpost.Proofs.Navigator.Unaddressed
import Signpost.Proofs.Navigator.Ambiguous
import Signpost.Proofs.Navigator.Misread
import Signpost.Proofs.Document.Launches
import Signpost.Proofs.Navigator.Launched
import Signpost.Proofs.Navigator.Patience
import Signpost.Proofs.Navigator.Ending
import Signpost.Proofs.Navigator.Stay
import Signpost.Proofs.Navigator.Tour
import Signpost.Proofs.Navigator.Limited
import Signpost.Server.Traffic
import Signpost.Proofs.Server.Traffic
import Signpost.Proofs.Server.Numbers
import Signpost.Proofs.Server.Turns
import Signpost.Proofs.Server.Alone
import Signpost.Proofs.Server.Isolation
import Signpost.Proofs.Server.Undisturbed
import Signpost.Proofs.Table.Ending
import Signpost.Proofs.Confinement
import Signpost.Proofs.Table.Store
import Signpost.Proofs.Table.Refinement
import Signpost.Proofs.Navigator.Residue
import Signpost.Proofs.Navigator.RequiredMenu
import Signpost.Proofs.Workflow
import Signpost.Proofs.Navigator.InOrder
import Signpost.Proofs.Text.Count
import Signpost.Proofs.Menu.Resolution
import Signpost.Proofs.Menu.Building
import Signpost.Proofs.Menu.Narrowing
import Signpost.Proofs.Check.Menus
import Signpost.Proofs.Key
import Signpost.Proofs.Document.Lookup
import Signpost.Proofs.Document.Files
import Signpost.Proofs.Table.Ids
import Signpost.Proofs.Command.Segments
import Signpost.Proofs.Program.Capture
import Signpost.Proofs.Terminal
