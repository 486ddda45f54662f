import LiveScope.Command.Directory
import LiveScope.Main
import LiveScope.Palette.Theme
import LiveScope.Workspace.Operation
import LiveScope.Proofs.Naming
import LiveScope.Proofs.Claiming
import LiveScope.Proofs.Outline
import LiveScope.Proofs.Expansion
import LiveScope.Proofs.Tree
import LiveScope.Proofs.Installation.Editor
import LiveScope.Proofs.Installation.Run
import LiveScope.Proofs.Declaration.Lines
import LiveScope.Proofs.Declaration.Reading
import LiveScope.Proofs.Declaration.Legible
import LiveScope.Proofs.Declaration.Change
import LiveScope.Proofs.Host.History
import LiveScope.Proofs.Registration.Distinct
import LiveScope.Proofs.Declaration.Bindings
import LiveScope.Proofs.Surface.Turn
import LiveScope.Proofs.Surface.Mirror
import LiveScope.Proofs.Indifference
import LiveScope.Proofs.Following
import LiveScope.Proofs.Lineage
import LiveScope.Proofs.Acceptance
import LiveScope.Proofs.Palette.Edits
import LiveScope.Proofs.Registration.Interleaving
import LiveScope.Proofs.Rerooting
import LiveScope.Proofs.Extension
import LiveScope.Proofs.Installation.Churn
import LiveScope.Proofs.Palette.Spelling
import LiveScope.Proofs.RoundTrip
import LiveScope.Proofs.Declaration.Usable
import LiveScope.Proofs.Declaration.KeyText
import LiveScope.Proofs.Life.Focus
import LiveScope.Proofs.Life.Callbacks
import LiveScope.Proofs.Life.Workspace
import LiveScope.Proofs.Command.Configuration
import LiveScope.Proofs.Command.Directory
import LiveScope.Proofs.Command.Bench
import LiveScope.Proofs.Command.Delivery
import LiveScope.Proofs.Command.Setup
