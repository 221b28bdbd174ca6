import RegionSync.CommandLine.Arguments
import RegionSync.CommandLine.Command
import RegionSync.CommandLine.Failure
import RegionSync.CommandLine.Help
import RegionSync.CommandLine.Json
import RegionSync.CommandLine.Report
import RegionSync.CommandLine.Run
import RegionSync.CommandLine.Style
import RegionSync.Document.Basic
import RegionSync.Document.Malformed
import RegionSync.Document.Reading
import RegionSync.Environment
import RegionSync.FileSystem.Access
import RegionSync.FileSystem.Basic
import RegionSync.FileSystem.Edit
import RegionSync.FileSystem.Error
import RegionSync.FileSystem.Path
import RegionSync.FileSystem.Rename
import RegionSync.FileSystem.Walk
import RegionSync.Main
import RegionSync.ManagedFile
import RegionSync.Marker
import RegionSync.Merge
import RegionSync.Number.Binary64
import RegionSync.Number.Shortest
import RegionSync.Proofs.Document.Concatenation
import RegionSync.Proofs.Document.Expansion
import RegionSync.Proofs.Document.Layout
import RegionSync.Proofs.Document.Pairing
import RegionSync.Proofs.Document.Position
import RegionSync.Proofs.Document.Reading
import RegionSync.Proofs.Document.WellFormed
import RegionSync.Proofs.FileSystem.Footprint
import RegionSync.Proofs.FileSystem.Reach
import RegionSync.Proofs.FileSystem.Replacement
import RegionSync.Proofs.FileSystem.Walk
import RegionSync.Proofs.ManagedFile.Atomicity
import RegionSync.Proofs.ManagedFile.Fresh
import RegionSync.Proofs.ManagedFile.Rewriting
import RegionSync.Proofs.ManagedFile.Writing
import RegionSync.Proofs.Marker.Pattern
import RegionSync.Proofs.Marker.Printing
import RegionSync.Proofs.Marker.Recognition
import RegionSync.Proofs.Merge.Acceptance
import RegionSync.Proofs.Merge.Accounting
import RegionSync.Proofs.Merge.Change
import RegionSync.Proofs.Merge.Expansion
import RegionSync.Proofs.Merge.Forecast
import RegionSync.Proofs.Merge.Fresh
import RegionSync.Proofs.Merge.Idempotence
import RegionSync.Proofs.Merge.InPlace
import RegionSync.Proofs.Merge.Keeping
import RegionSync.Proofs.Merge.Rereading
import RegionSync.Proofs.Merge.Run
import RegionSync.Proofs.Merge.Union
import RegionSync.Proofs.Outcome
import RegionSync.Proofs.Region.Interrupted
import RegionSync.Proofs.Region.LostReturn
import RegionSync.Proofs.Region.Padding
import RegionSync.Proofs.Region.Replacing
import RegionSync.Proofs.Registry.Acceptance
import RegionSync.Proofs.Registry.HiddenMarker
import RegionSync.Proofs.Registry.Renewal
import RegionSync.Proofs.Registry.Resolution
import RegionSync.Proofs.Registry.Stored
import RegionSync.Proofs.Registry.Version
import RegionSync.Proofs.Snippet.FaultyLine
import RegionSync.Proofs.Snippet.Page
import RegionSync.Proofs.Text.Break
import RegionSync.Proofs.Text.RawLine
import RegionSync.Proofs.Yaml.Scanning
import RegionSync.Proofs.Yaml.Source
import RegionSync.Proofs.Yaml.Tree
import RegionSync.Proofs.Yaml.Whole
import RegionSync.Region
import RegionSync.Registry.Basic
import RegionSync.Registry.Builtin
import RegionSync.Registry.Configuration
import RegionSync.Registry.Fault
import RegionSync.Registry.Resolution
import RegionSync.Section
import RegionSync.Snippet
import RegionSync.Snippet.Window
import RegionSync.Text.Basic
import RegionSync.Text.Blank
import RegionSync.Text.Borders
import RegionSync.Text.Hidden
import RegionSync.Text.Line
import RegionSync.Text.Overlay
import RegionSync.Text.Quoted
import RegionSync.Text.Width
import RegionSync.Yaml.Block
import RegionSync.Yaml.Character
import RegionSync.Yaml.Event
import RegionSync.Yaml.Folding
import RegionSync.Yaml.Node
import RegionSync.Yaml.Plain
import RegionSync.Yaml.Quoted
import RegionSync.Yaml.Tag
import RegionSync.Yaml.Token
import RegionSync.Yaml.Token.Lexer
import RegionSync.Yaml.Value
import RegionSync.Proofs.Marker.Pattern
import RegionSync.Proofs.Marker.Recognition
