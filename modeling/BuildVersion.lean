import BuildVersion.Build.Builder
import BuildVersion.Build.Detection
import BuildVersion.Build.Reading
import BuildVersion.CommandLine.Command
import BuildVersion.CommandLine.Options
import BuildVersion.CommandLine.Request
import BuildVersion.Config.Basic
import BuildVersion.Config.Endpoints
import BuildVersion.Config.Load
import BuildVersion.Config.Table
import BuildVersion.Config.Tool
import BuildVersion.Console.Action
import BuildVersion.Console.Action.Token
import BuildVersion.Console.Appearance
import BuildVersion.Console.Colour
import BuildVersion.Console.Journal
import BuildVersion.Console.Markup
import BuildVersion.Console.Notice
import BuildVersion.Console.Strip
import BuildVersion.Console.Terminal
import BuildVersion.Deflate.Bits
import BuildVersion.Deflate.Block
import BuildVersion.Deflate.Code
import BuildVersion.Deflate.Content
import BuildVersion.ExitCode
import BuildVersion.Fault
import BuildVersion.Fetch.Authority
import BuildVersion.Fetch.Client
import BuildVersion.Fetch.Failure
import BuildVersion.Fetch.Internet
import BuildVersion.Fetch.Url
import BuildVersion.Files.Path
import BuildVersion.Files.Tree
import BuildVersion.Gzip.Chain
import BuildVersion.Gzip.Checksum
import BuildVersion.Gzip.Flow
import BuildVersion.Gzip.Reader
import BuildVersion.Inspection
import BuildVersion.Lookup.Resolver
import BuildVersion.Lookup.Session
import BuildVersion.Main
import BuildVersion.Number.Binary64
import BuildVersion.Number.Literal
import BuildVersion.Number.Numeral
import BuildVersion.Number.Rounded
import BuildVersion.Number.Shortest
import BuildVersion.Outcome
import BuildVersion.Program.Host
import BuildVersion.Program.Report
import BuildVersion.Program.Run
import BuildVersion.Settings.Value
import BuildVersion.Tar.Archive
import BuildVersion.Tar.Entry
import BuildVersion.Tar.Header
import BuildVersion.Tar.Name
import BuildVersion.Tar.Record
import BuildVersion.Template.Expand
import BuildVersion.Template.Kind
import BuildVersion.Template.Layout
import BuildVersion.Template.NumberLayout
import BuildVersion.Template.Piece
import BuildVersion.Template.Value
import BuildVersion.Text.Alphanumeric
import BuildVersion.Text.Blank
import BuildVersion.Text.CellWidth
import BuildVersion.Text.Digit
import BuildVersion.Text.Lowercase
import BuildVersion.Text.Pictograph
import BuildVersion.Text.Printable
import BuildVersion.Text.Quoted
import BuildVersion.Text.Split
import BuildVersion.Text.Utf8
import BuildVersion.Toml.Document
import BuildVersion.Toml.Moment
import BuildVersion.Toml.Number
import BuildVersion.Toml.Reader
import BuildVersion.Toml.Text
import BuildVersion.Toml.Value
import BuildVersion.Version.Error
import BuildVersion.Version.Marker
import BuildVersion.Version.Release
import BuildVersion.Version.SemVer
import BuildVersion.Words
import BuildVersion.Proofs.Lookup.Kubecross
import BuildVersion.Proofs.Version.ReleaseBuild
import BuildVersion.Proofs.Text.Split
import BuildVersion.Proofs.Version.SemVerGrammar
import BuildVersion.Proofs.Version.SemVerParse
import BuildVersion.Proofs.Version.SemVerStrict
import BuildVersion.Proofs.Number.Numeral
import BuildVersion.Proofs.Version.SemVerRender
import BuildVersion.Proofs.Version.Normalize
import BuildVersion.Proofs.Lookup.Marker
import BuildVersion.Proofs.Template.Walk
import BuildVersion.Proofs.Template.Field
import BuildVersion.Proofs.Template.Layout
import BuildVersion.Proofs.Template.NestedLayout
import BuildVersion.Proofs.Template.Expand
import BuildVersion.Proofs.Config.Template
import BuildVersion.Proofs.Version.TaggedBuild
import BuildVersion.Proofs.Lookup.Session
import BuildVersion.Proofs.Program.Exit
import BuildVersion.Proofs.Outcome
import BuildVersion.Proofs.Toml.Remainder
import BuildVersion.Proofs.Toml.Excess
import BuildVersion.Proofs.Toml.Document
import BuildVersion.Proofs.Config.Table
import BuildVersion.Proofs.Config.Load
import BuildVersion.Proofs.Lookup.Found
import BuildVersion.Proofs.Console.Markup
import BuildVersion.Proofs.Lookup.Canonical
import BuildVersion.Proofs.Program.Quiet
import BuildVersion.Proofs.Config.Environment
import BuildVersion.Proofs.Program.Environment
import BuildVersion.Proofs.Settings.Path
import BuildVersion.Proofs.Config.Field
import BuildVersion.Proofs.Config.Override
import BuildVersion.Proofs.Lookup.Trace
import BuildVersion.Proofs.Number.Rounding
import BuildVersion.Proofs.Number.Units
import BuildVersion.Proofs.Build.Time
import BuildVersion.Proofs.Files.Tree
import BuildVersion.Proofs.Build.Detection
import BuildVersion.Proofs.Version.LeadingZero
import BuildVersion.Proofs.Number.Spacing
import BuildVersion.Proofs.Build.Resolution
import BuildVersion.Proofs.Deflate.Position
import BuildVersion.Proofs.Gzip.Complete
import BuildVersion.Proofs.Gzip.Portion
import BuildVersion.Proofs.Gzip.Reader
import BuildVersion.Proofs.Gzip.Stored
import BuildVersion.Proofs.Tar.Octal
import BuildVersion.Proofs.Tar.Ustar
import BuildVersion.Proofs.Tar.Member
import BuildVersion.Proofs.Tar.Scan
import BuildVersion.Proofs.Tar.Fault
import BuildVersion.Proofs.Tar.Links
import BuildVersion.Proofs.Build.Tarball
import BuildVersion.Proofs.Build.Breakdown
import BuildVersion.Proofs.Lookup.Branch
import BuildVersion.Proofs.Template.Part
import BuildVersion.Proofs.Lookup.Template
import BuildVersion.Proofs.Text.Utf8
import BuildVersion.Proofs.Text.LineEnd
import BuildVersion.Proofs.Fetch.Exchange
import BuildVersion.Proofs.Build.Agreement
import BuildVersion.Proofs.Text.Occurrence
import BuildVersion.Proofs.Version.LocalChanges
import BuildVersion.Proofs.CommandLine.Flags
import BuildVersion.Proofs.Program.NamedBranch
import BuildVersion.Proofs.Console.Layout
import BuildVersion.Proofs.Console.Tag
import BuildVersion.Proofs.Console.Verbatim
import BuildVersion.Proofs.Number.Integer
import BuildVersion.Proofs.Config.Timeout
import BuildVersion.Proofs.Text.Hexadecimal
import BuildVersion.Proofs.Text.Quoted
import BuildVersion.Proofs.Version.Rejection
import BuildVersion.Proofs.Toml.Spelling
import BuildVersion.Proofs.Toml.Scalar
import BuildVersion.Proofs.Toml.Line
import BuildVersion.Proofs.Toml.Section
import BuildVersion.Proofs.Config.RoundTrip
