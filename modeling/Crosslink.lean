import Crosslink.Build.Basic
import Crosslink.Build.Discovery
import Crosslink.Build.Loading
import Crosslink.CommandLine.Arguments
import Crosslink.CommandLine.Run
import Crosslink.CommandLine.Switch
import Crosslink.CommandLine.Usage
import Crosslink.Console.Emoji
import Crosslink.Console.EmojiNames
import Crosslink.Console.Markup
import Crosslink.Console.Report
import Crosslink.Console.Table
import Crosslink.Console.Text
import Crosslink.Console.Wrap
import Crosslink.Environment
import Crosslink.Error
import Crosslink.FileTree
import Crosslink.Issue
import Crosslink.IssueLog
import Crosslink.Json.Reader
import Crosslink.Json.Writer
import Crosslink.Link.Basic
import Crosslink.Link.Code
import Crosslink.Link.Inline
import Crosslink.Link.Target
import Crosslink.Log
import Crosslink.Log.Setup
import Crosslink.Main
import Crosslink.Number.Binary64
import Crosslink.Number.Decimal
import Crosslink.Number.Shortest
import Crosslink.Number.Spelling
import Crosslink.Page.Basic
import Crosslink.Page.FrontMatter
import Crosslink.Page.Identity
import Crosslink.Page.Location
import Crosslink.Path
import Crosslink.Registry
import Crosslink.Session.Basic
import Crosslink.Session.Registration
import Crosslink.Session.Resolution
import Crosslink.Session.Step
import Crosslink.Settings.Basic
import Crosslink.Settings.Checked
import Crosslink.Settings.Configuration
import Crosslink.Settings.Dotenv
import Crosslink.Settings.Home
import Crosslink.Settings.Load
import Crosslink.Settings.Lookup
import Crosslink.Settings.MissingPolicy
import Crosslink.Settings.Scalar
import Crosslink.Settings.TextFile
import Crosslink.Settings.Variables
import Crosslink.Settings.Violation
import Crosslink.Text.Base64
import Crosslink.Text.Blank
import Crosslink.Text.Digit
import Crosslink.Text.LineBreak
import Crosslink.Text.LowerCase
import Crosslink.Text.PercentEncoding
import Crosslink.Text.Printable
import Crosslink.Text.Quoted
import Crosslink.Text.Span
import Crosslink.Text.Utf8
import Crosslink.Text.Width
import Crosslink.Value
import Crosslink.Value.Text
import Crosslink.Yaml.Document
import Crosslink.Yaml.Fault
import Crosslink.Yaml.Lexer
import Crosslink.Yaml.Merge
import Crosslink.Yaml.Node
import Crosslink.Yaml.Scalar
import Crosslink.Yaml.ScalarValue
import Crosslink.Yaml.Token
import Crosslink.Proofs.Except
import Crosslink.Proofs.Registry.Current
import Crosslink.Proofs.Session.Perform
import Crosslink.Proofs.Session.Registered
import Crosslink.Proofs.Session.Fate
import Crosslink.Proofs.Pool.Basic
import Crosslink.Proofs.Pool.Invariant
import Crosslink.Proofs.Pool.Outcome
import Crosslink.Proofs.Path.Order
import Crosslink.Proofs.Build.Loaded
import Crosslink.Proofs.Session.Listing
import Crosslink.Proofs.FileTree.Planting
import Crosslink.Proofs.Build.Phases
import Crosslink.Proofs.Build.Plan
import Crosslink.Proofs.Session.Agreement
import Crosslink.Proofs.Build.Incremental
import Crosslink.Proofs.Build.Completion
import Crosslink.Proofs.Build.Confluence
import Crosslink.Proofs.Build.Accounting
import Crosslink.Proofs.Session.Strictness
import Crosslink.Proofs.Build.Strictness
import Crosslink.Proofs.Pool.Progress
import Crosslink.Proofs.Session.Declaration
import Crosslink.Proofs.Build.Registration
import Crosslink.Proofs.Build.Loading
import Crosslink.Proofs.Link.Inline
import Crosslink.Proofs.Link.Layout
import Crosslink.Proofs.Page.Rendering
import Crosslink.Proofs.Build.Settled
import Crosslink.Proofs.Session.Consistency
import Crosslink.Proofs.Text.Utf8
import Crosslink.Proofs.Text.LineBreak
import Crosslink.Proofs.FileTree.Reading
import Crosslink.Proofs.Build.Finished
import Crosslink.Proofs.Build.Copying
import Crosslink.Proofs.Link.Place
import Crosslink.Proofs.Page.Fence
import Crosslink.Proofs.Page.Alignment
import Crosslink.Proofs.Page.Place
import Crosslink.Proofs.Build.Address
import Crosslink.Proofs.Build.Rewriting
import Crosslink.Proofs.Session.InPlace
import Crosslink.Proofs.Session.Barrier
import Crosslink.Proofs.Link.Block
import Crosslink.Proofs.Link.CodeSpan
import Crosslink.Proofs.Page.CodeKept
import Crosslink.Proofs.FileTree.Opening
import Crosslink.Proofs.Settings.Failure
import Crosslink.Proofs.Build.Verdict
import Crosslink.Proofs.CommandLine.Parts
import Crosslink.Proofs.CommandLine.ExitCode
import Crosslink.Proofs.Link.Shift
import Crosslink.Proofs.Link.Break
import Crosslink.Proofs.Link.Paragraph
import Crosslink.Proofs.Page.Splice
import Crosslink.Proofs.Page.Header
import Crosslink.Proofs.Text.PairedBreaks
import Crosslink.Proofs.Link.LineEnding
import Crosslink.Proofs.Text.Run
import Crosslink.Proofs.Link.Token
import Crosslink.Proofs.Link.Destination
import Crosslink.Proofs.Link.Position
import Crosslink.Proofs.Text.PercentEncoding
import Crosslink.Proofs.Page.Location
import Crosslink.Proofs.FileTree.Sound
import Crosslink.Proofs.Build.Discovery
import Crosslink.Proofs.Build.Mirror
import Crosslink.Proofs.Settings.Fields
import Crosslink.Proofs.Settings.NormalForm
import Crosslink.Proofs.Settings.Loaded
import Crosslink.Proofs.Settings.Precedence
import Crosslink.Proofs.FileTree.Without
import Crosslink.Proofs.Build.Bypass
import Crosslink.Proofs.Settings.Without
import Crosslink.Proofs.Settings.Outcome
import Crosslink.Proofs.CommandLine.Bypass
import Crosslink.Proofs.CommandLine.VariablesFile
import Crosslink.Proofs.Link.Written
import Crosslink.Proofs.Link.FenceLine
import Crosslink.Proofs.Link.FenceSearch
import Crosslink.Proofs.Session.Reporting
import Crosslink.Proofs.Page.Linkable
