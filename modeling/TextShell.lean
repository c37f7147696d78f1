import TextShell.Builtin.Basic
import TextShell.Builtin.Call
import TextShell.Builtin.Flatten
import TextShell.Builtin.Operation
import TextShell.Calendar
import TextShell.Console
import TextShell.Decimal.Binary64
import TextShell.Decimal.Reader
import TextShell.Decimal.RealText
import TextShell.Decimal.Shortest
import TextShell.Document.Basic
import TextShell.Document.Convert
import TextShell.Document.Json.Reader
import TextShell.Document.Json.Writer
import TextShell.Document.SetOrder
import TextShell.Document.Yaml.Node
import TextShell.Document.Yaml.Reader
import TextShell.Document.Yaml.Scalar
import TextShell.Document.Yaml.Token
import TextShell.Document.Yaml.Writer
import TextShell.Error
import TextShell.Eval.Evaluator
import TextShell.Eval.Host
import TextShell.Eval.Run
import TextShell.Excerpt
import TextShell.Fault
import TextShell.Folder
import TextShell.Interchange
import TextShell.Main
import TextShell.Network.Basic
import TextShell.Network.Retry
import TextShell.Pattern.Basic
import TextShell.Pattern.CharTest
import TextShell.Pattern.Code
import TextShell.Pattern.Machine
import TextShell.Pattern.Parser
import TextShell.Pattern.Search
import TextShell.Program.Cursor
import TextShell.Program.Element
import TextShell.Program.Grammar
import TextShell.Program.Literal
import TextShell.Program.Node
import TextShell.Program.Printer
import TextShell.Proofs.Builtin.Calls
import TextShell.Proofs.Builtin.Flatten
import TextShell.Proofs.Builtin.Lists
import TextShell.Proofs.Builtin.Numbers
import TextShell.Proofs.Decimal.Binary64
import TextShell.Proofs.Document.Json
import TextShell.Proofs.Eval.Binding
import TextShell.Proofs.Eval.CallDepth
import TextShell.Proofs.Eval.Discipline
import TextShell.Proofs.Eval.Errors
import TextShell.Proofs.Eval.Frames
import TextShell.Proofs.Eval.History
import TextShell.Proofs.Eval.Limits
import TextShell.Proofs.Eval.Signals
import TextShell.Proofs.Eval.Step
import TextShell.Proofs.Eval.Termination
import TextShell.Proofs.Eval.Unwinding
import TextShell.Proofs.Eval.Visibility
import TextShell.Proofs.Excerpt
import TextShell.Proofs.Interchange
import TextShell.Proofs.Network.Retry
import TextShell.Proofs.Program.Composition
import TextShell.Proofs.Program.Depth
import TextShell.Proofs.Program.Follow
import TextShell.Proofs.Program.Forms
import TextShell.Proofs.Program.Locality
import TextShell.Proofs.Program.Lookahead
import TextShell.Proofs.Program.Placement
import TextShell.Proofs.Program.Printed
import TextShell.Proofs.Program.Reading
import TextShell.Proofs.Program.RoundTrip
import TextShell.Proofs.Program.Source
import TextShell.Proofs.Program.Statements
import TextShell.Proofs.Program.Token
import TextShell.Proofs.Program.Wrapping
import TextShell.Proofs.Registry
import TextShell.Proofs.Registry.Absorption
import TextShell.Proofs.Registry.Merge
import TextShell.Proofs.Registry.Rollback
import TextShell.Proofs.Scope
import TextShell.Proofs.Scope.Bindings
import TextShell.Proofs.Session.Isolation
import TextShell.Proofs.Session.Legality
import TextShell.Proofs.Session.Listing
import TextShell.Proofs.Session.Splitting
import TextShell.Proofs.Template
import TextShell.Proofs.Template.Regions
import TextShell.Proofs.Text.Split
import TextShell.Proofs.Value.Cell
import TextShell.Proofs.Value.Number
import TextShell.Registry
import TextShell.Scope
import TextShell.Session
import TextShell.Template
import TextShell.Text.Blank
import TextShell.Text.Case
import TextShell.Text.CaseTable
import TextShell.Text.Caseless
import TextShell.Text.CharName
import TextShell.Text.CharName.EastAsian
import TextShell.Text.CharName.Historic
import TextShell.Text.CharName.Pictures
import TextShell.Text.CharName.Scripts
import TextShell.Text.CharName.Symbols
import TextShell.Text.Hex
import TextShell.Text.Identifier
import TextShell.Text.Letter
import TextShell.Text.Lines
import TextShell.Text.Printable
import TextShell.Text.Quoted
import TextShell.Text.Ranges
import TextShell.Text.Split
import TextShell.Text.Utf8
import TextShell.Value.Basic
import TextShell.Value.Cell
import TextShell.Value.Number
import TextShell.World
