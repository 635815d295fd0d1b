import CommandGrammar.Argument.Form
import CommandGrammar.Argument.Raw
import CommandGrammar.Builder
import CommandGrammar.Builder.Composite
import CommandGrammar.Builder.Declaration
import CommandGrammar.Chain
import CommandGrammar.Collection.Ascending
import CommandGrammar.Collection.Assoc
import CommandGrammar.Completion.Matching
import CommandGrammar.Completion.Source
import CommandGrammar.Composite.Flags
import CommandGrammar.Composite.Named
import CommandGrammar.Decimal.Binary64
import CommandGrammar.Decimal.Numeral
import CommandGrammar.Decimal.Places
import CommandGrammar.Decimal.Shortest
import CommandGrammar.Grammar
import CommandGrammar.Grammar.Bench
import CommandGrammar.Grammar.Offers
import CommandGrammar.Grammar.Search
import CommandGrammar.Invocation
import CommandGrammar.Invocation.Mapper
import CommandGrammar.Line.Cursor
import CommandGrammar.Line.Reader
import CommandGrammar.Main
import CommandGrammar.Node
import CommandGrammar.Node.Structure
import CommandGrammar.Program
import CommandGrammar.Program.Identity
import CommandGrammar.Program.Input
import CommandGrammar.Program.Options
import CommandGrammar.Sender
import CommandGrammar.Session
import CommandGrammar.Session.Callbacks
import CommandGrammar.Session.Question
import CommandGrammar.Session.ValueText
import CommandGrammar.Session.World
import CommandGrammar.Settings
import CommandGrammar.Settings.FieldPattern
import CommandGrammar.Settings.FieldPattern.Brackets
import CommandGrammar.Settings.FieldPattern.CharSet
import CommandGrammar.Settings.FieldPattern.Escape
import CommandGrammar.Settings.FieldPattern.Expression
import CommandGrammar.Settings.FieldPattern.Modes
import CommandGrammar.Settings.FieldPattern.Reader
import CommandGrammar.Settings.LogFilter
import CommandGrammar.Settings.Section
import CommandGrammar.Shell
import CommandGrammar.Shell.Commands
import CommandGrammar.Shell.Events
import CommandGrammar.Shell.Roster
import CommandGrammar.Shell.Schedule
import CommandGrammar.Task.Job
import CommandGrammar.Text.Alphanumeric
import CommandGrammar.Text.Blank
import CommandGrammar.Text.Bytes
import CommandGrammar.Text.Hexadecimal
import CommandGrammar.Text.LetterCase
import CommandGrammar.Text.LetterCase.Table
import CommandGrammar.Text.Pieces
import CommandGrammar.Text.Printable
import CommandGrammar.Text.Quoted
import CommandGrammar.Text.Ranges
import CommandGrammar.Toml.Document
import CommandGrammar.Toml.Quoted
import CommandGrammar.Toml.Scalar
import CommandGrammar.Toml.Scan
import CommandGrammar.Toml.Statement
import CommandGrammar.Toml.Table
import CommandGrammar.Toml.Value
import CommandGrammar.Proofs.Paths
import CommandGrammar.Proofs.Arguments
import CommandGrammar.Proofs.Searching
import CommandGrammar.Proofs.Bounds
import CommandGrammar.Proofs.Attaching
import CommandGrammar.Proofs.Selection
import CommandGrammar.Proofs.Asking
import CommandGrammar.Proofs.Refusal
import CommandGrammar.Proofs.Hiding
import CommandGrammar.Proofs.Making
import CommandGrammar.Proofs.Accounts
import CommandGrammar.Proofs.Numbering
import CommandGrammar.Proofs.Inheritance
import CommandGrammar.Proofs.Resolving
import CommandGrammar.Proofs.Mapping
import CommandGrammar.Proofs.Access
import CommandGrammar.Proofs.Scripts
import CommandGrammar.Proofs.Accepting
import CommandGrammar.Proofs.Noting
import CommandGrammar.Proofs.Origins
import CommandGrammar.Proofs.Placing
import CommandGrammar.Proofs.Discovering
import CommandGrammar.Grammar.Registration
import CommandGrammar.Proofs.Registering
import CommandGrammar.Proofs.Aliases
import CommandGrammar.Proofs.Promising
import CommandGrammar.Completion.Collection
import CommandGrammar.Proofs.Collecting
import CommandGrammar.Proofs.Rearranging
import CommandGrammar.Proofs.Composing
import CommandGrammar.Proofs.Printing
import CommandGrammar.Proofs.Answering
import CommandGrammar.Proofs.Queueing
import CommandGrammar.Proofs.Sleeping
import CommandGrammar.Proofs.Travelling
import CommandGrammar.Proofs.Trying
import CommandGrammar.Proofs.Scanning
import CommandGrammar.Proofs.Gathering
import CommandGrammar.Proofs.Reading
import CommandGrammar.Proofs.Conversing
import CommandGrammar.Proofs.Lowering
import CommandGrammar.Proofs.Suggesting
import CommandGrammar.Proofs.Continuing
import CommandGrammar.Proofs.Stepping
import CommandGrammar.Proofs.Consuming
import CommandGrammar.Proofs.Integers
import CommandGrammar.Proofs.Listing
import CommandGrammar.Proofs.Restoring
import CommandGrammar.Line.Passage
import CommandGrammar.Proofs.Passing
