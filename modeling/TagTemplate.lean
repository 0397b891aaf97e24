import TagTemplate.Builtin.Binding
import TagTemplate.Builtin.Chain
import TagTemplate.Builtin.Choice
import TagTemplate.Builtin.Emission
import TagTemplate.Builtin.Registry
import TagTemplate.Builtin.Repetition
import TagTemplate.Cli.Arguments
import TagTemplate.Cli.Run
import TagTemplate.Condition.Expression
import TagTemplate.Condition.Reading
import TagTemplate.Condition.Token
import TagTemplate.Decimal.Binary64
import TagTemplate.Decimal.Layout
import TagTemplate.Decimal.Numeral
import TagTemplate.Decimal.Shortest
import TagTemplate.Engine
import TagTemplate.Files.Path
import TagTemplate.Files.Status
import TagTemplate.Handler.Basic
import TagTemplate.Handler.Program
import TagTemplate.Handler.Recipe
import TagTemplate.Handler.Registry
import TagTemplate.Json.Number
import TagTemplate.Json.Reader
import TagTemplate.Json.Refusal
import TagTemplate.Json.Variables
import TagTemplate.Main
import TagTemplate.Names.NameMap
import TagTemplate.Names.OrderedMap
import TagTemplate.Proofs.Builtin.Branches
import TagTemplate.Proofs.Builtin.Checks
import TagTemplate.Proofs.Builtin.Effects
import TagTemplate.Proofs.Builtin.Errors
import TagTemplate.Proofs.Builtin.Flows
import TagTemplate.Proofs.Builtin.Limits
import TagTemplate.Proofs.Builtin.Loops
import TagTemplate.Proofs.Builtin.Relocation
import TagTemplate.Proofs.Builtin.Requests
import TagTemplate.Proofs.Builtin.Truncation
import TagTemplate.Proofs.Cli.Includes
import TagTemplate.Proofs.Condition.Grammar
import TagTemplate.Proofs.Condition.Meaning
import TagTemplate.Proofs.Condition.RawText
import TagTemplate.Proofs.Condition.Reading
import TagTemplate.Proofs.Condition.Writing
import TagTemplate.Proofs.Decimal.Order
import TagTemplate.Proofs.Decimal.Rounding
import TagTemplate.Proofs.Engine.Blocks
import TagTemplate.Proofs.Engine.Bookkeeping
import TagTemplate.Proofs.Engine.Branches
import TagTemplate.Proofs.Engine.Breaks
import TagTemplate.Proofs.Engine.Captures
import TagTemplate.Proofs.Engine.Checks
import TagTemplate.Proofs.Engine.Confinement
import TagTemplate.Proofs.Engine.Deeper
import TagTemplate.Proofs.Engine.Depth
import TagTemplate.Proofs.Engine.Hosting
import TagTemplate.Proofs.Engine.Lexical
import TagTemplate.Proofs.Engine.Limits
import TagTemplate.Proofs.Engine.Opening
import TagTemplate.Proofs.Engine.Output
import TagTemplate.Proofs.Engine.Passes
import TagTemplate.Proofs.Engine.Pasting
import TagTemplate.Proofs.Engine.Places
import TagTemplate.Proofs.Engine.Protocol
import TagTemplate.Proofs.Engine.Relocation
import TagTemplate.Proofs.Engine.Renaming
import TagTemplate.Proofs.Engine.Spellings
import TagTemplate.Proofs.Engine.Switches
import TagTemplate.Proofs.Engine.Termination
import TagTemplate.Proofs.Engine.Truncation
import TagTemplate.Proofs.Engine.Unrolled
import TagTemplate.Proofs.Engine.Verbatim
import TagTemplate.Proofs.Engine.WellFormed
import TagTemplate.Proofs.Files.Paths
import TagTemplate.Proofs.Handler.Recipes
import TagTemplate.Proofs.Handler.Registry
import TagTemplate.Proofs.Handler.Resolution
import TagTemplate.Proofs.Names.Bindings
import TagTemplate.Proofs.Names.Histories
import TagTemplate.Proofs.Render.AbortRecord
import TagTemplate.Proofs.Render.Activation
import TagTemplate.Proofs.Render.Bookkeeping
import TagTemplate.Proofs.Render.Composition
import TagTemplate.Proofs.Render.Coupling
import TagTemplate.Proofs.Render.Depth
import TagTemplate.Proofs.Render.Effects
import TagTemplate.Proofs.Render.Failures
import TagTemplate.Proofs.Render.Flows
import TagTemplate.Proofs.Render.Following
import TagTemplate.Proofs.Render.Induction
import TagTemplate.Proofs.Render.Journal
import TagTemplate.Proofs.Render.Lexical
import TagTemplate.Proofs.Render.Limits
import TagTemplate.Proofs.Render.Literal
import TagTemplate.Proofs.Render.Lockstep
import TagTemplate.Proofs.Render.Protocol
import TagTemplate.Proofs.Render.Recovery
import TagTemplate.Proofs.Render.Relocation
import TagTemplate.Proofs.Render.Rows
import TagTemplate.Proofs.Render.Transparent
import TagTemplate.Proofs.Render.Truncation
import TagTemplate.Proofs.Render.Visits
import TagTemplate.Proofs.Render.Watching
import TagTemplate.Proofs.Render.Yields
import TagTemplate.Proofs.Source.Account
import TagTemplate.Proofs.Source.AttributeText
import TagTemplate.Proofs.Source.CommentInsertion
import TagTemplate.Proofs.Source.Comments
import TagTemplate.Proofs.Source.Cursor
import TagTemplate.Proofs.Source.CursorRuns
import TagTemplate.Proofs.Source.CursorSteps
import TagTemplate.Proofs.Source.OpenQuotes
import TagTemplate.Proofs.Source.Printed
import TagTemplate.Proofs.Source.Quotes
import TagTemplate.Proofs.Source.References
import TagTemplate.Proofs.Source.Renaming
import TagTemplate.Proofs.Source.Restart
import TagTemplate.Proofs.Source.Rounds
import TagTemplate.Proofs.Source.Seam
import TagTemplate.Proofs.Source.Sights
import TagTemplate.Proofs.Source.Spelling
import TagTemplate.Proofs.Source.Stretch
import TagTemplate.Proofs.Text.Blanks
import TagTemplate.Proofs.Text.Runs
import TagTemplate.Proofs.Tree.Aborts
import TagTemplate.Proofs.Tree.Balance
import TagTemplate.Proofs.Tree.Building
import TagTemplate.Proofs.Tree.Concatenation
import TagTemplate.Proofs.Tree.Enclosure
import TagTemplate.Proofs.Tree.Foreign
import TagTemplate.Proofs.Tree.ForeignMarks
import TagTemplate.Proofs.Tree.Limit
import TagTemplate.Proofs.Tree.Marks
import TagTemplate.Proofs.Tree.Nesting
import TagTemplate.Proofs.Tree.Offence
import TagTemplate.Proofs.Tree.Pieces
import TagTemplate.Proofs.Tree.Printing
import TagTemplate.Proofs.Tree.Relocation
import TagTemplate.Proofs.Tree.Rows
import TagTemplate.Proofs.Tree.Shape
import TagTemplate.Proofs.Tree.Tags
import TagTemplate.Proofs.Tree.WellFormed
import TagTemplate.Proofs.Variables.Expansion
import TagTemplate.Proofs.Variables.Loading
import TagTemplate.Render.Error
import TagTemplate.Render.State
import TagTemplate.Render.Walk
import TagTemplate.Source.Attributes
import TagTemplate.Source.Position
import TagTemplate.Source.Scanner
import TagTemplate.Source.Token
import TagTemplate.Text.Blank
import TagTemplate.Text.CaseTable
import TagTemplate.Text.Letter
import TagTemplate.Text.Lowercase
import TagTemplate.Text.Printable
import TagTemplate.Text.Quoted
import TagTemplate.Text.Ranges
import TagTemplate.Text.Split
import TagTemplate.Tree.Builder
import TagTemplate.Tree.Node
import TagTemplate.Tree.ParseError
import TagTemplate.Variables.Scope
import TagTemplate.Variables.Value
