import TreeTemplate.Clause
import TreeTemplate.Condition
import TreeTemplate.Conversion
import TreeTemplate.Datum
import TreeTemplate.Decimal.Double
import TreeTemplate.Decimal.Integer
import TreeTemplate.Decimal.Positional
import TreeTemplate.Decimal.Reader
import TreeTemplate.Decimal.Shortest
import TreeTemplate.Document.Arena
import TreeTemplate.Document.Basic
import TreeTemplate.Document.Forest
import TreeTemplate.Document.Operation
import TreeTemplate.Document.Supply
import TreeTemplate.Engine
import TreeTemplate.Entries
import TreeTemplate.Fault
import TreeTemplate.Formatter
import TreeTemplate.Markup.Attributes
import TreeTemplate.Markup.Fault
import TreeTemplate.Markup.Lexeme
import TreeTemplate.Markup.Parser
import TreeTemplate.Markup.Reference
import TreeTemplate.Markup.Writer
import TreeTemplate.Numbering
import TreeTemplate.Operator
import TreeTemplate.Path
import TreeTemplate.Proofs.Anchored.Basic
import TreeTemplate.Proofs.Anchored.Edits
import TreeTemplate.Proofs.Anchored.InPlace
import TreeTemplate.Proofs.Anchored.StepWithin
import TreeTemplate.Proofs.Anchored.Walks
import TreeTemplate.Proofs.Arena.Branches
import TreeTemplate.Proofs.Arena.Forests
import TreeTemplate.Proofs.Arena.Growing
import TreeTemplate.Proofs.Arena.Links
import TreeTemplate.Proofs.Arena.Operations
import TreeTemplate.Proofs.Arena.Reading
import TreeTemplate.Proofs.Arena.Releasing
import TreeTemplate.Proofs.Arena.Slots
import TreeTemplate.Proofs.Arena.WellFormed
import TreeTemplate.Proofs.Attributes.Declared
import TreeTemplate.Proofs.Attributes.Decorate
import TreeTemplate.Proofs.Attributes.Effects
import TreeTemplate.Proofs.Attributes.Lists
import TreeTemplate.Proofs.Attributes.Rearranged
import TreeTemplate.Proofs.Attributes.Reserved
import TreeTemplate.Proofs.Attributes.Sequence
import TreeTemplate.Proofs.Attributes.Strip
import TreeTemplate.Proofs.Attributes.Touches
import TreeTemplate.Proofs.Attributes.Undoing
import TreeTemplate.Proofs.Attributes.Words
import TreeTemplate.Proofs.Attributes.Written
import TreeTemplate.Proofs.Clauses.Grammar
import TreeTemplate.Proofs.Conditions.Comparisons
import TreeTemplate.Proofs.Conditions.Grammar
import TreeTemplate.Proofs.Conditions.Paths
import TreeTemplate.Proofs.Content.Again
import TreeTemplate.Proofs.Content.Cleared
import TreeTemplate.Proofs.Content.Copies
import TreeTemplate.Proofs.Content.Filling
import TreeTemplate.Proofs.Content.Refill
import TreeTemplate.Proofs.Courses.Alike
import TreeTemplate.Proofs.Courses.Basic
import TreeTemplate.Proofs.Courses.ClosedUnderEdits
import TreeTemplate.Proofs.Courses.OnlyAssertions
import TreeTemplate.Proofs.Courses.Operators
import TreeTemplate.Proofs.Courses.SameAtDepth
import TreeTemplate.Proofs.Courses.Taking
import TreeTemplate.Proofs.Courses.Triples
import TreeTemplate.Proofs.Courses.Walks
import TreeTemplate.Proofs.Data.Reading
import TreeTemplate.Proofs.Data.Values
import TreeTemplate.Proofs.Decimal.Floats
import TreeTemplate.Proofs.Decimal.Rounding
import TreeTemplate.Proofs.Decimal.Written
import TreeTemplate.Proofs.Documents.Anchored
import TreeTemplate.Proofs.Documents.Calls
import TreeTemplate.Proofs.Documents.Commuting
import TreeTemplate.Proofs.Documents.Composing
import TreeTemplate.Proofs.Documents.Confined
import TreeTemplate.Proofs.Documents.Copying
import TreeTemplate.Proofs.Documents.Elements
import TreeTemplate.Proofs.Documents.Faults
import TreeTemplate.Proofs.Documents.Found
import TreeTemplate.Proofs.Documents.Grafting
import TreeTemplate.Proofs.Documents.Items
import TreeTemplate.Proofs.Documents.Operations
import TreeTemplate.Proofs.Documents.Reinjection
import TreeTemplate.Proofs.Documents.Renewing
import TreeTemplate.Proofs.Documents.Resetting
import TreeTemplate.Proofs.Documents.Stashed
import TreeTemplate.Proofs.Documents.Toggling
import TreeTemplate.Proofs.Documents.WellFormed
import TreeTemplate.Proofs.Documents.Writing
import TreeTemplate.Proofs.Follow.Attributes
import TreeTemplate.Proofs.Follow.Basic
import TreeTemplate.Proofs.Follow.Below
import TreeTemplate.Proofs.Follow.Content
import TreeTemplate.Proofs.Follow.Entries
import TreeTemplate.Proofs.Follow.Fill
import TreeTemplate.Proofs.Follow.Forget
import TreeTemplate.Proofs.Follow.Frame
import TreeTemplate.Proofs.Follow.Inject
import TreeTemplate.Proofs.Follow.Policy
import TreeTemplate.Proofs.Follow.Reset
import TreeTemplate.Proofs.Follow.Run
import TreeTemplate.Proofs.Follow.Servings
import TreeTemplate.Proofs.Follow.Spots
import TreeTemplate.Proofs.Follow.Steps
import TreeTemplate.Proofs.Follow.Template
import TreeTemplate.Proofs.Follow.Templates
import TreeTemplate.Proofs.Follow.Visits
import TreeTemplate.Proofs.Forest.Ancestry
import TreeTemplate.Proofs.Forest.Context
import TreeTemplate.Proofs.Forest.Identities
import TreeTemplate.Proofs.Forest.Links
import TreeTemplate.Proofs.Forest.Names
import TreeTemplate.Proofs.Forest.Nodes
import TreeTemplate.Proofs.Forest.Operations
import TreeTemplate.Proofs.Forest.Restyles
import TreeTemplate.Proofs.Forest.Shells
import TreeTemplate.Proofs.Forest.Supply
import TreeTemplate.Proofs.Injection.AfterWalks
import TreeTemplate.Proofs.Injection.Again
import TreeTemplate.Proofs.Injection.AlikeToOperators
import TreeTemplate.Proofs.Injection.Awaited
import TreeTemplate.Proofs.Injection.Clauses
import TreeTemplate.Proofs.Injection.Composed
import TreeTemplate.Proofs.Injection.Depth
import TreeTemplate.Proofs.Injection.Fit
import TreeTemplate.Proofs.Injection.Grounded
import TreeTemplate.Proofs.Injection.Lacking
import TreeTemplate.Proofs.Injection.Positions
import TreeTemplate.Proofs.Injection.Renewed
import TreeTemplate.Proofs.Injection.Restore
import TreeTemplate.Proofs.Injection.SameFrom
import TreeTemplate.Proofs.Injection.TemplatesIntact
import TreeTemplate.Proofs.Injection.Unscoped
import TreeTemplate.Proofs.Local.Attributes
import TreeTemplate.Proofs.Local.Basic
import TreeTemplate.Proofs.Local.Causes
import TreeTemplate.Proofs.Local.Content
import TreeTemplate.Proofs.Local.Directives
import TreeTemplate.Proofs.Local.IgnoresElement
import TreeTemplate.Proofs.Local.Inject
import TreeTemplate.Proofs.Local.Items
import TreeTemplate.Proofs.Local.Matching
import TreeTemplate.Proofs.Local.OnlyAssertions
import TreeTemplate.Proofs.Loops
import TreeTemplate.Proofs.Markup.Reordered
import TreeTemplate.Proofs.Markup.Tags
import TreeTemplate.Proofs.Markup.Trees
import TreeTemplate.Proofs.Markup.Written
import TreeTemplate.Proofs.Numbering.Labels
import TreeTemplate.Proofs.Numbering.Numerals
import TreeTemplate.Proofs.Operands.Spans
import TreeTemplate.Proofs.Paths.Joined
import TreeTemplate.Proofs.Paths.Ordered
import TreeTemplate.Proofs.Stocked.Basic
import TreeTemplate.Proofs.Stocked.Element
import TreeTemplate.Proofs.Stocked.Spots
import TreeTemplate.Proofs.Surroundings.Basic
import TreeTemplate.Proofs.Surroundings.Mindful
import TreeTemplate.Proofs.Surroundings.Operators
import TreeTemplate.Proofs.Surroundings.Walks
import TreeTemplate.Proofs.Text.Blanks
import TreeTemplate.Proofs.Text.Pieces
import TreeTemplate.Proofs.Text.Places
import TreeTemplate.Stash
import TreeTemplate.Template
import TreeTemplate.Text.Alphanumeric
import TreeTemplate.Text.Blank
import TreeTemplate.Text.CodePoints
import TreeTemplate.Text.Columns
import TreeTemplate.Text.Columns.Tables
import TreeTemplate.Text.Identifier
import TreeTemplate.Text.LetterCase
import TreeTemplate.Text.LetterCase.Tables
import TreeTemplate.Text.Naming
import TreeTemplate.Text.Pieces
import TreeTemplate.Text.Quoted
import TreeTemplate.Text.Unprintable
import TreeTemplate.Tree
import TreeTemplate.Value
import TreeTemplate.Walk.Attributes
import TreeTemplate.Walk.Basic
import TreeTemplate.Walk.Content
import TreeTemplate.Walk.Directives
import TreeTemplate.Walk.Inject
import TreeTemplate.Walk.Policy
import TreeTemplate.Walk.Reset
import TreeTemplate.Walk.Setting
import TreeTemplate.Walk.Templates
import TreeTemplate.Walk.Visibility
