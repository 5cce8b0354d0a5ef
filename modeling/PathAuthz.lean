import PathAuthz.Access
import PathAuthz.CommandLine
import PathAuthz.CommandLine.Arguments
import PathAuthz.Draft
import PathAuthz.FileTree
import PathAuthz.Handle
import PathAuthz.Header
import PathAuthz.LoadError
import PathAuthz.Main
import PathAuthz.Model
import PathAuthz.Path
import PathAuthz.Pattern
import PathAuthz.Pattern.Bracket
import PathAuthz.Pattern.CharClass
import PathAuthz.Pattern.Expression
import PathAuthz.Pattern.Glob
import PathAuthz.Pattern.Segment
import PathAuthz.Pattern.Weight
import PathAuthz.Proofs.Access
import PathAuthz.Proofs.CommandLine.AccessOf
import PathAuthz.Proofs.Draft.Compiles
import PathAuthz.Proofs.Draft.Places
import PathAuthz.Proofs.Draft.References
import PathAuthz.Proofs.Draft.Sections
import PathAuthz.Proofs.Draft.Unused
import PathAuthz.Proofs.Handle.History
import PathAuthz.Proofs.Header.Forms
import PathAuthz.Proofs.Header.Plain
import PathAuthz.Proofs.Model.Alike
import PathAuthz.Proofs.Model.Anonymous
import PathAuthz.Proofs.Model.Answers
import PathAuthz.Proofs.Model.Bystanders
import PathAuthz.Proofs.Model.Inlining
import PathAuthz.Proofs.Model.Insertion
import PathAuthz.Proofs.Model.Isolation
import PathAuthz.Proofs.Model.Knows
import PathAuthz.Proofs.Model.Loaded
import PathAuthz.Proofs.Model.Lookup
import PathAuthz.Proofs.Model.Named
import PathAuthz.Proofs.Model.Options
import PathAuthz.Proofs.Model.Order
import PathAuthz.Proofs.Model.Paths
import PathAuthz.Proofs.Model.Precedence
import PathAuthz.Proofs.Model.References
import PathAuthz.Proofs.Model.Revision
import PathAuthz.Proofs.Model.Rights
import PathAuthz.Proofs.Model.Strangers
import PathAuthz.Proofs.Model.Subtree
import PathAuthz.Proofs.Model.Unscoped
import PathAuthz.Proofs.Model.Unused
import PathAuthz.Proofs.Model.UserNames
import PathAuthz.Proofs.Model.WellFormed
import PathAuthz.Proofs.Model.Widening
import PathAuthz.Proofs.Outcome
import PathAuthz.Proofs.Path
import PathAuthz.Proofs.Pattern.Affixes
import PathAuthz.Proofs.Pattern.Blocks
import PathAuthz.Proofs.Pattern.Covering
import PathAuthz.Proofs.Pattern.Expression
import PathAuthz.Proofs.Pattern.Labels
import PathAuthz.Proofs.Pattern.Positions
import PathAuthz.Proofs.Pattern.Sets
import PathAuthz.Proofs.Pattern.Shell
import PathAuthz.Proofs.Pattern.Weight
import PathAuthz.Proofs.RightsTable.Span
import PathAuthz.Proofs.Roster.Expansion
import PathAuthz.Proofs.Roster.Members
import PathAuthz.Proofs.Rule.Resolution
import PathAuthz.Proofs.Settings.Fields
import PathAuthz.Proofs.Settings.Layers
import PathAuthz.Proofs.Source.Calls
import PathAuthz.Proofs.Source.Concatenation
import PathAuthz.Proofs.Source.Layout
import PathAuthz.Proofs.Source.Numbering
import PathAuthz.Proofs.Source.Reading
import PathAuthz.Proofs.Source.Remarks
import PathAuthz.Proofs.Source.Rendering
import PathAuthz.Proofs.Source.Sections
import PathAuthz.Proofs.Source.Tally
import PathAuthz.Proofs.Text.Runs
import PathAuthz.RightsTable
import PathAuthz.Roster
import PathAuthz.Rule
import PathAuthz.RuleFiles
import PathAuthz.Scope
import PathAuthz.Settings
import PathAuthz.Settings.Load
import PathAuthz.Settings.Node
import PathAuthz.Source
import PathAuthz.Source.Line
import PathAuthz.Text
import PathAuthz.Text.CodeMap
import PathAuthz.Text.CodePoint
import PathAuthz.Text.CodeSet
import PathAuthz.Text.Decimal
import PathAuthz.Text.JsonString
import PathAuthz.Text.Property
import PathAuthz.Text.Property.Age
import PathAuthz.Text.Property.Binary
import PathAuthz.Text.Property.Break
import PathAuthz.Text.Property.Category
import PathAuthz.Text.Property.Script
import PathAuthz.Text.Property.Table
import PathAuthz.Text.Utf8
import PathAuthz.Text.Utf8.Span
import PathAuthz.Toml
import PathAuthz.Toml.Quoted
import PathAuthz.Toml.Scalar
import PathAuthz.Toml.Value
import PathAuthz.World
