import ContentQuery.OrderedMap
import ContentQuery.Text.Blank
import ContentQuery.Text.Alphanumeric
import ContentQuery.Text.LowerCase
import ContentQuery.Decimal.Double
import ContentQuery.Decimal.Reading
import ContentQuery.Decimal.Shortest
import ContentQuery.Json.Basic
import ContentQuery.Json.Printer
import ContentQuery.Json.Reader
import ContentQuery.Shortcut
import ContentQuery.Filter.Reader
import ContentQuery.Clause.Plain
import ContentQuery.Clause.Meta
import ContentQuery.Clause.Taxonomy
import ContentQuery.Binding
import ContentQuery.Argument
import ContentQuery.Toml.Document
import ContentQuery.Settings
import ContentQuery.Output
import ContentQuery.Compilation
import ContentQuery.Query
import ContentQuery.CommandLine.FileTree
import ContentQuery.CommandLine.Run
import ContentQuery.Main
import ContentQuery.Proofs.LevelRelations
import ContentQuery.Proofs.OneArgument
import ContentQuery.Proofs.Writes
import ContentQuery.Proofs.Compound
import ContentQuery.Proofs.Gathering
import ContentQuery.Proofs.CompoundArguments
import ContentQuery.Proofs.PlainFree
import ContentQuery.Proofs.PlainClauses
import ContentQuery.Proofs.Contexts
import ContentQuery.Proofs.FilterOperands
import ContentQuery.Proofs.FilterOperations
import ContentQuery.Proofs.Comparisons
import ContentQuery.Proofs.TermMatches
import ContentQuery.Proofs.Slots
import ContentQuery.Proofs.Shapes
import ContentQuery.Proofs.PlainValues
import ContentQuery.Proofs.ForcedValues
import ContentQuery.Proofs.Defaults
import ContentQuery.Proofs.Compilable
import ContentQuery.Proofs.Insertions
import ContentQuery.Proofs.Leftovers
import ContentQuery.Proofs.FilterClauses
import ContentQuery.Proofs.Reordering
import ContentQuery.Proofs.TierHistory
import ContentQuery.Proofs.WireForm
import ContentQuery.Proofs.Selection
import ContentQuery.Proofs.TerminalAgreement
import ContentQuery.Proofs.Batches
import ContentQuery.Proofs.PostTypes
import ContentQuery.Proofs.ShortForms
import ContentQuery.Proofs.FailurePositions
import ContentQuery.Proofs.StoredClauses
import ContentQuery.Proofs.PlainCalls
import ContentQuery.Proofs.DoubleRange
import ContentQuery.Proofs.LargeNumbers
import ContentQuery.Proofs.IntegerTexts
import ContentQuery.Proofs.Counting
import ContentQuery.Proofs.Pages
import ContentQuery.Proofs.Finding
import ContentQuery.Proofs.NestedTexts
import ContentQuery.Proofs.SelectedTaxonomies
import ContentQuery.Proofs.ForcedRelations
import ContentQuery.Proofs.AnswerFormats
import ContentQuery.Proofs.PluckedColumns
import ContentQuery.Proofs.SelectedPosts
import ContentQuery.Proofs.SmallLetters
import ContentQuery.Proofs.SlugNames
import ContentQuery.Proofs.NumberWords
import ContentQuery.Proofs.NormalForms
import ContentQuery.Proofs.Histories
import ContentQuery.Proofs.DateTexts
import ContentQuery.Proofs.JsonTexts
import ContentQuery.Proofs.PostWire
