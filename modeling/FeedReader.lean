import FeedReader.Article
import FeedReader.Article.Filter
import FeedReader.ArticleList
import FeedReader.ArticleList.Source
import FeedReader.ArticleList.View
import FeedReader.Calendar.Date
import FeedReader.Calendar.Iso
import FeedReader.Calendar.Moment
import FeedReader.Calendar.Stamp
import FeedReader.Color
import FeedReader.Color.Names
import FeedReader.Command
import FeedReader.Command.Error
import FeedReader.Command.Kind
import FeedReader.Command.Nesting
import FeedReader.Command.Reader
import FeedReader.Command.Sequence
import FeedReader.Command.Vocabulary
import FeedReader.CommandLine
import FeedReader.CommandLine.Action
import FeedReader.CommandLine.Arguments
import FeedReader.CommandLine.Articles
import FeedReader.CommandLine.Explain
import FeedReader.CommandLine.Report
import FeedReader.Completion
import FeedReader.Config
import FeedReader.Config.Error
import FeedReader.Config.KeyBindings
import FeedReader.Config.Reader
import FeedReader.Config.Source
import FeedReader.Config.Value
import FeedReader.Config.Value.Reader
import FeedReader.Failure
import FeedReader.Hint
import FeedReader.Hint.Entry
import FeedReader.Log
import FeedReader.Main
import FeedReader.Path
import FeedReader.Pattern.Basic
import FeedReader.Pattern.Letters
import FeedReader.Pattern.Reader
import FeedReader.Pattern.Search
import FeedReader.Query
import FeedReader.Query.Clause
import FeedReader.Query.Error
import FeedReader.Query.Lexer
import FeedReader.Query.Reader
import FeedReader.Query.SearchTerm
import FeedReader.Query.Token
import FeedReader.SortOrder
import FeedReader.SortOrder.Reader
import FeedReader.Store
import FeedReader.Store.Archive
import FeedReader.Store.Condition
import FeedReader.Store.Row
import FeedReader.Terminal.Emoji
import FeedReader.Terminal.Emoji.Names
import FeedReader.Terminal.Layout
import FeedReader.Terminal.Markup
import FeedReader.Terminal.Table
import FeedReader.Terminal.Width
import FeedReader.Text.Basic
import FeedReader.Text.Blank
import FeedReader.Text.Case
import FeedReader.Text.CaseTable
import FeedReader.Text.Composite
import FeedReader.Text.Composition
import FeedReader.Text.Digits
import FeedReader.Text.Identifier
import FeedReader.Text.Letters
import FeedReader.Text.Marks
import FeedReader.Text.Order
import FeedReader.Text.Printable
import FeedReader.Text.Quoted
import FeedReader.Text.Ranges
import FeedReader.TimeExpr
import FeedReader.TimeExpr.Literal
import FeedReader.TimeExpr.Relative
import FeedReader.Url
import FeedReader.Url.Escape
import FeedReader.Url.Host
import FeedReader.Url.HostName
import FeedReader.Url.HostName.Direction
import FeedReader.Url.HostName.Error
import FeedReader.Url.HostName.Label
import FeedReader.Url.HostName.Script
import FeedReader.Url.HostName.Valid
import FeedReader.Url.Punycode
import FeedReader.Proofs.Query.Pushdown
import FeedReader.Proofs.Query.Languages
import FeedReader.Proofs.Query.Tiling
import FeedReader.Proofs.Query.Locality
import FeedReader.Proofs.Query.Joining
import FeedReader.Proofs.Query.Tokens
import FeedReader.Proofs.Query.Reading
import FeedReader.Proofs.Result
import FeedReader.Proofs.SortOrder.Grammar
import FeedReader.Proofs.SortOrder.Lines
import FeedReader.Proofs.SortOrder.Stable
import FeedReader.Proofs.Color.RoundTrip
import FeedReader.Proofs.Command.Nesting
import FeedReader.Proofs.Command.Failures
import FeedReader.Proofs.Command.Reading
import FeedReader.Proofs.Command.RoundTrip
import FeedReader.Proofs.Calendar.Order
import FeedReader.Proofs.Sorting
import FeedReader.Proofs.Store.Sql
import FeedReader.Proofs.Store.Listing
import FeedReader.Proofs.ArticleList.Session
import FeedReader.Proofs.Query.Bounds
import FeedReader.Proofs.ArticleList.Agreement
import FeedReader.Proofs.ArticleList.Simulation
import FeedReader.Proofs.ArticleList.Listing
import FeedReader.Proofs.Command.Modes
import FeedReader.Proofs.Store.Run
import FeedReader.Proofs.Store.Uniqueness
import FeedReader.Proofs.Store.Failure
import FeedReader.Proofs.Text.Numerals
import FeedReader.Proofs.Query.Written
import FeedReader.Proofs.Store.References
import FeedReader.Proofs.ArticleList.History
import FeedReader.Proofs.SortOrder.Reversal
import FeedReader.Proofs.Text.Spacing
import FeedReader.Proofs.Calendar.Shift
import FeedReader.Proofs.TimeExpr.Grammar
import FeedReader.Proofs.TimeExpr.Relative
import FeedReader.Proofs.Completion.Rotation
import FeedReader.Proofs.Hint.Cycling
import FeedReader.Proofs.Calendar.Stamp
import FeedReader.Proofs.SortOrder.Arrangement
import FeedReader.Proofs.Query.Grammar
import FeedReader.Proofs.Query.AllFields
import FeedReader.Proofs.Query.Negation
import FeedReader.Proofs.ArticleList.Ordering
import FeedReader.Proofs.SortOrder.Places
import FeedReader.Proofs.Query.Places
import FeedReader.Proofs.Query.Quoting
import FeedReader.Proofs.Text.Lines
import FeedReader.Proofs.Command.Wrapping
import FeedReader.Proofs.Command.LeftOver
import FeedReader.Proofs.Command.Missing
import FeedReader.Proofs.Hint.Wrapping
import FeedReader.Proofs.Hint.Offers
import FeedReader.Proofs.Store.Batches
import FeedReader.Proofs.Store.Removal
import FeedReader.Proofs.ArticleList.Scopes
import FeedReader.Proofs.Query.Gaps
import FeedReader.Proofs.Config.KeyBindings
import FeedReader.Proofs.Config.Settings
