import ReportQuery.Cache.Memory
import ReportQuery.Cache.Schedule
import ReportQuery.Cache.Store
import ReportQuery.Cache.WriteQueue
import ReportQuery.Calendar.DateRange
import ReportQuery.Calendar.Day
import ReportQuery.Calendar.Layout
import ReportQuery.Calendar.Moment
import ReportQuery.Catalog
import ReportQuery.Catalog.Document
import ReportQuery.Catalog.Listing
import ReportQuery.Catalog.ViewStorage
import ReportQuery.Cell
import ReportQuery.Cell.Cast
import ReportQuery.Command
import ReportQuery.Command.Display
import ReportQuery.Command.Options
import ReportQuery.Csv
import ReportQuery.Decimal.Fixed
import ReportQuery.Decimal.Reading
import ReportQuery.Environment
import ReportQuery.Files
import ReportQuery.Hash
import ReportQuery.Json
import ReportQuery.Json.Number
import ReportQuery.Json.Printer
import ReportQuery.Json.Reader
import ReportQuery.Main
import ReportQuery.Numeral
import ReportQuery.Operator
import ReportQuery.Plan.Bind
import ReportQuery.Plan.Unfold
import ReportQuery.Proofs.Cache.BackgroundWrites
import ReportQuery.Proofs.Cache.FileNames
import ReportQuery.Proofs.Cache.Histories
import ReportQuery.Proofs.Cache.Presence
import ReportQuery.Proofs.Cache.StoredReport
import ReportQuery.Proofs.Calendar.Compact
import ReportQuery.Proofs.Calendar.EightDigits
import ReportQuery.Proofs.Calendar.Hyphens
import ReportQuery.Proofs.Calendar.NamedRanges
import ReportQuery.Proofs.Calendar.ReadBack
import ReportQuery.Proofs.Calendar.Timestamps
import ReportQuery.Proofs.Catalog.OtherTables
import ReportQuery.Proofs.Catalog.SavedDocument
import ReportQuery.Proofs.Catalog.ShownTables
import ReportQuery.Proofs.Catalog.Soundness
import ReportQuery.Proofs.Catalog.StoredView
import ReportQuery.Proofs.Catalog.Traced
import ReportQuery.Proofs.Catalog.Words
import ReportQuery.Proofs.Cell.Comparison
import ReportQuery.Proofs.Cell.Rendering
import ReportQuery.Proofs.Command.FailedScripts
import ReportQuery.Proofs.Command.ScriptsInParts
import ReportQuery.Proofs.Command.TableLines
import ReportQuery.Proofs.Csv.RoundTrip
import ReportQuery.Proofs.Csv.Texts
import ReportQuery.Proofs.Decimal.Comparison
import ReportQuery.Proofs.Decimal.Rounding
import ReportQuery.Proofs.Decimal.WholeNumbers
import ReportQuery.Proofs.Files
import ReportQuery.Proofs.Json.Records
import ReportQuery.Proofs.Json.RoundTrip
import ReportQuery.Proofs.Plan.AdoptedTargets
import ReportQuery.Proofs.Plan.Alike
import ReportQuery.Proofs.Plan.Bind
import ReportQuery.Proofs.Plan.Chain
import ReportQuery.Proofs.Plan.Conditions
import ReportQuery.Proofs.Plan.Contents
import ReportQuery.Proofs.Plan.Days
import ReportQuery.Proofs.Plan.Depth
import ReportQuery.Proofs.Plan.Everything
import ReportQuery.Proofs.Plan.KeptEntries
import ReportQuery.Proofs.Plan.NamedColumns
import ReportQuery.Proofs.Plan.PlainView
import ReportQuery.Proofs.Plan.PlainViewMeaning
import ReportQuery.Proofs.Plan.Queryable
import ReportQuery.Proofs.Plan.Request
import ReportQuery.Proofs.Plan.RowWindows
import ReportQuery.Proofs.Plan.Storable
import ReportQuery.Proofs.Report.Answer
import ReportQuery.Proofs.Report.Counting
import ReportQuery.Proofs.Report.Extremes
import ReportQuery.Proofs.Report.GroupKeys
import ReportQuery.Proofs.Report.Grouping
import ReportQuery.Proofs.Report.Rectangular
import ReportQuery.Proofs.Report.RowOrder
import ReportQuery.Proofs.Report.UnsetInputs
import ReportQuery.Proofs.Report.Widths
import ReportQuery.Proofs.Session.Accounts
import ReportQuery.Proofs.Session.CacheTransparency
import ReportQuery.Proofs.Session.LeftBehind
import ReportQuery.Proofs.Session.Pages
import ReportQuery.Proofs.Session.Scripts
import ReportQuery.Proofs.Settings.CatalogDocuments
import ReportQuery.Proofs.Sorting
import ReportQuery.Proofs.Statement.Blanks
import ReportQuery.Proofs.Statement.Confined
import ReportQuery.Proofs.Statement.Gives
import ReportQuery.Proofs.Statement.Origins
import ReportQuery.Proofs.Statement.Progress
import ReportQuery.Proofs.Statement.ReadsAs
import ReportQuery.Proofs.Statement.Regular
import ReportQuery.Proofs.Statement.RoundTrip
import ReportQuery.Proofs.Statement.Runs
import ReportQuery.Proofs.Statement.Script
import ReportQuery.Proofs.Statement.ScriptRuns
import ReportQuery.Proofs.Statement.StarFunctions
import ReportQuery.Proofs.Statement.Stepwise
import ReportQuery.Proofs.Statement.TakenTokens
import ReportQuery.Proofs.Statement.WellFormed
import ReportQuery.Proofs.Statement.Written
import ReportQuery.Proofs.Text.Joined
import ReportQuery.Proofs.Token.CanonicalText
import ReportQuery.Proofs.Token.Concatenation
import ReportQuery.Proofs.Token.Cursor
import ReportQuery.Proofs.Token.Partition
import ReportQuery.Proofs.Token.Spelling
import ReportQuery.QueryError
import ReportQuery.Report.Aggregate
import ReportQuery.Report.ResultSet
import ReportQuery.Service.Answer
import ReportQuery.Service.Error
import ReportQuery.Service.ErrorDocument
import ReportQuery.Service.Request
import ReportQuery.Session
import ReportQuery.Settings
import ReportQuery.Settings.Document
import ReportQuery.Settings.Loading
import ReportQuery.Settings.Template
import ReportQuery.Statement
import ReportQuery.Statement.Error
import ReportQuery.Statement.Grammar
import ReportQuery.Statement.Parser
import ReportQuery.Statement.Printer
import ReportQuery.Text.CaseTable
import ReportQuery.Text.Characters
import ReportQuery.Text.HiddenTable
import ReportQuery.Text.Lowercase
import ReportQuery.Text.Percent
import ReportQuery.Text.Quoted
import ReportQuery.Text.Search
import ReportQuery.Text.Utf8
import ReportQuery.Token
import ReportQuery.Token.Lexer
import ReportQuery.Token.Word
import ReportQuery.Toml.Quoted
import ReportQuery.Toml.Reader
import ReportQuery.Toml.Scalar
import ReportQuery.Toml.Tables
import ReportQuery.Url
import ReportQuery.Url.HostTable
import ReportQuery.Xml
import ReportQuery.Xml.Attribute
import ReportQuery.Xml.Element
import ReportQuery.Xml.Event
import ReportQuery.Xml.Item
import ReportQuery.Xml.Markup
import ReportQuery.Xml.Reference
