import QueryLint.Command.Run
import QueryLint.Draft.Report
import QueryLint.Engine.Scan
import QueryLint.Grammar.WordTable
import QueryLint.Json.Reader
import QueryLint.Json.Writer
import QueryLint.Main
import QueryLint.Report.Format
import QueryLint.Settings.File
import QueryLint.SqlRules
import QueryLint.Proofs.Finding.Order
import QueryLint.Proofs.SqlRules.Analysis
import QueryLint.Proofs.Engine.Findings
import QueryLint.Proofs.Engine.Containment
import QueryLint.Proofs.Source.Places
import QueryLint.Proofs.Source.Pieces
import QueryLint.Proofs.Source.TokenPlaces
import QueryLint.Proofs.Document
import QueryLint.Proofs.Resolution.Tracing
import QueryLint.Proofs.Source.LexemePlaces
import QueryLint.Proofs.Source.TextLines.Basic
import QueryLint.Proofs.Source.TextLines.Expressions
import QueryLint.Proofs.Source.TextLines.Strings
import QueryLint.Proofs.Source.TextLines.Statements
import QueryLint.Proofs.Document.TextLines
import QueryLint.Proofs.Engine.LineNumbers
import QueryLint.Proofs.Engine.Rules
import QueryLint.Proofs.Engine.LanguageNames
import QueryLint.Proofs.FileTree
import QueryLint.Proofs.Engine.Discovery
import QueryLint.Proofs.Engine.Scan
import QueryLint.Proofs.FileTree.Ways
import QueryLint.Proofs.Glob
import QueryLint.Proofs.Engine.Walk
import QueryLint.Proofs.Engine.FoundFiles
import QueryLint.Proofs.Engine.Threshold
import QueryLint.Proofs.Engine.Sources
import QueryLint.Proofs.Settings
import QueryLint.Proofs.Command.Scan
import QueryLint.Proofs.Command.ExitCode
import QueryLint.Proofs.Engine.Exclusion
import QueryLint.Proofs.Command.Exclusion
import QueryLint.Proofs.Engine.FolderPatterns
import QueryLint.Proofs.Settings.Default
import QueryLint.Proofs.Text.Utf8
import QueryLint.Proofs.Engine.WrittenForms
import QueryLint.Proofs.Engine.RuleSelection
import QueryLint.Proofs.Engine.Marks
import QueryLint.Proofs.Report.Agreement
import QueryLint.Proofs.Report.Drafts
import QueryLint.Proofs.Report.Sarif
import QueryLint.Proofs.Grammar.Brackets
import QueryLint.Proofs.Grammar.Notes
import QueryLint.Proofs.Grammar.Messages
import QueryLint.Proofs.Grammar.Segments
import QueryLint.Proofs.Grammar.TokenTexts
import QueryLint.Proofs.Finding.RoundTrip
import QueryLint.Proofs.Settings.Mapping
import QueryLint.Proofs.Settings.NullSections
import QueryLint.Proofs.Json.RoundTrip
import QueryLint.Proofs.Resolution.Locality
import QueryLint.Proofs.Source.Constructs
import QueryLint.Proofs.Tree.Mirror
import QueryLint.Proofs.Tree.Blocks
import QueryLint.Proofs.Engine.Anchors
import QueryLint.Proofs.Tree.Rendering
import QueryLint.Proofs.Tree.BlockTokens
import QueryLint.Proofs.Tree.SiteExpressions
import QueryLint.Proofs.Engine.LiteralsOnce
import QueryLint.Proofs.Engine.MarkedText
import QueryLint.Proofs.Registry
import QueryLint.Proofs.Settings.Search
import QueryLint.Proofs.Report.Excerpts
import QueryLint.Proofs.Tree.Columns
