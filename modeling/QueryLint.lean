import QueryLint.CommandLine.Perform
import QueryLint.Config.Load
import QueryLint.Linter
import QueryLint.Main
import QueryLint.Proofs.CommandLine.Effects
import QueryLint.Proofs.CommandLine.Nearest
import QueryLint.Proofs.Config.Document
import QueryLint.Proofs.Config.Json
import QueryLint.Proofs.Config.Toml
import QueryLint.Proofs.Dialect
import QueryLint.Proofs.History
import QueryLint.Proofs.Linter
import QueryLint.Proofs.Linter.Extent
import QueryLint.Proofs.Linter.Independence
import QueryLint.Proofs.Linter.Noninterference
import QueryLint.Proofs.Linter.Severity
import QueryLint.Proofs.ParseError
import QueryLint.Proofs.Report
import QueryLint.Proofs.Report.Color
import QueryLint.Proofs.Report.Stylish
import QueryLint.Proofs.Rule.KeywordCase
import QueryLint.Proofs.Rule.KeywordHidden
import QueryLint.Proofs.Rule.KeywordLine
import QueryLint.Proofs.Rule.KeywordRepair
import QueryLint.Proofs.Rule.NoSelectStar
import QueryLint.Proofs.Rule.TableAlias
import QueryLint.Proofs.Sql.Search
import QueryLint.Proofs.Text.QuotedMatch
import QueryLint.Record
import QueryLint.Report
