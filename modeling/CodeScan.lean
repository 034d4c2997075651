import CodeScan.Main
import CodeScan.Proofs.Batch.Inline
import CodeScan.Proofs.FrontEnds
import CodeScan.Proofs.Scan.Append
import CodeScan.Proofs.Scan.Snippet
import CodeScan.Service.Handler
import CodeScan.Proofs.Pattern.Context
import CodeScan.Proofs.Pattern.Lexer
import CodeScan.Proofs.Pattern.Segment
import CodeScan.Proofs.Scan.Independence
import CodeScan.Proofs.Catalog.Build
import CodeScan.Proofs.Catalog.Context
import CodeScan.Proofs.Timestamp.Calendar
import CodeScan.Proofs.Timestamp.Written
import CodeScan.Proofs.Record.RoundTrip
import CodeScan.Proofs.Number.Binary64
import CodeScan.Proofs.Number.Shortest
import CodeScan.Proofs.Json.Number
import CodeScan.Proofs.Json.RoundTrip
import CodeScan.Proofs.Json.Read
import CodeScan.Proofs.Record.Messages
import CodeScan.Proofs.Report.Size
import CodeScan.Proofs.CommandLine.Answer
import CodeScan.Proofs.Scan.Failures
import CodeScan.Proofs.Scan.LineEndings
import CodeScan.Proofs.Scan.Health
import CodeScan.Proofs.Text.EndedLines
import CodeScan.Proofs.Report.LineCounts
import CodeScan.Proofs.Batch.Sorted
import CodeScan.Proofs.Catalog.Redirect
import CodeScan.Proofs.Catalog.Password
import CodeScan.Proofs.Catalog.Query
import CodeScan.Proofs.Catalog.Transport
import CodeScan.Proofs.Catalog.Debugger
import CodeScan.Proofs.Catalog.Arguments
import CodeScan.Proofs.Batch.TooLong
import CodeScan.Proofs.Service.Download
import CodeScan.Proofs.Report.Breakdown
import CodeScan.Proofs.File.Name
import CodeScan.Proofs.Number.Literal
import CodeScan.Proofs.Settings.Load
import CodeScan.Proofs.Settings.Origins
