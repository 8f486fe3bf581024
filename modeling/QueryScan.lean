import QueryScan.JsonValue.Reader
import QueryScan.Log.Session
import QueryScan.Proofs.BadIndex
import QueryScan.Proofs.Cursor
import QueryScan.Proofs.Journal
import QueryScan.Proofs.Restart
import QueryScan.Proofs.Tokenization
import QueryScan.Query.Summary
import QueryScan.Survey
import QueryScan.Text.Alphanumeric
import QueryScan.Text.Blank
import QueryScan.Text.Padding
import QueryScan.Token.Binary
import QueryScan.Token.Json
import QueryScan.Token.Render
import QueryScan.Proofs.Spelling
import QueryScan.Proofs.BinaryForm
import QueryScan.Proofs.CheckBeforeScan
import QueryScan.Proofs.PrintableLines
import QueryScan.Proofs.DirectiveForm
import QueryScan.Proofs.LogEntries
import QueryScan.Proofs.Sinks
import QueryScan.Proofs.CaseVariants
import QueryScan.Proofs.KeywordSpelling
import QueryScan.Proofs.NormalForm
import QueryScan.Proofs.Extension
import QueryScan.Proofs.TokenShape
import QueryScan.Proofs.TextSize
import QueryScan.Proofs.Truncation
import QueryScan.Proofs.StructuredForm
import QueryScan.Proofs.LogFile
import QueryScan.Proofs.DisplayForm
