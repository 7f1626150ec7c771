import SpanDashboard.Dashboard.Rehearsal
import SpanDashboard.Page.Basic
import SpanDashboard.Page.Click
import SpanDashboard.Record.Encode
import SpanDashboard.View.Validity
import SpanDashboard.Proofs.Run
import SpanDashboard.Proofs.Account
import SpanDashboard.Proofs.Supersession
import SpanDashboard.Proofs.Bookkeeping
import SpanDashboard.Proofs.Inner
import SpanDashboard.Proofs.Completion
import SpanDashboard.Proofs.Agreement
import SpanDashboard.Proofs.Contents
import SpanDashboard.Proofs.Overtaking
import SpanDashboard.Proofs.Overwriting
import SpanDashboard.Proofs.Isolation
import SpanDashboard.Proofs.Structure
import SpanDashboard.Proofs.ClickThrough
import SpanDashboard.Proofs.Values
import SpanDashboard.Proofs.Arrangement
import SpanDashboard.Proofs.Scanning
import SpanDashboard.Proofs.Building
import SpanDashboard.Proofs.Results
import SpanDashboard.Proofs.Format
import SpanDashboard.Proofs.Fields
import SpanDashboard.Proofs.Readers
import SpanDashboard.Proofs.WireFormat
import SpanDashboard.Proofs.RoundTrip
import SpanDashboard.Proofs.Replies
import SpanDashboard.Proofs.Pages
import SpanDashboard.Proofs.Loading
import SpanDashboard.Proofs.Endpoints
import SpanDashboard.Proofs.Depth
import SpanDashboard.Proofs.Calendar
import SpanDashboard.Proofs.Timestamps
import SpanDashboard.Proofs.Reading
import SpanDashboard.Proofs.Addresses
import SpanDashboard.Proofs.Chronology
import SpanDashboard.Proofs.Elision
import SpanDashboard.Proofs.Entities
import SpanDashboard.Proofs.Buckets
import SpanDashboard.Proofs.CellAttributes
import SpanDashboard.Proofs.Strings
import SpanDashboard.Proofs.ErrorReports
import SpanDashboard.Proofs.Documents
import SpanDashboard.Proofs.Reordering
