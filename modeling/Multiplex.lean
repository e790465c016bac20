import Multiplex.Directory.Adapter
import Multiplex.Main
import Multiplex.Program.Run
import Multiplex.Scan.Table
import Multiplex.Section.Checksum
import Multiplex.Section.Json
import Multiplex.Section.Lookup
import Multiplex.Section.Reader
import Multiplex.Section.Writer
import Multiplex.Session.Filter
import Multiplex.Session.Record
import Multiplex.Session.Trace
import Multiplex.Tuner.Info
import Multiplex.Proofs.Calendar.JulianDay
import Multiplex.Proofs.Calendar.Field
import Multiplex.Proofs.Section.Grammar
import Multiplex.Proofs.Section.Reading
import Multiplex.Proofs.Section.Rows
import Multiplex.Proofs.Section.RoundTrip
import Multiplex.Proofs.Section.Sealing
import Multiplex.Proofs.Section.Register
import Multiplex.Proofs.Section.Window
import Multiplex.Proofs.Section.Verifying
import Multiplex.Proofs.Section.Limits
import Multiplex.Proofs.Demux.Registry
import Multiplex.Proofs.Session.Holdings
import Multiplex.Proofs.Session.Accounts
import Multiplex.Proofs.Session.Walks
import Multiplex.Proofs.Session.Closing
import Multiplex.Proofs.Session.Book
import Multiplex.Proofs.Session.Calls
import Multiplex.Proofs.Session.Runs
import Multiplex.Proofs.Demux.FreshMap
import Multiplex.Proofs.Session.Steps
import Multiplex.Proofs.Session.Telling
import Multiplex.Proofs.Session.Using
import Multiplex.Proofs.Session.Creation
import Multiplex.Proofs.Session.Turns
import Multiplex.Proofs.Session.Isolation
import Multiplex.Proofs.Session.Retirement
import Multiplex.Proofs.Session.Stale
import Multiplex.Proofs.Session.Delivery
import Multiplex.Proofs.Session.Dissolving
import Multiplex.Proofs.Session.Reads
import Multiplex.Proofs.Session.Frontends
import Multiplex.Proofs.Program.Shown
import Multiplex.Proofs.Calendar.Counting
import Multiplex.Proofs.Section.Cursors
import Multiplex.Proofs.Section.Payloads
import Multiplex.Proofs.Text.Controls
import Multiplex.Proofs.Scan.Layout
import Multiplex.Proofs.Scan.Refusal
import Multiplex.Proofs.Text.Numerals
import Multiplex.Proofs.Directory.Paths
import Multiplex.Proofs.Directory.Search
import Multiplex.Proofs.Directory.Adapters
import Multiplex.Proofs.Session.Adding
import Multiplex.Proofs.Demux.Settings
import Multiplex.Proofs.Session.Programming
import Multiplex.Proofs.Scan.Entries
import Multiplex.Proofs.Section.Records
import Multiplex.Proofs.Calendar.Instants
import Multiplex.Proofs.Section.Durations
