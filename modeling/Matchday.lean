import Matchday.Address
import Matchday.Application
import Matchday.Backend
import Matchday.Calendar.Date
import Matchday.Calendar.Instant
import Matchday.Concurrent.Machine
import Matchday.Concurrent.Run
import Matchday.Concurrent.Task
import Matchday.Concurrent.Timeline
import Matchday.Coordinates
import Matchday.Event
import Matchday.Geocoding.Answer
import Matchday.Geocoding.Caller
import Matchday.Geocoding.Error
import Matchday.Geocoding.Exchange
import Matchday.Geocoding.Geocoder
import Matchday.Geocoding.Request
import Matchday.Geocoding.Resolver
import Matchday.Id
import Matchday.Json.Basic
import Matchday.Json.Printer
import Matchday.Json.Reader
import Matchday.Json.Real
import Matchday.Json.Record
import Matchday.Json.Token
import Matchday.Locating.Pass
import Matchday.Locating.Queue
import Matchday.Locating.Sweep
import Matchday.Log
import Matchday.Membership
import Matchday.Number.Binary64
import Matchday.Number.Decimal
import Matchday.Number.Literal
import Matchday.Number.Plain
import Matchday.Number.Shortest
import Matchday.Payment
import Matchday.Proofs.Concurrent.Footprint
import Matchday.Proofs.Concurrent.History
import Matchday.Proofs.Concurrent.Names
import Matchday.Proofs.Concurrent.Turn
import Matchday.Proofs.Locating.Completion
import Matchday.Proofs.Locating.Coverage
import Matchday.Proofs.Locating.Draining
import Matchday.Proofs.Locating.Looking
import Matchday.Proofs.Locating.Marks
import Matchday.Proofs.Locating.Order
import Matchday.Proofs.Locating.Overtaking
import Matchday.Proofs.Locating.Queue
import Matchday.Proofs.Locating.Tracking
import Matchday.Proofs.Membership.Changes
import Matchday.Proofs.Membership.Ledger
import Matchday.Proofs.Membership.Races
import Matchday.Proofs.Membership.Validity
import Matchday.Proofs.Services.Pace
import Matchday.Proofs.Services.Periods
import Matchday.Proofs.Services.Refinement
import Matchday.Proofs.Services.Remainder
import Matchday.Proofs.Services.Rounds
import Matchday.Proofs.Services.Stopping
import Matchday.Proofs.Services.Ticking
import Matchday.Proofs.Settings.Numbers
import Matchday.Proofs.Settlement.Books
import Matchday.Proofs.Settlement.Cancelled
import Matchday.Proofs.Settlement.Closed
import Matchday.Proofs.Settlement.Once
import Matchday.Proofs.Settlement.Punctual
import Matchday.Proofs.Settlement.Questions
import Matchday.Proofs.Settlement.Schedule
import Matchday.Proofs.Settlement.Shutdown
import Matchday.Proofs.Settlement.Stages
import Matchday.Proofs.Settlement.Timely
import Matchday.Proofs.Store.Calls
import Matchday.Proofs.Store.Events
import Matchday.Proofs.Store.Paid
import Matchday.Services.Ending
import Matchday.Services.Host
import Matchday.Services.Worker
import Matchday.Settings
import Matchday.Settings.Assignment
import Matchday.Settings.Environment
import Matchday.Settings.File
import Matchday.Settings.Lines
import Matchday.Settlement.Error
import Matchday.Settlement.Schedule
import Matchday.Settlement.Status
import Matchday.Settlement.Task
import Matchday.Store.Error
import Matchday.Store.Events
import Matchday.Store.Payments
import Matchday.Subscription
import Matchday.Text.Alphanumeric
import Matchday.Text.Blank
import Matchday.Text.ByteOrderMark
import Matchday.Text.Case
import Matchday.Text.Hex
import Matchday.Text.Percent
import Matchday.Text.Printable
import Matchday.Text.Quoted
import Matchday.Text.Ranges
import Matchday.Timer
import Matchday.Wire
import Matchday.Proofs.Subsystems.Views
import Matchday.Proofs.Subsystems.Steps
import Matchday.Proofs.Subsystems.Separation
import Matchday.Proofs.Json.Numbers
import Matchday.Proofs.Json.Reading
import Matchday.Proofs.Json.Records
import Matchday.Proofs.Json.Reals
import Matchday.Proofs.Wire.Identifiers
import Matchday.Proofs.Wire.Instants
import Matchday.Proofs.Number.Shortest
import Matchday.Proofs.Wire.RoundTrip
import Matchday.Proofs.Membership.Attempts
import Matchday.Proofs.Membership.Limits
import Matchday.Proofs.Membership.Algebra
import Matchday.Proofs.Locating.Sweeping
import Matchday.Proofs.Address.FixedPoints
import Matchday.Proofs.Address.Noise
import Matchday.Proofs.Geocoding.Agreement
import Matchday.Proofs.Geocoding.Cascade
import Matchday.Proofs.Geocoding.Bounds
import Matchday.Proofs.Locating.Placing
import Matchday.Proofs.Json.Fields
import Matchday.Proofs.Geocoding.Declared
import Matchday.Proofs.Geocoding.Queries
import Matchday.Proofs.Services.Supervision
import Matchday.Proofs.Id.Layout
import Matchday.Proofs.Id.Order
import Matchday.Proofs.Id.Spelling
import Matchday.Proofs.Text.Trimming
import Matchday.Proofs.Text.Ascii
import Matchday.Proofs.Settings.Numerals
import Matchday.Proofs.Settings.PlainFile
import Matchday.Proofs.Settings.Decision
