import TransitGuard.Library.Runs
import TransitGuard.Library.Counters
import TransitGuard.Library.Simulation
import TransitGuard.Library.Transcript
import TransitGuard.Library.Table
import TransitGuard.Library.Fallible
import TransitGuard.Library.Register
import TransitGuard.Library.Framing
import TransitGuard.Library.Text
import TransitGuard.Library.Ascii
import TransitGuard.Library.Http
import TransitGuard.Library.Hexadecimal
import TransitGuard.Library.Json
import TransitGuard.Library.JsonDecode
import TransitGuard.Library.JsonInjective
import TransitGuard.Library.Sha256
import TransitGuard.Library.Checked
import TransitGuard.Library.Discount
import TransitGuard.Library.Isolation
import TransitGuard.Library.Sessions
import TransitGuard.Domain.Identifier
import TransitGuard.Domain.Transaction
import TransitGuard.Domain.Money
import TransitGuard.Domain.Account
import TransitGuard.Domain.Credential
import TransitGuard.Domain.Equipment
import TransitGuard.Domain.Event
import TransitGuard.Domain.Decoding
import TransitGuard.Fare.Policy
import TransitGuard.Fare.Rules
import TransitGuard.Fare.Evaluation
import TransitGuard.Fare.Journeys
import TransitGuard.Fare.Offline
import TransitGuard.Fare.ClosedForm
import TransitGuard.Fare.Safety
import TransitGuard.Fare.Fairness
import TransitGuard.Fare.Decoding
import TransitGuard.Fare.Identifiers
import TransitGuard.Protocol.Synchronization
import TransitGuard.Protocol.Fingerprint
import TransitGuard.Protocol.FingerprintText
import TransitGuard.Protocol.Decoding
import TransitGuard.Protocol.Wire
import TransitGuard.Telemetry.Recorder
import TransitGuard.Backend.Ingest
import TransitGuard.Backend.Service
import TransitGuard.Backend.Api
import TransitGuard.Backend.Observed
import TransitGuard.Backend.Replay
import TransitGuard.Backend.Ledger
import TransitGuard.Backend.Identity
import TransitGuard.Backend.Resolution
import TransitGuard.Backend.Commit
import TransitGuard.Backend.Aggregates
import TransitGuard.Backend.Credentials
import TransitGuard.Backend.Committed
import TransitGuard.Backend.EventLog
import TransitGuard.Backend.Succession
import TransitGuard.Backend.Issuance
import TransitGuard.Backend.Equipment
import TransitGuard.Backend.RoundTrip
import TransitGuard.Backend.Accounts
import TransitGuard.Backend.Registration
import TransitGuard.Backend.Concurrency
import TransitGuard.Backend.Locking
import TransitGuard.Backend.Serializability
import TransitGuard.Backend.Interleaving
import TransitGuard.Backend.Exactness
import TransitGuard.Reader.Schema
import TransitGuard.Reader.Storage
import TransitGuard.Reader.Queue
import TransitGuard.Reader.QueueState
import TransitGuard.Reader.Batch
import TransitGuard.Reader.BatchState
import TransitGuard.Reader.Acknowledgement
import TransitGuard.Reader.Application
import TransitGuard.Reader.Contiguous
import TransitGuard.Reader.Request
import TransitGuard.Reader.Operation
import TransitGuard.Reader.Effect
import TransitGuard.Reader.Growth
import TransitGuard.Reader.Invariant
import TransitGuard.Reader.OpenBatch
import TransitGuard.Reader.Acknowledged
import TransitGuard.Reader.Reachable
import TransitGuard.Reader.Enqueue
import TransitGuard.Reader.InFlight
import TransitGuard.Reader.Progress
import TransitGuard.Reader.ReadyBatches
import TransitGuard.Reader.Atomicity
import TransitGuard.Reader.HighWaterMark
import TransitGuard.Reader.Recorded
import TransitGuard.Reader.Retry
import TransitGuard.Reader.Transmission
import TransitGuard.Reader.Requested
import TransitGuard.Reader.Storable
import TransitGuard.Reader.Replay
import TransitGuard.Reader.Settlement
import TransitGuard.Reader.Delivery
import TransitGuard.Reader.Waiting
import TransitGuard.Reader.Coordinated
import TransitGuard.Reader.Submission
import TransitGuard.Reader.Transport
import TransitGuard.Reader.Coordinator
import TransitGuard.Reader.RequestSize
import TransitGuard.Reader.Timestamps
import TransitGuard.Reader.Ready
import TransitGuard.Reader.Creation
import TransitGuard.Reader.Recovery
import TransitGuard.Reader.Attempts
import TransitGuard.Reader.Deliverable
import TransitGuard.Reader.Health
import TransitGuard.Simulator.Reader
import TransitGuard.Simulator.Scenario
import TransitGuard.System.Composed
import TransitGuard.System.Invariant
import TransitGuard.System.Agreement
import TransitGuard.System.Standing
import TransitGuard.System.Drain
import TransitGuard.System.Fleet
import TransitGuard.System.Concurrent
import TransitGuard.Domain.FareTransaction
import TransitGuard.System.Exchange
import TransitGuard.System.Wire
