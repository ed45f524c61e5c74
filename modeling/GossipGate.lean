import GossipGate.Anomaly
import GossipGate.Clock
import GossipGate.Confidence
import GossipGate.Config
import GossipGate.Config.Environment
import GossipGate.Config.Form
import GossipGate.Config.Problem
import GossipGate.Decimal.Scientific
import GossipGate.Decimal.Shortest
import GossipGate.Duration
import GossipGate.Duration.Brief
import GossipGate.Duration.Form
import GossipGate.Duration.Written
import GossipGate.Engine
import GossipGate.Engine.Adjustment
import GossipGate.Engine.Admission
import GossipGate.Engine.Audit
import GossipGate.Engine.Peers
import GossipGate.Engine.Receive
import GossipGate.Engine.Run
import GossipGate.Engine.Snapshot
import GossipGate.Engine.Upkeep
import GossipGate.Entry
import GossipGate.Event
import GossipGate.Event.Log
import GossipGate.Fault
import GossipGate.Hash.Fnv
import GossipGate.Hash.SipHash
import GossipGate.Json
import GossipGate.Json.Kept
import GossipGate.Json.Reader
import GossipGate.Json.Record
import GossipGate.Json.Writer
import GossipGate.Key
import GossipGate.Maintenance
import GossipGate.Metadata
import GossipGate.Metrics
import GossipGate.Metrics.Exposition
import GossipGate.Metrics.Samples
import GossipGate.Network
import GossipGate.Peer
import GossipGate.Retention
import GossipGate.Rounding
import GossipGate.Scalar
import GossipGate.Scalar.Binary64
import GossipGate.Scalar.Exact
import GossipGate.SeenFilter
import GossipGate.Store
import GossipGate.Store.Shard
import GossipGate.Table
import GossipGate.Telemetry
import GossipGate.Telemetry.Logging
import GossipGate.Text.Blank
import GossipGate.Text.Numeral
import GossipGate.Tier
import GossipGate.Traffic
import GossipGate.Trust
import GossipGate.Ttl.Bounds
import GossipGate.Ttl.Control
import GossipGate.Proofs.Comparison
import GossipGate.Proofs.Shard
import GossipGate.Proofs.StoredItems
import GossipGate.Proofs.Leader
import GossipGate.Proofs.Eviction
import GossipGate.Proofs.StoreRefinement
import GossipGate.Proofs.Admission
import GossipGate.Proofs.Bookkeeping
import GossipGate.Proofs.Decision
import GossipGate.Proofs.ConfigChecks
import GossipGate.Proofs.Run
import GossipGate.Proofs.Verdict
import GossipGate.Proofs.Balance
import GossipGate.Proofs.AlikeStores
import GossipGate.Proofs.ShardCount
import GossipGate.Proofs.Moves
import GossipGate.Proofs.Adjustment
import GossipGate.Proofs.TtlBounds
import GossipGate.Proofs.Blacklist
import GossipGate.Proofs.Tracking
import GossipGate.Proofs.Throughout
import GossipGate.Proofs.Ranges
import GossipGate.Proofs.FreshMessages
import GossipGate.Proofs.Survivors
import GossipGate.Proofs.Reports
import GossipGate.Proofs.Nearest
import GossipGate.Proofs.NearestNanos
import GossipGate.Proofs.DoubleRounding
import GossipGate.Proofs.DoubleValue
import GossipGate.Proofs.DoubleArithmetic
import GossipGate.Proofs.RoundedScalar
import GossipGate.Proofs.Estimates
import GossipGate.Proofs.MeasuredDuration
import GossipGate.Proofs.Averages
import GossipGate.Proofs.Tallies
import GossipGate.Proofs.Counters
import GossipGate.Proofs.MappedStore
import GossipGate.Proofs.BareStore
import GossipGate.Proofs.BareGate
import GossipGate.Proofs.FreeTier
import GossipGate.Proofs.Expiry
import GossipGate.Proofs.GlobalTtl
import GossipGate.Proofs.Residence
import GossipGate.Proofs.FilterTtl
import GossipGate.Proofs.FilterStart
import GossipGate.Proofs.Interval
import GossipGate.Proofs.Learning
import GossipGate.Proofs.Footprint
import GossipGate.Proofs.ValueRanges
import GossipGate.Proofs.Faults
import GossipGate.Proofs.Controllers
import GossipGate.Proofs.Faultless
import GossipGate.Proofs.LaterGate
import GossipGate.Proofs.LaterCalls
import GossipGate.Proofs.Determinism
import GossipGate.Proofs.Epoch
import GossipGate.Proofs.UnwatchedGate
import GossipGate.Proofs.Detection
import GossipGate.Proofs.Clamping
import GossipGate.Proofs.SecondsClamp
import GossipGate.Proofs.ClampLimits
import GossipGate.Proofs.UsableConfig
import GossipGate.Proofs.RepeatedCleanup
import GossipGate.Proofs.EvictionMoments
import GossipGate.Proofs.InsertionOrder
import GossipGate.Proofs.Dominance
import GossipGate.Proofs.WrittenDuration
import GossipGate.Proofs.JsonTokens
import GossipGate.Proofs.JsonText
import GossipGate.Proofs.RecordForms
import GossipGate.Proofs.RoundTrip
import GossipGate.Proofs.OwnerConfidence
import GossipGate.Proofs.PeerNotes
import GossipGate.Proofs.PeerRecords
import GossipGate.Proofs.BlacklistLatch
import GossipGate.Proofs.PeerScore
import GossipGate.Proofs.Reputation
import GossipGate.Proofs.TrafficRecords
import GossipGate.Proofs.DerivedFields
import GossipGate.Proofs.EntryLives
import GossipGate.Proofs.VelocitySpike
import GossipGate.Proofs.TrafficNotes
import GossipGate.Proofs.RunningAverages
