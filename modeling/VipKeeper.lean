import VipKeeper.Artifact.Block
import VipKeeper.Artifact.Compile
import VipKeeper.Daemon.Keepalived
import VipKeeper.Decimal.Binary
import VipKeeper.Decimal.Short
import VipKeeper.Digest.SipHash
import VipKeeper.Document.Format
import VipKeeper.Document.Value
import VipKeeper.Failover
import VipKeeper.Fault
import VipKeeper.Host.Files
import VipKeeper.Host.Network
import VipKeeper.LoadBalancer.Basic
import VipKeeper.LoadBalancer.Change
import VipKeeper.LoadBalancer.Document
import VipKeeper.LoadBalancer.Resolution
import VipKeeper.LoadBalancer.Source
import VipKeeper.LoadBalancer.Validation
import VipKeeper.LoadBalancer.Version
import VipKeeper.LoadBalancer.Written
import VipKeeper.Main
import VipKeeper.Metrics.Basic
import VipKeeper.Metrics.Exposition
import VipKeeper.Neighbor.Entry
import VipKeeper.Neighbor.Invalidation
import VipKeeper.Neighbor.Message
import VipKeeper.Net.Address
import VipKeeper.Ordered
import VipKeeper.Queue.Backoff
import VipKeeper.Queue.Notify
import VipKeeper.Queue.WorkQueue
import VipKeeper.Rehearsal.Crew
import VipKeeper.Rehearsal.Desk
import VipKeeper.Rehearsal.FileScript
import VipKeeper.Rehearsal.NeighborScript
import VipKeeper.Rehearsal.Play
import VipKeeper.Rehearsal.QueueScript
import VipKeeper.Rehearsal.ServerScript
import VipKeeper.Rehearsal.SyncScript
import VipKeeper.Router.Instance
import VipKeeper.Router.Role
import VipKeeper.Router.Watcher
import VipKeeper.Service.Scheduler
import VipKeeper.Service.Server
import VipKeeper.Settings.Basic
import VipKeeper.Settings.Load
import VipKeeper.Sync.Controller
import VipKeeper.Sync.Failure
import VipKeeper.Sync.Pass
import VipKeeper.Text.Blank
import VipKeeper.Text.Graphic
import VipKeeper.Text.Lines
import VipKeeper.Text.Numeral
import VipKeeper.Text.Quoted
import VipKeeper.Time.Span
import VipKeeper.Time.SpanText
import VipKeeper.Yaml.Document
import VipKeeper.Yaml.Node
import VipKeeper.Yaml.Scalar
import VipKeeper.Yaml.Spot
import VipKeeper.Yaml.Text
import VipKeeper.Yaml.Token
import VipKeeper.Proofs.Queue.Laws
import VipKeeper.Proofs.Queue.SharedQueue
import VipKeeper.Proofs.Table
import VipKeeper.Proofs.Queue.History
import VipKeeper.Proofs.Sync.Draft
import VipKeeper.Proofs.Sync.Installation
import VipKeeper.Proofs.Sync.Course
import VipKeeper.Proofs.Sync.Control
import VipKeeper.Proofs.Sync.Simulation
import VipKeeper.Proofs.Sync.Steady
import VipKeeper.Proofs.Sync.Convergence
import VipKeeper.Proofs.LoadBalancer.Lookup
import VipKeeper.Proofs.Sync.Trigger
import VipKeeper.Proofs.Artifact.Addresses
import VipKeeper.Proofs.Artifact.Injective
import VipKeeper.Proofs.Sync.Demand
import VipKeeper.Proofs.Sync.Ownership
import VipKeeper.Proofs.Sync.Reload
import VipKeeper.Proofs.Artifact.Outline
import VipKeeper.Proofs.Queue.NotifiedQueue
import VipKeeper.Proofs.Queue.Shutdown
import VipKeeper.Proofs.Queue.Failures
import VipKeeper.Proofs.Sync.Retry
import VipKeeper.Proofs.Lists
import VipKeeper.Proofs.LoadBalancer.Watch
import VipKeeper.Proofs.Failover
import VipKeeper.Proofs.Sync.Rearrangement
import VipKeeper.Proofs.Sync.Journal
import VipKeeper.Proofs.Sync.Repetition
import VipKeeper.Proofs.LoadBalancer.Acceptance
import VipKeeper.Proofs.LoadBalancer.Election
import VipKeeper.Proofs.LoadBalancer.Staffing
import VipKeeper.Proofs.Router.Blocks
import VipKeeper.Proofs.LoadBalancer.Edits
import VipKeeper.Proofs.LoadBalancer.Patch
import VipKeeper.Proofs.Router.Streams
import VipKeeper.Proofs.Router.Naming
import VipKeeper.Proofs.Host.Files
import VipKeeper.Proofs.Host.Replacement
import VipKeeper.Proofs.Neighbor.Invalidation
import VipKeeper.Proofs.Neighbor.Message
import VipKeeper.Proofs.Document.Spelling
import VipKeeper.Proofs.LoadBalancer.Spelled
import VipKeeper.Proofs.Sync.Display
import VipKeeper.Proofs.Metrics
import VipKeeper.Proofs.Sync.Books
