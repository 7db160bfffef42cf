import ClusterWatch.Agent.Basic
import ClusterWatch.Agent.Projection
import ClusterWatch.Agent.Query
import ClusterWatch.Agent.Step
import ClusterWatch.Alert
import ClusterWatch.AlertSink
import ClusterWatch.ApiServer.Request
import ClusterWatch.ApiServer.Submission
import ClusterWatch.ApiServer.Write
import ClusterWatch.Cluster.Config
import ClusterWatch.Cluster.Kind
import ClusterWatch.Cluster.Manifest
import ClusterWatch.Cluster.Metadata
import ClusterWatch.Cluster.Resource
import ClusterWatch.Cluster.Schema
import ClusterWatch.Cluster.Store
import ClusterWatch.Cluster.Stores
import ClusterWatch.Cluster.Workload
import ClusterWatch.Config.Attempts
import ClusterWatch.Config.Finalizers
import ClusterWatch.Config.Hash
import ClusterWatch.Config.Ownership
import ClusterWatch.Config.Reconciler
import ClusterWatch.Config.References
import ClusterWatch.Digest.Sha256
import ClusterWatch.Json.Basic
import ClusterWatch.Json.Fields
import ClusterWatch.Json.Reader
import ClusterWatch.Json.Schema
import ClusterWatch.Json.Writer
import ClusterWatch.Main
import ClusterWatch.Mesh.Client
import ClusterWatch.Mesh.Frame
import ClusterWatch.Mesh.Message
import ClusterWatch.Mesh.MessageJson
import ClusterWatch.Mesh.Wire
import ClusterWatch.Metrics
import ClusterWatch.Monitor.Checks
import ClusterWatch.Monitor.Lifecycle
import ClusterWatch.Monitor.Sample
import ClusterWatch.Monitor.Threshold
import ClusterWatch.Monitor.Usage
import ClusterWatch.Monitor.UsageReport
import ClusterWatch.Network
import ClusterWatch.NodeAgent.Directory
import ClusterWatch.NodeAgent.Pool
import ClusterWatch.NodeAgent.Reply
import ClusterWatch.Number.Binary64
import ClusterWatch.Number.Reader
import ClusterWatch.Number.Shortest
import ClusterWatch.Options.Basic
import ClusterWatch.Options.SocketAddress
import ClusterWatch.Options.Text
import ClusterWatch.Proofs.Cluster.WellKept
import ClusterWatch.Proofs.Config.Ownership
import ClusterWatch.Quantity
import ClusterWatch.RequestTarget
import ClusterWatch.Rest.Reply
import ClusterWatch.Rest.Route
import ClusterWatch.Rest.View
import ClusterWatch.Storage.Cache
import ClusterWatch.Storage.Projection
import ClusterWatch.Storage.Sample
import ClusterWatch.Storage.Volume
import ClusterWatch.Text.Base64
import ClusterWatch.Text.Blank
import ClusterWatch.Text.Bytes
import ClusterWatch.Text.Numeral
import ClusterWatch.Text.Percent
import ClusterWatch.Timestamp
import ClusterWatch.Topology.Ingress
import ClusterWatch.Topology.Owner
import ClusterWatch.Topology.Projection
import ClusterWatch.Topology.Transport
import ClusterWatch.Topology.View
import ClusterWatch.Watch.Bus
import ClusterWatch.Watch.ClusterEvent
import ClusterWatch.Watch.Event
import ClusterWatch.Watch.Notice
import ClusterWatch.Watch.Relay
import ClusterWatch.Watch.Session
import ClusterWatch.Watch.Tracker
import ClusterWatch.Proofs.Config.Deliveries
import ClusterWatch.Proofs.Config.Writes
import ClusterWatch.Proofs.Config.Protection
import ClusterWatch.Proofs.Config.Release
import ClusterWatch.Proofs.Config.Interleaving
import ClusterWatch.Proofs.Config.Landing
import ClusterWatch.Proofs.Watch.Tracking
import ClusterWatch.Proofs.Config.Settling
import ClusterWatch.Proofs.Config.SteadyState
import ClusterWatch.Proofs.Watch.Rebuilding
import ClusterWatch.Proofs.Watch.AbortedListing
import ClusterWatch.Proofs.Topology.Sources
import ClusterWatch.Proofs.Topology.Views
import ClusterWatch.Proofs.Topology.Visibility
import ClusterWatch.Proofs.ApiServer.FinalizerPatches
import ClusterWatch.Proofs.Watch.Agreement
import ClusterWatch.Proofs.Config.HashText
import ClusterWatch.Proofs.Mesh.Framing
import ClusterWatch.Proofs.Storage.Mounts
import ClusterWatch.Proofs.Storage.Bindings
import ClusterWatch.Proofs.Storage.Classes
import ClusterWatch.Proofs.Monitor.Tasks
import ClusterWatch.Proofs.Monitor.Lifecycle
import ClusterWatch.Proofs.Topology.Assembly
import ClusterWatch.Proofs.Topology.Feed
import ClusterWatch.Proofs.Topology.PodStates
import ClusterWatch.Proofs.Topology.Convergence
import ClusterWatch.Proofs.Config.OptOut
import ClusterWatch.Proofs.Monitor.Thresholds
import ClusterWatch.Proofs.Monitor.Gauges
import ClusterWatch.Proofs.Monitor.Isolation
import ClusterWatch.Proofs.Watch.Dispatch
import ClusterWatch.Proofs.Watch.Gate
import ClusterWatch.Proofs.Watch.Service
import ClusterWatch.Proofs.Network.LastDeliveries
import ClusterWatch.Proofs.Text.Numerals
import ClusterWatch.Proofs.Text.Trimming
import ClusterWatch.Proofs.Topology.TransportText
import ClusterWatch.Proofs.Mesh.UndeclaredFields
import ClusterWatch.Proofs.Monitor.Totals
import ClusterWatch.Proofs.Number.Signs
import ClusterWatch.Proofs.Number.Decimals
import ClusterWatch.Proofs.Quantity.Suffixes
import ClusterWatch.Proofs.Monitor.Quotas
import ClusterWatch.Proofs.Config.Fixpoint
import ClusterWatch.Proofs.Config.Attempts
import ClusterWatch.Proofs.Monitor.Breaches
import ClusterWatch.Proofs.NodeAgent.Join
import ClusterWatch.Proofs.NodeAgent.Failures
import ClusterWatch.Proofs.NodeAgent.MergedSample
import ClusterWatch.Proofs.Monitor.Conservation
import ClusterWatch.Proofs.Storage.Freshness
import ClusterWatch.Proofs.Storage.Pinning
import ClusterWatch.Proofs.Topology.WellFormedViews
import ClusterWatch.Proofs.Topology.TransportGrammar
import ClusterWatch.Proofs.Config.OwnershipChanges
import ClusterWatch.Proofs.Config.References
import ClusterWatch.Proofs.Quantity.Errors
