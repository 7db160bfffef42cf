import ClusterWatch.Agent.Projection
import ClusterWatch.Mesh.Client
import ClusterWatch.Metrics
import ClusterWatch.NodeAgent.Directory
import ClusterWatch.Watch.Relay

/-!
# The agent

The state of the agent as a whole: the relay of watch events, the projections that follow them, the
mount point cache, and what it counts. Whatever the agent finds outside of itself is passed to it
with every step, and what it does there comes back as effects.
-/

namespace ClusterWatch

/-- What the agent finds outside of itself during a step. -/
structure Surroundings where
  /-- The time in milliseconds. -/
  now : Nat
  /-- The calls by which the node agents are asked for their mount points. -/
  usageCalls : List (AgentCall UsageSample)
  /-- The calls by which the node agents are asked for their disks. -/
  diskCalls : List (AgentCall Disks)
  /-- What the metrics interface reports. -/
  metrics : MetricsReport
  /-- Whether a write to the cluster succeeds, by its place among the writes for one event. -/
  accepts : Nat → Bool
  /-- What a request to the mesh controller comes to. -/
  mesh : MeshRequest → MeshExchange

/-- What the agent does outside of itself, and what its bus passes on. -/
structure Effects where
  /-- The cluster events that the bus passes on, in order. -/
  passed : List ClusterEvent
  /-- The writes to the cluster, in order. -/
  writes : List ConfigWrite
  /-- The number of writes that fail. -/
  failures : Nat
  /-- The alerts. -/
  alerts : List Alert

namespace Effects

/-- No effects. -/
def none : Effects := ⟨[], [], 0, []⟩

/-- Alerts alone. -/
def ofAlerts (alerts : List Alert) : Effects :=
  { none with alerts }

/-- Effects one after the other. -/
def append (first second : Effects) : Effects :=
  ⟨first.passed ++ second.passed, first.writes ++ second.writes, first.failures + second.failures,
    first.alerts ++ second.alerts⟩

instance : Append Effects := ⟨append⟩

end Effects

/-- The state of the agent. -/
structure Agent where
  /-- The projections that follow cluster events. -/
  subscribed : List Projection
  /-- How many node agents are asked at a time. -/
  width : Nat
  /-- The stores, the trackers and the bus. -/
  relay : Relay
  /-- Which workloads use which configs. -/
  ownership : OwnershipIndex
  /-- The service topology. -/
  topology : ServiceTopology
  /-- The volumes, claims and pods that mount them. -/
  storage : StorageIndex
  /-- The networks. -/
  network : NetworkIndex
  /-- The threshold monitor. -/
  monitor : Monitor
  /-- The mount point cache. -/
  cache : MountpointCache
  /-- What the agent counts. -/
  metrics : Metrics

namespace Agent

/-- An agent that has seen nothing, with the given projections, width, time that a usage sample is
good, and bus. -/
def start (subscribed : List Projection) (width cacheTtl : Nat) (bus : Bus ClusterEvent) :
    Agent where
  subscribed := subscribed
  width := width
  relay := .start bus
  ownership := .empty
  topology := .empty
  storage := .empty
  network := .empty
  monitor := .stopped
  cache := .empty cacheTtl
  metrics := .zero

/-- The cached objects. -/
def stores (agent : Agent) : Stores :=
  agent.relay.stores

/-- Alerts counted. -/
def countAlerts (agent : Agent) (alerts : List Alert) : Agent :=
  { agent with metrics :=
      alerts.foldl (fun metrics alert => metrics.alertEmitted alert.kind) agent.metrics }

end Agent

end ClusterWatch
