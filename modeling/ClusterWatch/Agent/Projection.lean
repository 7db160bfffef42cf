import ClusterWatch.Config.Reconciler
import ClusterWatch.Monitor.Lifecycle
import ClusterWatch.Network
import ClusterWatch.Storage.Projection
import ClusterWatch.Topology.Projection

/-!
# Projections

The parts of the agent that follow cluster events, and the kinds of objects that each
of them follows.
-/

namespace ClusterWatch

/-- A part of the agent that follows cluster events. -/
inductive Projection where
  /-- The reconciler of configs and workloads. -/
  | reconciler
  /-- The service topology. -/
  | topology
  /-- The storage projection. -/
  | storage
  /-- The network projection. -/
  | network
  /-- The threshold monitor. -/
  | monitor
  deriving DecidableEq, Repr

namespace Projection

/-- All projections. -/
def all : List Projection :=
  [.reconciler, .topology, .storage, .network, .monitor]

/-- The name of a projection. -/
def name : Projection → String
  | .reconciler => Reconciler.component
  | .topology => "service-topology"
  | .storage => "storage"
  | .network => "network"
  | .monitor => "threshold-monitor"

/-- Whether a projection follows a kind of objects. -/
def interestedIn : Projection → ResourceKind → Bool
  | .reconciler => Reconciler.interestedIn
  | .topology => ServiceTopology.interestedIn
  | .storage => StorageIndex.interestedIn
  | .network => NetworkIndex.interestedIn
  | .monitor => Monitor.interestedIn

/-- The kinds of objects that a projection follows, in their order. -/
def interests (projection : Projection) : List ResourceKind :=
  ResourceKind.published.filter projection.interestedIn

end Projection

end ClusterWatch
