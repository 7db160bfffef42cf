import ClusterWatch.Watch.ClusterEvent

/-!
# Relaying watch events

What every watch event passes through on its way: the store of its kind first, then the tracker of
its kind, and with the cluster events that it releases the bus. Whoever handles a cluster event thus
finds the stores as they are after it.
-/

namespace ClusterWatch

/-- The stores, the trackers and the bus. -/
structure Relay where
  /-- The caches of all kinds. -/
  stores : Stores
  /-- The trackers of the published kinds. -/
  trackers : Trackers
  /-- The bus for cluster events. -/
  bus : Bus ClusterEvent

namespace Relay

/-- A relay that has seen nothing, with the given bus. -/
def start (bus : Bus ClusterEvent) : Relay :=
  ⟨.empty, .empty, bus⟩

/-- A watch event that only reaches the store of its kind. -/
def reflect (relay : Relay) (observation : Observation) : Relay :=
  { relay with stores := relay.stores.observe observation }

/-- A watch event passed on: the relay afterwards, and the cluster events that the bus passes on. -/
def observe (relay : Relay) (observation : Observation) : Relay × List ClusterEvent :=
  let (trackers, events) := relay.trackers.observe observation
  let (bus, passed) := relay.bus.publishAll events
  (⟨relay.stores.observe observation, trackers, bus⟩, passed)

/-- A cluster event put on the bus from elsewhere. -/
def publish (relay : Relay) (event : ClusterEvent) : Relay × List ClusterEvent :=
  let (bus, passed) := relay.bus.publish event
  ({ relay with bus }, passed)

/-- The bus opened. -/
def release (relay : Relay) : Relay × List ClusterEvent :=
  let (bus, passed) := relay.bus.release
  ({ relay with bus }, passed)

end Relay

end ClusterWatch
