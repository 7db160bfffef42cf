import ClusterWatch.Proofs.Watch.Replica
import ClusterWatch.Watch.Relay

/-!
# The relay, kind by kind

A relay carries the watch events of all kinds, and no kind takes notice of the others. What it has
of one kind, a store and a tracker, is what the events of that kind have made of an empty store and
an empty tracker.

* `PublishedKind` — the kinds whose changes are published, by the form of their objects; each has
  a store, a tracker, watch events and cluster events of its own.
* `Relay.after` — the relay after a history of watch events of any kinds; `Relay.published` —
  the cluster events that a further one releases, and `Relay.publishing` — the relay while it puts
  them on the bus one after another, as it does when it takes in the event
  (`Relay.observe_eq_publishing`).
* `PublishedKind.store_after`, `PublishedKind.tracker_after` — the store and the tracker of a kind
  after a history.
* `PublishedKind.wrap_mem_published_iff` — the cluster events of a kind are what its
  tracker releases.
-/

namespace ClusterWatch

/-- The store after several events of the watch. -/
def Store.observeAll {α : Type} [ClusterObject α] (store : Store α)
    (events : List (WatchEvent α)) :
    Store α :=
  events.foldl observe store

/-! ### Published kinds -/

/-- A kind whose changes are published, by the form of its objects. -/
inductive PublishedKind : (α : Type) → [ClusterObject α] → Type where
  | namespaces : PublishedKind Namespace
  | nodes : PublishedKind Node
  | pods : PublishedKind Pod
  | services : PublishedKind Service
  | endpoints : PublishedKind Endpoints
  | ingresses : PublishedKind Ingress
  | configMaps : PublishedKind ConfigMap
  | secrets : PublishedKind Secret
  | deployments : PublishedKind WorkloadObject
  | daemonSets : PublishedKind WorkloadObject
  | statefulSets : PublishedKind WorkloadObject
  | persistentVolumes : PublishedKind PersistentVolume
  | persistentVolumeClaims : PublishedKind PersistentVolumeClaim

namespace PublishedKind

variable {α : Type} [ClusterObject α]

/-- The store of a kind. -/
def store : PublishedKind α → Stores → Store α
  | namespaces => Stores.namespaces
  | nodes => Stores.nodes
  | pods => Stores.pods
  | services => Stores.services
  | endpoints => Stores.endpoints
  | ingresses => Stores.ingresses
  | configMaps => Stores.configMaps
  | secrets => Stores.secrets
  | deployments => Stores.deployments
  | daemonSets => Stores.daemonSets
  | statefulSets => Stores.statefulSets
  | persistentVolumes => Stores.persistentVolumes
  | persistentVolumeClaims => Stores.persistentVolumeClaims

/-- The tracker of a kind. -/
def tracker : PublishedKind α → Trackers → Tracker α
  | namespaces => Trackers.namespaces
  | nodes => Trackers.nodes
  | pods => Trackers.pods
  | services => Trackers.services
  | endpoints => Trackers.endpoints
  | ingresses => Trackers.ingresses
  | configMaps => Trackers.configMaps
  | secrets => Trackers.secrets
  | deployments => Trackers.deployments
  | daemonSets => Trackers.daemonSets
  | statefulSets => Trackers.statefulSets
  | persistentVolumes => Trackers.persistentVolumes
  | persistentVolumeClaims => Trackers.persistentVolumeClaims

/-- A delivery of a kind as a cluster event. -/
def wrap : PublishedKind α → Delivery α → ClusterEvent
  | namespaces => .namespaces
  | nodes => .nodes
  | pods => .pods
  | services => .services
  | endpoints => .endpoints
  | ingresses => .ingresses
  | configMaps => .configMaps
  | secrets => .secrets
  | deployments => .deployments
  | daemonSets => .daemonSets
  | statefulSets => .statefulSets
  | persistentVolumes => .persistentVolumes
  | persistentVolumeClaims => .persistentVolumeClaims

/-- The event of the watch on a kind, if it is on this one. -/
def event? : PublishedKind α → Observation → Option (WatchEvent α)
  | namespaces, .namespaces event => some event
  | nodes, .nodes event => some event
  | pods, .pods event => some event
  | services, .services event => some event
  | endpoints, .endpoints event => some event
  | ingresses, .ingresses event => some event
  | configMaps, .configMaps event => some event
  | secrets, .secrets event => some event
  | deployments, .deployments event => some event
  | daemonSets, .daemonSets event => some event
  | statefulSets, .statefulSets event => some event
  | persistentVolumes, .persistentVolumes event => some event
  | persistentVolumeClaims, .persistentVolumeClaims event => some event
  | _, _ => none

variable (kind : PublishedKind α)

/-- The store of a kind takes the events of this kind, and no others. -/
theorem store_observe (stores : Stores) (observation : Observation) :
    kind.store (stores.observe observation) =
      (kind.store stores).observeAll (kind.event? observation).toList := by
  cases kind <;> cases observation <;> rfl

/-- The tracker of a kind takes the events of this kind, and no others. -/
theorem tracker_observe (trackers : Trackers) (observation : Observation) :
    kind.tracker (trackers.observe observation).1 =
      ((kind.tracker trackers).observeAll (kind.event? observation).toList).1 := by
  cases kind <;> cases observation <;> rfl

/-- The cluster events of a kind are the deliveries that its tracker releases. -/
theorem wrap_mem_observe_iff (trackers : Trackers) (observation : Observation)
    (delivery : Delivery α) :
    kind.wrap delivery ∈ (trackers.observe observation).2 ↔
      delivery ∈ ((kind.tracker trackers).observeAll (kind.event? observation).toList).2 := by
  cases kind <;> cases observation <;>
    simp [Trackers.observe, event?, wrap, tracker, Tracker.observeAll]

end PublishedKind

/-! ### Histories -/

namespace Relay

/-- The relay after a history of watch events that begins with nothing seen. -/
def after (bus : Bus ClusterEvent) (history : List Observation) : Relay :=
  history.foldl (fun relay observation => (relay.observe observation).1) (start bus)

/-- The cluster events that a relay puts on the bus for a watch event. -/
def published (relay : Relay) (observation : Observation) : List ClusterEvent :=
  (relay.trackers.observe observation).2

/-- A watch event written to the stores and taken in by the trackers, with nothing put on the
bus for it yet. -/
def written (relay : Relay) (observation : Observation) : Relay :=
  { relay with
    stores := relay.stores.observe observation
    trackers := (relay.trackers.observe observation).1 }

/-- The relay when a watch event is written and some cluster events have been put on the bus one
after another, with all that the bus has passed on by then. -/
def publishing (relay : Relay) (observation : Observation) (events : List ClusterEvent) :
    Relay × List ClusterEvent :=
  events.foldl (fun (relay, passed) event =>
    let (relay, now) := relay.publish event
    (relay, passed ++ now)) (relay.written observation, [])

/-- Putting events on the bus changes nothing but the bus. -/
theorem publishing_eq_publishAll (relay : Relay) (observation : Observation)
    (events : List ClusterEvent) :
    relay.publishing observation events =
      ({ relay.written observation with bus := (relay.bus.publishAll events).1 },
        (relay.bus.publishAll events).2) := by
  induction events using List.reverseRecOn with
  | nil => rfl
  | append_singleton events event ih =>
    rw [publishing] at ih ⊢
    rw [List.foldl_concat, ih, Bus.publishAll, Bus.publishAll, List.foldl_concat]
    rfl

/-- A relay takes in a watch event by writing it, and by putting on the bus what it
releases afterwards. -/
theorem observe_eq_publishing (relay : Relay) (observation : Observation) :
    relay.observe observation = relay.publishing observation (relay.published observation) := by
  rw [publishing_eq_publishAll]
  rfl

/-- While cluster events are put on the bus, the stores are those after the watch event. -/
theorem stores_publishing (relay : Relay) (observation : Observation) (events : List ClusterEvent) :
    (relay.publishing observation events).1.stores = (relay.observe observation).1.stores := by
  rw [publishing_eq_publishAll]
  rfl

theorem after_concat (bus : Bus ClusterEvent) (history : List Observation) (next : Observation) :
    after bus (history ++ [next]) = ((after bus history).observe next).1 :=
  List.foldl_append

end Relay

namespace PublishedKind

variable {α : Type} [ClusterObject α] (kind : PublishedKind α)

/-- The events of the watch on a kind in a history of all kinds. -/
def events (history : List Observation) : List (WatchEvent α) :=
  history.filterMap kind.event?

theorem events_concat (history : List Observation) (next : Observation) :
    kind.events (history ++ [next]) = kind.events history ++ (kind.event? next).toList := by
  rw [events, List.filterMap_append]
  cases hnext : kind.event? next <;> simp [events, hnext]

/-- The store of a kind is what the events of this kind have made of an empty one. -/
theorem store_after (bus : Bus ClusterEvent) (history : List Observation) :
    kind.store (Relay.after bus history).stores = Store.empty.observeAll (kind.events history) := by
  induction history using List.reverseRecOn with
  | nil => cases kind <;> rfl
  | append_singleton history next ih =>
    rw [Relay.after_concat, events_concat, Store.observeAll, List.foldl_append]
    exact (kind.store_observe _ next).trans (congrArg (Store.observeAll · _) ih)

/-- The tracker of a kind is what the events of this kind have made of an empty one. -/
theorem tracker_after (bus : Bus ClusterEvent) (history : List Observation) :
    kind.tracker (Relay.after bus history).trackers =
      (Tracker.empty.observeAll (kind.events history)).1 := by
  induction history using List.reverseRecOn with
  | nil => cases kind <;> rfl
  | append_singleton history next ih =>
    rw [Relay.after_concat, events_concat, Tracker.observeAll_append, ← ih]
    exact kind.tracker_observe _ next

/-- The cluster events of a kind that a relay publishes are what the tracker of this
kind releases. -/
theorem wrap_mem_published_iff (bus : Bus ClusterEvent) (history : List Observation)
    (next : Observation) (delivery : Delivery α) :
    kind.wrap delivery ∈ (Relay.after bus history).published next ↔
      delivery ∈ ((Tracker.empty.observeAll (kind.events history)).1.observeAll
        (kind.event? next).toList).2 := by
  rw [Relay.published, wrap_mem_observe_iff, tracker_after]

end PublishedKind

end ClusterWatch
