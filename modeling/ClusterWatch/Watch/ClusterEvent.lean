import ClusterWatch.Cluster.Stores
import ClusterWatch.Watch.Bus
import ClusterWatch.Watch.Tracker

/-!
# Cluster events

A cluster event is a delivery of one of the published kinds. The trackers of all kinds together turn
a watch event into the cluster events that it means. Relaying a watch event writes it to the stores
first, so that whoever handles the events already finds the object there.
-/

namespace ClusterWatch

/-- A delivery of one of the published kinds. -/
inductive ClusterEvent where
  /-- Of a namespace. -/
  | namespaces (delivery : Delivery Namespace)
  /-- Of a node. -/
  | nodes (delivery : Delivery Node)
  /-- Of a pod. -/
  | pods (delivery : Delivery Pod)
  /-- Of a service. -/
  | services (delivery : Delivery Service)
  /-- Of endpoints. -/
  | endpoints (delivery : Delivery Endpoints)
  /-- Of an ingress. -/
  | ingresses (delivery : Delivery Ingress)
  /-- Of a config map. -/
  | configMaps (delivery : Delivery ConfigMap)
  /-- Of a secret. -/
  | secrets (delivery : Delivery Secret)
  /-- Of a deployment. -/
  | deployments (delivery : Delivery WorkloadObject)
  /-- Of a daemon set. -/
  | daemonSets (delivery : Delivery WorkloadObject)
  /-- Of a stateful set. -/
  | statefulSets (delivery : Delivery WorkloadObject)
  /-- Of a persistent volume. -/
  | persistentVolumes (delivery : Delivery PersistentVolume)
  /-- Of a claim to a persistent volume. -/
  | persistentVolumeClaims (delivery : Delivery PersistentVolumeClaim)

namespace ClusterEvent

/-- The kind of the object that an event is about. -/
def kind : ClusterEvent → ResourceKind
  | .namespaces _ => .namespaces
  | .nodes _ => .nodes
  | .pods _ => .pods
  | .services _ => .services
  | .endpoints _ => .endpoints
  | .ingresses _ => .ingresses
  | .configMaps _ => .configMaps
  | .secrets _ => .secrets
  | .deployments _ => .deployments
  | .daemonSets _ => .daemonSets
  | .statefulSets _ => .statefulSets
  | .persistentVolumes _ => .persistentVolumes
  | .persistentVolumeClaims _ => .persistentVolumeClaims

/-- The delivery of an event, with only the metadata of the objects. -/
def metadata (event : ClusterEvent) : Delivery Metadata :=
  let metadataOf {α : Type} [ClusterObject α] (delivery : Delivery α) : Delivery Metadata :=
    delivery.map ClusterObject.metadata
  match event with
  | .namespaces delivery => metadataOf delivery
  | .nodes delivery => metadataOf delivery
  | .pods delivery => metadataOf delivery
  | .services delivery => metadataOf delivery
  | .endpoints delivery => metadataOf delivery
  | .ingresses delivery => metadataOf delivery
  | .configMaps delivery => metadataOf delivery
  | .secrets delivery => metadataOf delivery
  | .deployments delivery => metadataOf delivery
  | .daemonSets delivery => metadataOf delivery
  | .statefulSets delivery => metadataOf delivery
  | .persistentVolumes delivery => metadataOf delivery
  | .persistentVolumeClaims delivery => metadataOf delivery

end ClusterEvent

/-- The trackers of the published kinds. -/
structure Trackers where
  /-- Of namespaces. -/
  namespaces : Tracker Namespace
  /-- Of nodes. -/
  nodes : Tracker Node
  /-- Of pods. -/
  pods : Tracker Pod
  /-- Of services. -/
  services : Tracker Service
  /-- Of endpoints. -/
  endpoints : Tracker Endpoints
  /-- Of ingresses. -/
  ingresses : Tracker Ingress
  /-- Of config maps. -/
  configMaps : Tracker ConfigMap
  /-- Of secrets. -/
  secrets : Tracker Secret
  /-- Of deployments. -/
  deployments : Tracker WorkloadObject
  /-- Of daemon sets. -/
  daemonSets : Tracker WorkloadObject
  /-- Of stateful sets. -/
  statefulSets : Tracker WorkloadObject
  /-- Of persistent volumes. -/
  persistentVolumes : Tracker PersistentVolume
  /-- Of claims to persistent volumes. -/
  persistentVolumeClaims : Tracker PersistentVolumeClaim

namespace Trackers

/-- Trackers that know nothing. -/
def empty : Trackers :=
  ⟨.empty, .empty, .empty, .empty, .empty, .empty, .empty, .empty, .empty, .empty, .empty,
    .empty, .empty⟩

/-- The trackers after a watch event, and the cluster events that it releases. Kinds that are only
cached release none. -/
def observe (trackers : Trackers) : Observation → Trackers × List ClusterEvent
  | .namespaces event =>
    let (tracker, deliveries) := trackers.namespaces.observe event
    ({ trackers with namespaces := tracker }, deliveries.map .namespaces)
  | .nodes event =>
    let (tracker, deliveries) := trackers.nodes.observe event
    ({ trackers with nodes := tracker }, deliveries.map .nodes)
  | .pods event =>
    let (tracker, deliveries) := trackers.pods.observe event
    ({ trackers with pods := tracker }, deliveries.map .pods)
  | .services event =>
    let (tracker, deliveries) := trackers.services.observe event
    ({ trackers with services := tracker }, deliveries.map .services)
  | .endpoints event =>
    let (tracker, deliveries) := trackers.endpoints.observe event
    ({ trackers with endpoints := tracker }, deliveries.map .endpoints)
  | .ingresses event =>
    let (tracker, deliveries) := trackers.ingresses.observe event
    ({ trackers with ingresses := tracker }, deliveries.map .ingresses)
  | .configMaps event =>
    let (tracker, deliveries) := trackers.configMaps.observe event
    ({ trackers with configMaps := tracker }, deliveries.map .configMaps)
  | .secrets event =>
    let (tracker, deliveries) := trackers.secrets.observe event
    ({ trackers with secrets := tracker }, deliveries.map .secrets)
  | .deployments event =>
    let (tracker, deliveries) := trackers.deployments.observe event
    ({ trackers with deployments := tracker }, deliveries.map .deployments)
  | .daemonSets event =>
    let (tracker, deliveries) := trackers.daemonSets.observe event
    ({ trackers with daemonSets := tracker }, deliveries.map .daemonSets)
  | .statefulSets event =>
    let (tracker, deliveries) := trackers.statefulSets.observe event
    ({ trackers with statefulSets := tracker }, deliveries.map .statefulSets)
  | .persistentVolumes event =>
    let (tracker, deliveries) := trackers.persistentVolumes.observe event
    ({ trackers with persistentVolumes := tracker }, deliveries.map .persistentVolumes)
  | .persistentVolumeClaims event =>
    let (tracker, deliveries) := trackers.persistentVolumeClaims.observe event
    ({ trackers with persistentVolumeClaims := tracker }, deliveries.map .persistentVolumeClaims)
  | .replicaSets _ => (trackers, [])
  | .resourceQuotas _ => (trackers, [])

end Trackers

end ClusterWatch
