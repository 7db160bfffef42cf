import ClusterWatch.Cluster.Stores
import ClusterWatch.Json.Fields
import ClusterWatch.Text.Base64
import ClusterWatch.Watch.ClusterEvent

/-!
# Manifests

The JSON form in which the API server describes objects. Of each kind the fields that the agent
reads are taken. A field that is missing or `null` is absent or empty, and other fields are ignored.
-/

namespace ClusterWatch

namespace Metadata

/-- A reference to an owner. -/
def ownerOfJson (json : Json) : OwnerReference where
  kind := json.textAt "kind"
  name := json.textAt "name"
  controller := (json.member "controller").bool?.getD false

/-- The metadata that an object is given under `metadata`. -/
def ofJson (json : Json) : Metadata where
  name := (json.member "name").text?
  generateName := (json.member "generateName").text?
  ns := (json.member "namespace").text?
  labels := (json.member "labels").textMap
  annotations := (json.member "annotations").present?.map Json.textMap
  resourceVersion := (json.member "resourceVersion").text?
  deleting := (json.member "deletionTimestamp").present?.isSome
  finalizers := (json.member "finalizers").texts
  owners := (json.itemsAt "ownerReferences").map ownerOfJson

/-- The metadata of an object. -/
def ofObject (json : Json) : Metadata :=
  ofJson (json.member "metadata")

end Metadata

/-- A namespace. -/
def Namespace.ofJson (json : Json) : Namespace :=
  ⟨.ofObject json⟩

/-- An address of a node. -/
def NodeAddress.ofJson (json : Json) : NodeAddress where
  type := json.textAt "type"
  address := json.textAt "address"

/-- A node. -/
def Node.ofJson (json : Json) : Node where
  metadata := .ofObject json
  podCidr := (json.memberAt ["spec", "podCIDR"]).text?
  addresses := (json.memberAt ["status", "addresses"]).itemsOrNone.map NodeAddress.ofJson
  allocatable := (json.memberAt ["status", "allocatable"]).textMap

/-- A pod. -/
def Pod.ofJson (json : Json) : Pod where
  metadata := .ofObject json
  nodeName := (json.memberAt ["spec", "nodeName"]).text?
  claimNames := (json.memberAt ["spec", "volumes"]).itemsOrNone.filterMap fun volume =>
    (volume.memberAt ["persistentVolumeClaim", "claimName"]).text?
  phase := (json.memberAt ["status", "phase"]).text?

/-- A service. -/
def Service.ofJson (json : Json) : Service where
  metadata := .ofObject json
  selector := (json.memberAt ["spec", "selector"]).textMap
  clusterIp := (json.memberAt ["spec", "clusterIP"]).text?

/-- The target of an endpoint address, if it has one. -/
def TargetRef.ofAddress? (address : Json) : Option TargetRef :=
  (address.member "targetRef").present?.map fun target =>
    ⟨(target.member "kind").text?, (target.member "name").text?⟩

/-- A group of endpoint addresses. -/
def EndpointSubset.ofJson (json : Json) : EndpointSubset where
  ready := (json.itemsAt "addresses").filterMap TargetRef.ofAddress?
  notReady := (json.itemsAt "notReadyAddresses").filterMap TargetRef.ofAddress?

/-- The endpoints of a service. -/
def Endpoints.ofJson (json : Json) : Endpoints where
  metadata := .ofObject json
  subsets := (json.itemsAt "subsets").map EndpointSubset.ofJson

/-- The port of an ingress backend. -/
def BackendPort.ofJson (json : Json) : BackendPort where
  number := (json.member "number").int32?
  name := (json.member "name").text?

/-- The service of an ingress backend. -/
def ServiceBackend.ofJson (json : Json) : ServiceBackend where
  name := json.textAt "name"
  port := (json.member "port").present?.map BackendPort.ofJson

/-- A path of an ingress. -/
def HttpPath.ofJson (json : Json) : HttpPath where
  path := (json.member "path").text?
  service := (json.memberAt ["backend", "service"]).present?.map ServiceBackend.ofJson

/-- A host of an ingress. -/
def HttpHost.ofJson (json : Json) : HttpHost where
  host := (json.member "host").text?
  paths := (json.memberAt ["http", "paths"]).itemsOrNone.map HttpPath.ofJson

/-- An ingress. -/
def Ingress.ofJson (json : Json) : Ingress where
  metadata := .ofObject json
  hosts := (json.memberAt ["spec", "rules"]).itemsOrNone.map HttpHost.ofJson

/-- A config map. -/
def ConfigMap.ofJson (json : Json) : ConfigMap where
  metadata := .ofObject json
  data := (json.member "data").textMap

/-- A byte string: a text in base64, or `null` for no bytes. -/
def Secret.bytesOfJson? : Json → Option Bytes
  | .str text => Base64.decode? text
  | .null => some []
  | _ => none

/-- The data of a secret by name. -/
def Secret.dataOfJson (json : Json) : Std.ExtTreeMap String Bytes :=
  json.membersOrNone.foldl (fun map (name, value) =>
    match bytesOfJson? value with
    | some bytes => map.insert name bytes
    | none => map) ∅

/-- A secret. -/
def Secret.ofJson (json : Json) : Secret where
  metadata := .ofObject json
  data := dataOfJson (json.member "data")

/-- The name in a reference, empty if the reference has none. -/
def refName? (reference : Json) : Option String :=
  reference.present?.map fun reference => reference.textAt "name"

/-- A container of a template. -/
def Container.ofJson (json : Json) : Container where
  portNames := (json.itemsAt "ports").filterMap fun port => (port.member "name").text?
  envFrom := (json.itemsAt "envFrom").map fun source =>
    ⟨refName? (source.member "configMapRef"), refName? (source.member "secretRef")⟩
  env := (json.itemsAt "env").map fun entry =>
    ⟨refName? (entry.memberAt ["valueFrom", "configMapKeyRef"]),
      refName? (entry.memberAt ["valueFrom", "secretKeyRef"])⟩

/-- A volume of a template. -/
def TemplateVolume.ofJson (json : Json) : TemplateVolume where
  configMap := refName? (json.member "configMap")
  secret := (json.memberAt ["secret", "secretName"]).text?

/-- A pod template. -/
def PodTemplate.ofJson (json : Json) : PodTemplate where
  annotations := (json.memberAt ["metadata", "annotations"]).present?.map Json.textMap
  containers := (json.memberAt ["spec", "containers"]).itemsOrNone.map Container.ofJson
  initContainers := (json.memberAt ["spec", "initContainers"]).itemsOrNone.map Container.ofJson
  volumes := (json.memberAt ["spec", "volumes"]).itemsOrNone.map TemplateVolume.ofJson

/-- A workload of any kind. It has a template if it is specified at all. -/
def WorkloadObject.ofJson (json : Json) : WorkloadObject where
  metadata := .ofObject json
  template := (json.member "spec").present?.map fun spec => .ofJson (spec.member "template")

/-- A replica set. -/
def ReplicaSet.ofJson (json : Json) : ReplicaSet :=
  ⟨.ofObject json⟩

/-- A condition on the labels of a node. -/
def MatchExpression.ofJson (json : Json) : MatchExpression where
  key := json.textAt "key"
  operator := json.textAt "operator"
  values := (json.member "values").texts

/-- A reference from a volume to a claim. -/
def ClaimRef.ofJson (json : Json) : ClaimRef where
  ns := (json.member "namespace").text?
  name := (json.member "name").text?

/-- A persistent volume. -/
def PersistentVolume.ofJson (json : Json) : PersistentVolume where
  metadata := .ofObject json
  capacity := (json.memberAt ["spec", "capacity"]).textMap
  storageClass := (json.memberAt ["spec", "storageClassName"]).text?
  claimRef := (json.memberAt ["spec", "claimRef"]).present?.map ClaimRef.ofJson
  nodeTerms :=
    (json.memberAt ["spec", "nodeAffinity", "required", "nodeSelectorTerms"]).itemsOrNone.map
    fun term => (term.itemsAt "matchExpressions").map MatchExpression.ofJson

/-- A claim to a persistent volume. -/
def PersistentVolumeClaim.ofJson (json : Json) : PersistentVolumeClaim where
  metadata := .ofObject json
  volumeName := (json.memberAt ["spec", "volumeName"]).text?

/-- A resource quota. -/
def ResourceQuota.ofJson (json : Json) : ResourceQuota where
  metadata := .ofObject json
  hard := (json.memberAt ["spec", "hard"]).textMap

/-- An event of the watch on a kind, from the manifests of its objects. -/
def Observation.ofJson (kind : ResourceKind) (event : WatchEvent Json) : Observation :=
  match kind with
  | .namespaces => .namespaces (event.map Namespace.ofJson)
  | .nodes => .nodes (event.map Node.ofJson)
  | .pods => .pods (event.map Pod.ofJson)
  | .services => .services (event.map Service.ofJson)
  | .endpoints => .endpoints (event.map Endpoints.ofJson)
  | .ingresses => .ingresses (event.map Ingress.ofJson)
  | .configMaps => .configMaps (event.map ConfigMap.ofJson)
  | .secrets => .secrets (event.map Secret.ofJson)
  | .deployments => .deployments (event.map WorkloadObject.ofJson)
  | .daemonSets => .daemonSets (event.map WorkloadObject.ofJson)
  | .statefulSets => .statefulSets (event.map WorkloadObject.ofJson)
  | .persistentVolumes => .persistentVolumes (event.map PersistentVolume.ofJson)
  | .persistentVolumeClaims => .persistentVolumeClaims (event.map PersistentVolumeClaim.ofJson)
  | .replicaSets => .replicaSets (event.map ReplicaSet.ofJson)
  | .resourceQuotas => .resourceQuotas (event.map ResourceQuota.ofJson)

/-- A cluster event, from the manifests of its objects; none for a kind whose changes are
not published. -/
def ClusterEvent.ofJson? (kind : ResourceKind) (delivery : Delivery Json) : Option ClusterEvent :=
  match kind with
  | .namespaces => some (.namespaces (delivery.map Namespace.ofJson))
  | .nodes => some (.nodes (delivery.map Node.ofJson))
  | .pods => some (.pods (delivery.map Pod.ofJson))
  | .services => some (.services (delivery.map Service.ofJson))
  | .endpoints => some (.endpoints (delivery.map Endpoints.ofJson))
  | .ingresses => some (.ingresses (delivery.map Ingress.ofJson))
  | .configMaps => some (.configMaps (delivery.map ConfigMap.ofJson))
  | .secrets => some (.secrets (delivery.map Secret.ofJson))
  | .deployments => some (.deployments (delivery.map WorkloadObject.ofJson))
  | .daemonSets => some (.daemonSets (delivery.map WorkloadObject.ofJson))
  | .statefulSets => some (.statefulSets (delivery.map WorkloadObject.ofJson))
  | .persistentVolumes => some (.persistentVolumes (delivery.map PersistentVolume.ofJson))
  | .persistentVolumeClaims =>
    some (.persistentVolumeClaims (delivery.map PersistentVolumeClaim.ofJson))
  | .replicaSets | .resourceQuotas => none

/-- A config of a kind. -/
def Config.ofJson (kind : ConfigKind) (json : Json) : Config :=
  match kind with
  | .configMap => .configMap (.ofJson json)
  | .secret => .secret (.ofJson json)

/-- A workload of a kind. -/
def Workload.ofJson (kind : WorkloadKind) (json : Json) : Workload :=
  ⟨kind, .ofJson json⟩

end ClusterWatch
