import ClusterWatch.Topology.Transport
import ClusterWatch.Topology.View
import ClusterWatch.Watch.ClusterEvent

/-!
# The service topology

Which services of a namespace are reachable only from within and which also from outside, by
what ingress. With every service its view is kept, and the set of the names of the ingresses
that have a path to it.
-/

namespace ClusterWatch

/-- A known service. -/
structure ServiceEntry where
  /-- What is shown of the service. -/
  view : ServiceView
  /-- The names of the ingresses that have a path to the service. -/
  ingresses : Std.ExtTreeSet String
  deriving DecidableEq

/-- The services and the ingresses of a namespace. -/
structure NamespaceTopology where
  /-- The known services by name. -/
  services : Std.ExtTreeMap String ServiceEntry
  /-- The ingress records by name. -/
  ingresses : Std.ExtTreeMap String IngressRecord
  deriving DecidableEq

namespace NamespaceTopology

/-- A namespace without services and ingresses. -/
def empty : NamespaceTopology := ⟨∅, ∅⟩

/-- The names of the ingresses that have a path to a service. -/
def ingressesTargeting (topology : NamespaceTopology) (service : String) : Std.ExtTreeSet String :=
  .ofList ((topology.ingresses.toList.filter fun (_, record) => record.targets service).map
    fun (_, record) => record.name)

/-- The set of ingresses of every service determined anew. -/
def refreshIngressSets (topology : NamespaceTopology) : NamespaceTopology :=
  { topology with services := topology.services.map fun name entry =>
      { entry with ingresses := topology.ingressesTargeting name } }

/-- The rules of one protocol under an ingress name replaced; a record without rules is dropped. -/
def replaceRules (topology : NamespaceTopology) (name : String) (protocol : Protocol)
    (rules : List IngressRule) : NamespaceTopology :=
  let before := (topology.ingresses[name]?.map IngressRecord.rules).getD []
  let rules := before.filter (·.protocol ≠ protocol) ++ rules
  { topology with ingresses :=
      if rules.isEmpty then topology.ingresses.erase name
      else topology.ingresses.insert name ⟨name, rules⟩ }

/-- A service inserted with its view, and with the ingresses that have a path to it. -/
def insertService (topology : NamespaceTopology) (view : ServiceView) : NamespaceTopology :=
  { topology with services :=
      topology.services.insert view.name ⟨view, topology.ingressesTargeting view.name⟩ }

/-- A service removed. -/
def removeService (topology : NamespaceTopology) (name : String) : NamespaceTopology :=
  { topology with services := topology.services.erase name }

/-- The view of every service changed. -/
def mapViews (topology : NamespaceTopology) (f : ServiceView → ServiceView) : NamespaceTopology :=
  { topology with services :=
      topology.services.map fun _ entry => { entry with view := f entry.view } }

/-- The names of the records that hold rules of a protocol and are not among the given ones. -/
def staleNames (topology : NamespaceTopology) (protocol : Protocol)
    (current : Std.ExtTreeMap String IngressRecord) : List String :=
  (topology.ingresses.toList.filter fun (_, record) =>
    record.rules.any (·.protocol = protocol) && !current.contains record.name).map fun (_,
    record) => record.name

/-- All rules of a transport protocol replaced by those of the given records. -/
def replaceTransport (topology : NamespaceTopology) (protocol : Protocol)
    (records : Std.ExtTreeMap String IngressRecord) : NamespaceTopology :=
  let cleared := (topology.staleNames protocol records).foldl
    (fun topology name => topology.replaceRules name protocol []) topology
  let replaced := records.toList.foldl
    (fun topology (name, record) => topology.replaceRules name protocol record.rules) cleared
  replaced.refreshIngressSets

/-- The views of the services to which no ingress has a path, by name. -/
def innerServices (topology : NamespaceTopology) : List ServiceView :=
  (topology.services.toList.filter fun (_, entry) => entry.ingresses.isEmpty).map
    fun (_, entry) => entry.view

/-- The names of the ingresses that have a path to a known service. -/
def reachingIngresses (topology : NamespaceTopology) : Std.ExtTreeSet String :=
  .ofList (topology.services.toList.flatMap fun (_, entry) => entry.ingresses.toList)

/-- The known services that the paths of a rule lead to, by path; of equal paths the
last one counts. -/
def servicesOf (topology : NamespaceTopology) (rule : IngressRule) :
    Std.ExtTreeMap String ServiceView :=
  rule.paths.foldl (fun services path =>
    match topology.services[path.serviceName]? with
    | some entry => services.insert path.path entry.view
    | none => services) ∅

/-- What is shown of the rules of a record. -/
def outerViews (topology : NamespaceTopology) (record : IngressRecord) : List OuterServiceView :=
  record.rules.map fun rule =>
    ⟨record.name, rule.entryPoint, rule.protocol, topology.servicesOf rule⟩

/-- The rules of the ingresses that have a path to a known service, by ingress name. -/
def outerServices (topology : NamespaceTopology) : List OuterServiceView :=
  (topology.reachingIngresses.toList.filterMap (topology.ingresses[·]?)).flatMap
    topology.outerViews

end NamespaceTopology

/-- The topology of all namespaces. -/
structure ServiceTopology where
  /-- The topology of each namespace that has one. -/
  namespaces : Std.ExtTreeMap String NamespaceTopology
  deriving DecidableEq

namespace ServiceTopology

/-- A topology without namespaces. -/
def empty : ServiceTopology := ⟨∅⟩

/-- The topology of a namespace. -/
def within (topology : ServiceTopology) (ns : String) : NamespaceTopology :=
  topology.namespaces[ns]?.getD .empty

/-- The topology of one namespace changed. -/
def modify (topology : ServiceTopology) (ns : String)
    (f : NamespaceTopology → NamespaceTopology) :
    ServiceTopology :=
  ⟨topology.namespaces.insert ns (f (topology.within ns))⟩

/-- Whether the topology follows a kind of objects. -/
def interestedIn : ResourceKind → Bool
  | .services | .endpoints | .pods | .ingresses | .configMaps => true
  | _ => false

/-- A service assembled from the cache and inserted. -/
def insertService (topology : ServiceTopology) (stores : Stores) (service : Service) :
    ServiceTopology :=
  let view := ServiceView.assemble stores service
  topology.modify view.ns (·.insertService view)

/-- Handle a delivery of a service. -/
def onService (topology : ServiceTopology) (stores : Stores) (delivery : Delivery Service) :
    ServiceTopology :=
  match delivery.current? with
  | some service => topology.insertService stores service
  | none =>
    topology.modify (ClusterObject.ns delivery.object)
      (·.removeService (ClusterObject.name delivery.object))

/-- Whether endpoints lead to a pod that a view does not show. -/
def hasNewPod (endpoints : Endpoints) (view : ServiceView) : Bool :=
  endpoints.podNames.toList.any fun name => !view.podNames.contains name

/-- Handle a delivery of endpoints: a known service whose endpoints lead to a pod that it does not
show is assembled anew. -/
def onEndpoints (topology : ServiceTopology) (stores : Stores) (delivery : Delivery Endpoints) :
    ServiceTopology :=
  match delivery.current? with
  | none => topology
  | some endpoints =>
    let ns := ClusterObject.ns endpoints
    let name := ClusterObject.name endpoints
    match (topology.within ns).services[name]? with
    | none => topology
    | some entry =>
      if hasNewPod endpoints entry.view then
        match stores.services.get? ns name with
        | some service => topology.insertService stores service
        | none => topology
      else topology

/-- Handle a delivery of a pod: a new state is shown wherever the pod is, and a pod that is gone is
removed. A new pod is left to the endpoints. -/
def onPod (topology : ServiceTopology) : Delivery Pod → ServiceTopology
  | .created _ => topology
  | .updated old new =>
    if old.state = new.state then topology
    else
      topology.modify (ClusterObject.ns new)
        (·.mapViews (·.setPodState (ClusterObject.name new) new.state))
  | .deleted pod =>
    topology.modify (ClusterObject.ns pod) (·.mapViews (·.removePod (ClusterObject.name pod)))

/-- Handle a delivery of an ingress: its rules replace those for HTTP under its name. -/
def onIngress (topology : ServiceTopology) (delivery : Delivery Ingress) : ServiceTopology :=
  let rules := (delivery.current?.map Ingress.httpRules).getD []
  topology.modify (ClusterObject.ns delivery.object) fun inner =>
    (inner.replaceRules (ClusterObject.name delivery.object) .http rules).refreshIngressSets

/-- Replace all rules of a transport protocol, in all namespaces, by those of the given entries. -/
def replaceTransport (topology : ServiceTopology) (protocol : Protocol)
    (entries : List TransportEntry) :
    ServiceTopology :=
  let records := TransportEntry.toIngresses (entries.filter (·.protocol = protocol))
  let present :=
    records.toList.foldl
      (fun (topology : ServiceTopology) (ns, _) => topology.modify ns id) topology
  ⟨present.namespaces.map fun ns inner =>
    inner.replaceTransport protocol (records[ns]?.getD ∅)⟩

/-- Handle a delivery of a config map: that of a transport protocol in the reserved namespace
replaces all rules of the protocol. -/
def onConfigMap (topology : ServiceTopology) (delivery : Delivery ConfigMap) : ServiceTopology :=
  let config := delivery.object
  if config.metadata.ns = some reservedNamespace then
    match Protocol.ofConfigName? (ClusterObject.name config) with
    | some protocol =>
      let entries :=
        (delivery.current?.map fun config => TransportEntry.parseAll protocol config.data).getD []
      topology.replaceTransport protocol entries
    | none => topology
  else topology

/-- Handle a cluster event. -/
def handle (topology : ServiceTopology) (stores : Stores) : ClusterEvent → ServiceTopology
  | .services delivery => topology.onService stores delivery
  | .endpoints delivery => topology.onEndpoints stores delivery
  | .pods delivery => topology.onPod delivery
  | .ingresses delivery => topology.onIngress delivery
  | .configMaps delivery => topology.onConfigMap delivery
  | _ => topology

/-- The services of a namespace to which no ingress has a path. -/
def innerServices (topology : ServiceTopology) (ns : String) : List ServiceView :=
  (topology.within ns).innerServices

/-- The rules by which traffic reaches the services of a namespace from outside. -/
def outerServices (topology : ServiceTopology) (ns : String) : List OuterServiceView :=
  (topology.within ns).outerServices

end ServiceTopology

end ClusterWatch
