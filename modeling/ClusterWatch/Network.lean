import ClusterWatch.Watch.ClusterEvent

/-!
# The network projection

The addresses of the nodes, the address ranges of their pods, and the addresses of the services
within the cluster.
-/

namespace ClusterWatch

/-- The address of a node: its first internal address, or else its first address. -/
def Node.ip? (node : Node) : Option String :=
  ((node.addresses.find? (·.type = "InternalIP")) <|> node.addresses.head?).map (·.address)

/-- The address range of the pods of a node, if it has one. -/
def Node.podRange? (node : Node) : Option String :=
  node.podCidr.filter (· ≠ "")

/-- The address of a service within the cluster, if it has one. -/
def Service.address? (service : Service) : Option String :=
  service.clusterIp.filter fun ip => ip ≠ "" && ip ≠ "None"

/-- The known networks. -/
structure NetworkIndex where
  /-- The addresses of the nodes by name. -/
  nodes : Std.ExtTreeMap String String
  /-- The address ranges of the pods by node. -/
  pods : Std.ExtTreeMap String String
  /-- The addresses of the services by namespace and name. -/
  services : Std.ExtTreeMap NsName String
  deriving DecidableEq

namespace NetworkIndex

/-- An index without networks. -/
def empty : NetworkIndex := ⟨∅, ∅, ∅⟩

/-- Whether the projection follows a kind of objects. -/
def interestedIn : ResourceKind → Bool
  | .nodes | .services => true
  | _ => false

/-- The map with the entry of a key replaced, or dropped where there is nothing to put there. -/
def putOrDrop {κ : Type} [Ord κ] [Std.TransOrd κ] (map : Std.ExtTreeMap κ String) (key : κ)
    (value : Option String) : Std.ExtTreeMap κ String :=
  match value with
  | some value => map.insert key value
  | none => map.erase key

/-- Handle a delivery of a node. -/
def onNode (index : NetworkIndex) (delivery : Delivery Node) : NetworkIndex :=
  let name := ClusterObject.name delivery.object
  { index with
    nodes := putOrDrop index.nodes name (delivery.current?.map fun node => node.ip?.getD "")
    pods := putOrDrop index.pods name (delivery.current?.bind Node.podRange?) }

/-- Handle a delivery of a service. -/
def onService (index : NetworkIndex) (delivery : Delivery Service) : NetworkIndex :=
  { index with
    services :=
      putOrDrop index.services (ClusterObject.nsName delivery.object)
        (delivery.current?.bind Service.address?) }

/-- Handle a cluster event. -/
def handle (index : NetworkIndex) : ClusterEvent → NetworkIndex
  | .nodes delivery => index.onNode delivery
  | .services delivery => index.onService delivery
  | _ => index

end NetworkIndex

end ClusterWatch
