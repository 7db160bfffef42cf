import ClusterWatch.RequestTarget
import ClusterWatch.Text.Percent

/-!
# Routes

What can be read of the agent over HTTP, and under which paths. A path is matched as it stands,
segment by segment; only the segment that names a namespace is percent-decoded, and that when the
request is answered.
-/

namespace ClusterWatch

/-- What can be read of one namespace. -/
inductive NamespaceResource where
  /-- The services that are reachable only from within. -/
  | innerServices
  /-- The rules by which services are reached from outside. -/
  | outerServices
  /-- The statistics of the mesh. -/
  | meshStats
  /-- The connections in the mesh. -/
  | edges
  deriving DecidableEq, Repr

/-- What can be read. -/
inductive Route where
  /-- That the agent is alive. -/
  | health
  /-- What the agent counts. -/
  | metrics
  /-- The volumes by storage class. -/
  | storageClasses
  /-- The disks of the nodes. -/
  | blockDevices
  /-- The addresses of the nodes. -/
  | nodeNetworks
  /-- The address ranges of the pods. -/
  | podNetworks
  /-- The addresses of the services. -/
  | serviceNetworks
  /-- What can be read of a namespace, whose name stands percent-encoded. -/
  | within (resource : NamespaceResource) (encodedNs : String)
  deriving DecidableEq, Repr

/-- The segments between the slashes of a text; always at least one. -/
def splitSegments : List Char → List (List Char)
  | [] => [[]]
  | c :: rest =>
    if c = '/' then [] :: splitSegments rest
    else
      match splitSegments rest with
      | segment :: segments => (c :: segment) :: segments
      | [] => [[c]]

namespace Route

/-- The resource of that name in paths. -/
def namespaceResource? : String → Option NamespaceResource
  | "innerservices" => some .innerServices
  | "outerservices" => some .outerServices
  | "meshstats" => some .meshStats
  | "edges" => some .edges
  | _ => none

/-- The route that the segments of a path lead to. -/
def ofSegments? : List String → Option Route
  | ["", "healthz"] => some .health
  | ["", "metrics"] => some .metrics
  | ["", "v1", "storageclasses"] => some .storageClasses
  | ["", "v1", "blockdevices"] => some .blockDevices
  | ["", "v1", "networks", "nodes"] => some .nodeNetworks
  | ["", "v1", "networks", "pods"] => some .podNetworks
  | ["", "v1", "networks", "services"] => some .serviceNetworks
  | ["", "v1", "namespaces", ns, name] =>
    (namespaceResource? name).map fun resource => .within resource ns
  | _ => none

/-- The route that a path leads to. -/
def ofPath? (path : String) : Option Route :=
  ofSegments? ((splitSegments path.toList).map String.ofList)

/-- The route that a request target leads to. -/
def ofTarget? (target : String) : Option Route :=
  (RequestTarget.path? target).bind ofPath?

end Route

end ClusterWatch
