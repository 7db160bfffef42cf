import ClusterWatch.ApiServer.Request
import ClusterWatch.Cluster.Schema
import ClusterWatch.Monitor.Usage

/-!
# Usage reports

The requests for the usage of nodes and pods, and what the items of the replies say.
-/

namespace ClusterWatch

namespace UsageReport

/-- The request for the usage of the nodes. -/
def nodesRequest : ApiRequest :=
  .list (ApiRequest.metricsRoot ++ "/nodes")

/-- The request for the usage of the pods. -/
def podsRequest : ApiRequest :=
  .list (ApiRequest.metricsRoot ++ "/pods")

/-- An item of a report. -/
def item : Schema :=
  .record [("metadata", .optional, .metadata)]

/-- The items of a report. One malformed item makes the whole report useless. -/
def items? (report : Json) : Option (List Json) :=
  match report with
  | .null => some []
  | _ => report.items?.filter fun items => items.all item.accepts

/-- The usage that an item reports of a node, zero if it reports none. -/
def nodeUsage (item : Json) : Usage :=
  ((item.member? "usage").map Usage.ofJson).getD .zero

/-- The usage of the nodes by name; of items with one name the last counts. -/
def nodes (items : List Json) : Std.ExtTreeMap String Usage :=
  items.foldl
    (fun usages item => usages.insert (Metadata.ofObject item).nameAny (nodeUsage item)) ∅

/-- The usage that an item reports of a pod. -/
def pod (item : Json) : PodUsage :=
  let metadata := Metadata.ofObject item
  ⟨metadata.nsText, metadata.nameAny, Usage.ofPodJson item⟩

/-- The usage of the pods, in the order of the items. -/
def pods (items : List Json) : List PodUsage :=
  items.map pod

end UsageReport

end ClusterWatch
