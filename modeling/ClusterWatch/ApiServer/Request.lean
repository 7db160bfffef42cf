import ClusterWatch.Json.Basic

/-!
# Requests to the API server

What the agent asks the API server for: listings, patches of single objects, and the
creation of events.
-/

namespace ClusterWatch

/-- A request to the API server. -/
structure ApiRequest where
  /-- The HTTP method. -/
  method : String
  /-- The path. -/
  path : String
  /-- The media type of the body. -/
  contentType : Option String
  /-- The body. -/
  body : Option Json
  deriving BEq, Repr

namespace ApiRequest

/-- The path of a collection within a namespace; `root` is that of its API group. -/
def collectionPath (root ns plural : String) : String :=
  root ++ "/namespaces/" ++ ns ++ "/" ++ plural

/-- The root of the core group. -/
def coreRoot : String := "/api/v1"

/-- The root of the group that workloads belong to. -/
def workloadRoot : String := "/apis/apps/v1"

/-- The root of the group that usage reports belong to. -/
def metricsRoot : String := "/apis/metrics.k8s.io/v1beta1"

/-- Read a collection. -/
def list (path : String) : ApiRequest :=
  ⟨"GET", path, none, none⟩

/-- Change an object: members of the body replace those of the object, and arrays are
replaced as a whole. -/
def mergePatch (path : String) (body : Json) : ApiRequest :=
  ⟨"PATCH", path, some "application/merge-patch+json", some body⟩

/-- Create an object in a collection. -/
def create (path : String) (body : Json) : ApiRequest :=
  ⟨"POST", path, some "application/json", some body⟩

end ApiRequest

end ClusterWatch
