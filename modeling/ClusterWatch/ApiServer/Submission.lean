import ClusterWatch.ApiServer.Request
import ClusterWatch.Cluster.Schema
import ClusterWatch.RequestTarget

/-!
# Submissions

What becomes of something that is to be written to the cluster: there is nothing to do, it cannot be
written, or a request is sent. Names go into the address as they are, so one that no address can
hold makes the write impossible, and what follows a question mark or a hash sign in a name does not
reach the API server.
-/

namespace ClusterWatch

/-- What there is to do for a write. -/
inductive Submission where
  /-- Nothing, for the object is already as it should be. -/
  | unneeded
  /-- Nothing can be done, for the object has no address or is malformed. -/
  | impossible
  /-- Send a request. -/
  | send (request : ApiRequest)
  deriving BEq, Repr

namespace Submission

/-- The requests that are sent. -/
def requests : Submission → List ApiRequest
  | .send request => [request]
  | _ => []

/-- Whether the write succeeds, given whether the API server accepts the request. -/
def succeeds (accepted : Bool) : Submission → Bool
  | .unneeded => true
  | .impossible => false
  | .send _ => accepted

/-- Send a request to an address; the query that it is sent with is empty. -/
def sendTo (address : String) (request : String → ApiRequest) : Submission :=
  match RequestTarget.path? (address ++ "?") with
  | some path => .send (request path)
  | none => .impossible

/-- Patch the object of that name in a collection. -/
def patch (collection name : String) (body : Json) : Submission :=
  if name = "" then .impossible else sendTo (collection ++ "/" ++ name) fun path =>
    .mergePatch path body

/-- Create an event in a namespace. -/
def ofEvent (ns : String) (event : Json) : Submission :=
  match Schema.event.prune? event with
  | some event =>
    sendTo (ApiRequest.collectionPath ApiRequest.coreRoot ns "events") fun path =>
      .create path event
  | none => .impossible

end Submission

end ClusterWatch
