import ClusterWatch.Cluster.Schema
import ClusterWatch.Watch.Session

/-!
# Watch notices

The JSON form of what the API server sends on a watch. A notice that is not in this form, or about
an object that is not, is an error like one that the API server reports. A listing with one
malformed object is of no use at all.
-/

namespace ClusterWatch

/-- A reported error. -/
def Schema.status : Schema :=
  .record [
    ("status", .nullable, .word ["Success", "Failure"]),
    ("code", .assumed (.ofNat 0), .integer 0 65535),
    ("message", .optional, .text),
    ("reason", .optional, .text),
    ("details", .nullable, .record [
      ("name", .optional, .text),
      ("group", .optional, .text),
      ("kind", .optional, .text),
      ("uid", .optional, .text),
      ("causes", .optional, .list (.record [
        ("reason", .optional, .text), ("message", .optional, .text), ("field", .optional, .text)])),
      ("retryAfterSeconds", .optional, .integer 0 4294967295)])]

/-- The sign that nothing has changed up to a version. -/
def Schema.bookmark : Schema :=
  .record [
    ("apiVersion", .required, .text),
    ("kind", .required, .text),
    ("metadata", .required, .record [
      ("resourceVersion", .required, .text), ("annotations", .optional, .map .text)])]

namespace WatchNotice

variable {α : Type}

/-- The notice that a version is current. -/
def ofBookmark (bookmark : Json) : WatchNotice α :=
  if Schema.bookmark.accepts bookmark then
    .bookmark (bookmark.memberAt ["metadata", "resourceVersion"]).textOrEmpty
  else .failed

/-- The notice of a reported error. -/
def ofStatus (status : Json) : WatchNotice α :=
  if Schema.status.accepts status && status.natAt "code" = 410 then .expired else .failed

/-- The notice of an object. -/
def ofObject (notice : α → WatchNotice α) (object? : Option α) : WatchNotice α :=
  match object? with
  | some object => notice object
  | none => .failed

/-- The notice that a JSON value makes, given how objects are read. -/
def ofJson (read? : Json → Option α) (json : Json) : WatchNotice α :=
  let object := json.member "object"
  match json.textAt "type" with
  | "ADDED" | "MODIFIED" => ofObject .present (read? object)
  | "DELETED" => ofObject .gone (read? object)
  | "BOOKMARK" => ofBookmark object
  | "ERROR" => ofStatus object
  | _ => .failed

end WatchNotice

/-- The reply that a listing makes, given how objects are read. -/
def WatchReply.ofListing {α : Type} (read? : Json → Option α) (objects : List Json)
    (version : Json) :
    WatchReply α :=
  match objects.mapM read?, version with
  | some objects, .str version => .listing objects (some version)
  | some objects, .null => .listing objects none
  | _, _ => .failed

end ClusterWatch
