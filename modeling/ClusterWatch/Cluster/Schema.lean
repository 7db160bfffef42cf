import ClusterWatch.Cluster.Manifest
import ClusterWatch.Json.Schema

/-!
# Schemas of objects

What the manifests of objects have to look like that the API server hands out in its own form: a
manifest with a member of the wrong type is no manifest of the object.
-/

namespace ClusterWatch.Schema

/-- A record of texts, each of which may be missing. -/
def texts (names : List String) : Schema :=
  .record (names.map fun name => (name, .nullable, .text))

/-- The version and the kind that every object of a kind names if it names them at all. -/
def typeMembers (version kind : String) : List (String × Presence × Schema) :=
  [("apiVersion", .assumed (.str version), .word [version]),
    ("kind", .assumed (.str kind), .word [kind])]

/-- A point in time to the second. -/
def seconds : Schema := .time 0

/-- A point in time to the microsecond. -/
def microseconds : Schema := .time 6

/-- A reference to an owner. -/
def ownerReference : Schema :=
  .record [
    ("apiVersion", .defaulted (.str ""), .text),
    ("blockOwnerDeletion", .nullable, .truth),
    ("controller", .nullable, .truth),
    ("kind", .defaulted (.str ""), .text),
    ("name", .defaulted (.str ""), .text),
    ("uid", .defaulted (.str ""), .text)]

/-- A note of who manages which fields of an object. -/
def managedFields : Schema :=
  .record [
    ("apiVersion", .nullable, .text),
    ("fieldsType", .nullable, .text),
    ("fieldsV1", .nullable, .any),
    ("manager", .nullable, .text),
    ("operation", .nullable, .text),
    ("subresource", .nullable, .text),
    ("time", .nullable, .seconds)]

/-- The metadata of an object. -/
def metadata : Schema :=
  .record [
    ("annotations", .nullable, .map .text),
    ("creationTimestamp", .nullable, .seconds),
    ("deletionGracePeriodSeconds", .nullable, .int64),
    ("deletionTimestamp", .nullable, .seconds),
    ("finalizers", .nullable, .list .text),
    ("generateName", .nullable, .text),
    ("generation", .nullable, .int64),
    ("labels", .nullable, .map .text),
    ("managedFields", .nullable, .list .managedFields),
    ("name", .nullable, .text),
    ("namespace", .nullable, .text),
    ("ownerReferences", .nullable, .list .ownerReference),
    ("resourceVersion", .nullable, .text),
    ("selfLink", .nullable, .text),
    ("uid", .nullable, .text)]

/-- A config map. -/
def configMap : Schema :=
  .record (typeMembers "v1" "ConfigMap" ++ [
    ("binaryData", .nullable, .map .bytes),
    ("data", .nullable, .map .text),
    ("immutable", .nullable, .truth),
    ("metadata", .defaulted (.obj []), .metadata)])

/-- A reference to an object. -/
def objectReference : Schema :=
  .texts ["apiVersion", "fieldPath", "kind", "name", "namespace", "resourceVersion", "uid"]

/-- An event. -/
def event : Schema :=
  .record (typeMembers "v1" "Event" ++ [
    ("action", .nullable, .text),
    ("count", .nullable, .int32),
    ("eventTime", .nullable, .microseconds),
    ("firstTimestamp", .nullable, .seconds),
    ("involvedObject", .defaulted (.obj []), .objectReference),
    ("lastTimestamp", .nullable, .seconds),
    ("message", .nullable, .text),
    ("metadata", .defaulted (.obj []), .metadata),
    ("reason", .nullable, .text),
    ("related", .nullable, .objectReference),
    ("reportingComponent", .nullable, .text),
    ("reportingInstance", .nullable, .text),
    ("series", .nullable,
      .record [("count", .nullable, .int32), ("lastObservedTime", .nullable, .microseconds)]),
    ("source", .nullable, .texts ["component", "host"]),
    ("type", .nullable, .text)])

end ClusterWatch.Schema

namespace ClusterWatch

/-- The config map of a manifest, if it is the manifest of one. -/
def ConfigMap.ofManifest? (manifest : Json) : Option ConfigMap :=
  if Schema.configMap.accepts manifest then some (.ofJson manifest) else none

end ClusterWatch
