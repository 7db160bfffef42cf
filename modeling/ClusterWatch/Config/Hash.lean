import ClusterWatch.Cluster.Config
import ClusterWatch.Digest.Sha256
import ClusterWatch.Json.Writer
import ClusterWatch.Text.Base64

/-!
# Hashing configs

The hash of the configs that a workload refers to. Its source is the data of those that can be
found, config maps and secrets apart, each by name in order, written as one compact JSON text; the
bytes of secrets are written in base64. The hash is the SHA-256 of that text in hexadecimal.
-/

namespace ClusterWatch

/-- The data of found configs, by kind and name. -/
structure HashSource where
  /-- The data of the config maps by name. -/
  configMaps : Std.ExtTreeMap String TextMap
  /-- The data of the secrets by name. -/
  secrets : Std.ExtTreeMap String (Std.ExtTreeMap String Bytes)
  deriving DecidableEq, Repr

namespace HashSource

/-- No data. -/
def empty : HashSource := ⟨∅, ∅⟩

/-- The data with those of a config added under its name, if it has been found. -/
def add (source : HashSource) (name : String) : Option ConfigData → HashSource
  | some (.strings data) => { source with configMaps := source.configMaps.insert name data }
  | some (.bytes data) => { source with secrets := source.secrets.insert name data }
  | none => source

/-- The data of the referenced configs that can be found. -/
def ofRefs (refs : List ConfigRef) (lookup : ConfigRef → Option ConfigData) : HashSource :=
  refs.foldl (fun source ref => source.add ref.name (lookup ref)) empty

/-- Texts by key as a JSON object. -/
def textMapJson (data : TextMap) : Json :=
  .obj (data.toList.map fun (key, value) => (key, .str value))

/-- Byte strings by key as a JSON object. -/
def bytesMapJson (data : Std.ExtTreeMap String Bytes) : Json :=
  .obj (data.toList.map fun (key, value) => (key, .str (Base64.encode value)))

/-- The data as one JSON value. -/
def toJson (source : HashSource) : Json :=
  .obj [
    ("configMaps",
      .obj (source.configMaps.toList.map fun (name, data) => (name, textMapJson data))),
    ("secrets", .obj (source.secrets.toList.map fun (name, data) => (name, bytesMapJson data)))]

/-- The text that is hashed. -/
def text (source : HashSource) : String :=
  source.toJson.compress

end HashSource

/-- The hash of the referenced configs that can be found. -/
def configHash (refs : List ConfigRef) (lookup : ConfigRef → Option ConfigData) : String :=
  Bytes.toHex (Sha256.hash (Bytes.ofText (HashSource.ofRefs refs lookup).text))

end ClusterWatch
