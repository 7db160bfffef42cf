import Std.Data.ExtTreeSet
import ClusterWatch.Cluster.Metadata
import ClusterWatch.Text.Bytes

/-!
# Configs

Config maps and secrets, seen as one kind of thing: a named set of data that workloads refer to. A
config map holds texts and a secret holds bytes.
-/

namespace ClusterWatch

/-- The namespace that the agent keeps its own configs in. -/
def reservedNamespace : String := "cluster-agent-system"

/-- A config map. -/
structure ConfigMap where
  /-- The metadata. -/
  metadata : Metadata
  /-- The texts by key. -/
  data : TextMap
  deriving DecidableEq, Repr, Inhabited

instance : ClusterObject ConfigMap := ⟨ConfigMap.metadata⟩

/-- A secret. -/
structure Secret where
  /-- The metadata. -/
  metadata : Metadata
  /-- The byte strings by key. -/
  data : Std.ExtTreeMap String Bytes
  deriving DecidableEq, Repr, Inhabited

instance : ClusterObject Secret := ⟨Secret.metadata⟩

/-- The kinds of configs. -/
inductive ConfigKind where
  /-- Config maps. -/
  | configMap
  /-- Secrets. -/
  | secret
  deriving DecidableEq, Repr, Inhabited

/-- The name of a kind of configs. -/
def ConfigKind.name : ConfigKind → String
  | .configMap => "ConfigMap"
  | .secret => "Secret"

/-- The name under which the API server collects the configs of a kind. -/
def ConfigKind.plural : ConfigKind → String
  | .configMap => "configmaps"
  | .secret => "secrets"

/-- The kind of configs of that name. -/
def ConfigKind.ofName? (name : String) : Option ConfigKind :=
  [.configMap, .secret].find? fun (kind : ConfigKind) => kind.name = name

/-- The place of a kind of configs in their order. -/
def ConfigKind.rank : ConfigKind → Nat
  | .configMap => 0
  | .secret => 1

/-- A reference to a config, within the namespace of whoever refers to it. -/
structure ConfigRef where
  /-- The kind of the config. -/
  kind : ConfigKind
  /-- The name of the config. -/
  name : String
  deriving DecidableEq, Repr, Inhabited

/-- By kind and then by name. -/
instance : Ord ConfigRef :=
  ⟨compareLex (compareOn (·.kind.rank)) (compareOn ConfigRef.name)⟩

instance : Std.TransOrd ConfigRef :=
  inferInstanceAs
    (Std.TransCmp (compareLex (compareOn fun r => r.kind.rank) (compareOn ConfigRef.name)))

instance : Std.LawfulEqOrd ConfigRef where
  eq_of_compare {x y} h := by
    have h : compareLex (compareOn fun r => r.kind.rank) (compareOn ConfigRef.name) x y = .eq := h
    rw [compareLex_eq_eq] at h
    obtain ⟨hkind, hname⟩ := h
    obtain ⟨xkind, xname⟩ := x
    obtain ⟨ykind, yname⟩ := y
    simp only [compareOn, Std.LawfulEqCmp.compare_eq_iff_eq] at hkind hname
    cases xkind <;> cases ykind <;> simp_all [ConfigKind.rank]

/-- The text of a reference: kind and name, joined by a slash. -/
def ConfigRef.text (ref : ConfigRef) : String :=
  ref.kind.name ++ "/" ++ ref.name

/-- A set of references to configs. -/
abbrev ConfigRefs := Std.ExtTreeSet ConfigRef

/-- The data of a config. -/
inductive ConfigData where
  /-- The texts of a config map. -/
  | strings (data : TextMap)
  /-- The bytes of a secret. -/
  | bytes (data : Std.ExtTreeMap String Bytes)
  deriving DecidableEq, Repr

/-- A config of either kind. -/
inductive Config where
  /-- A config map. -/
  | configMap (config : ConfigMap)
  /-- A secret. -/
  | secret (config : Secret)
  deriving DecidableEq, Repr

namespace Config

/-- The metadata of a config. -/
def metadata : Config → Metadata
  | .configMap config => config.metadata
  | .secret config => config.metadata

/-- The kind of a config. -/
def kind : Config → ConfigKind
  | .configMap _ => .configMap
  | .secret _ => .secret

/-- The name that references to the config use. -/
def name (config : Config) : String :=
  config.metadata.name.getD ""

/-- The namespace of a config. -/
def ns (config : Config) : String :=
  config.metadata.nsText

/-- The reference to a config. -/
def ref (config : Config) : ConfigRef :=
  ⟨config.kind, config.name⟩

/-- The finalizers of a config. -/
def finalizers (config : Config) : List String :=
  config.metadata.finalizers

/-- Whether a config carries a finalizer. -/
def hasFinalizer (config : Config) (finalizer : String) : Bool :=
  config.finalizers.contains finalizer

/-- Whether a config is marked for deletion. -/
def isPendingDeletion (config : Config) : Bool :=
  config.metadata.deleting

/-- The data of a config. -/
def data : Config → ConfigData
  | .configMap config => .strings config.data
  | .secret config => .bytes config.data

end Config

end ClusterWatch
