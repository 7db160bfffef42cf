import Std.Data.ExtTreeSet
import ClusterWatch.Cluster.Config
import ClusterWatch.Cluster.Workload
import ClusterWatch.Sorting

/-!
# Config ownership

Which configs each workload uses, by namespace, and the reverse question of which
workloads use a config.
-/

namespace ClusterWatch

/-- The configs that each workload of a namespace uses. -/
structure NamespaceIndex where
  /-- The configs by workload. -/
  owners : Std.ExtTreeMap WorkloadKey ConfigRefs
  deriving DecidableEq

namespace NamespaceIndex

/-- An index without workloads. -/
def empty : NamespaceIndex := ⟨∅⟩

/-- The configs recorded for a workload, none if it is not there. -/
def refsOf (index : NamespaceIndex) (workload : WorkloadKey) : ConfigRefs :=
  index.owners[workload]?.getD ∅

/-- Record the configs of a workload in place of the ones before. -/
def set (index : NamespaceIndex) (workload : WorkloadKey) (refs : ConfigRefs) : NamespaceIndex :=
  ⟨index.owners.insert workload refs⟩

/-- Forget a workload. -/
def remove (index : NamespaceIndex) (workload : WorkloadKey) : NamespaceIndex :=
  ⟨index.owners.erase workload⟩

/-- The workloads that use a config, in order. -/
def usersOf (index : NamespaceIndex) (config : ConfigRef) : List WorkloadKey :=
  let users := (index.owners.toList.filter fun (_, refs) => refs.contains config).map (·.1)
  sortedBy (fun one other => (compare one other).isLE) users

/-- Whether some workload uses a config. -/
def isUsed (index : NamespaceIndex) (config : ConfigRef) : Bool :=
  index.owners.toList.any fun (_, refs) => refs.contains config

end NamespaceIndex

/-- The configs that the workloads of all namespaces use. -/
structure OwnershipIndex where
  /-- The index of each namespace that has one. -/
  namespaces : Std.ExtTreeMap String NamespaceIndex
  deriving DecidableEq

namespace OwnershipIndex

/-- An index without namespaces. -/
def empty : OwnershipIndex := ⟨∅⟩

/-- The index of a namespace. -/
def within (index : OwnershipIndex) (ns : String) : NamespaceIndex :=
  index.namespaces[ns]?.getD .empty

/-- Replace the index of a namespace. -/
def update (index : OwnershipIndex) (ns : String) (inner : NamespaceIndex) : OwnershipIndex :=
  ⟨index.namespaces.insert ns inner⟩

/-- Record the configs of a workload in place of the ones before. -/
def set (index : OwnershipIndex) (ns : String) (workload : WorkloadKey) (refs : ConfigRefs) :
    OwnershipIndex :=
  index.update ns ((index.within ns).set workload refs)

/-- Forget a workload. -/
def remove (index : OwnershipIndex) (ns : String) (workload : WorkloadKey) : OwnershipIndex :=
  index.update ns ((index.within ns).remove workload)

/-- The configs recorded for a workload. -/
def refsOf (index : OwnershipIndex) (ns : String) (workload : WorkloadKey) : ConfigRefs :=
  (index.within ns).refsOf workload

/-- The workloads of a namespace that use a config, in order. -/
def usersOf (index : OwnershipIndex) (ns : String) (config : ConfigRef) : List WorkloadKey :=
  (index.within ns).usersOf config

/-- Whether some workload of a namespace uses a config. -/
def isUsed (index : OwnershipIndex) (ns : String) (config : ConfigRef) : Bool :=
  (index.within ns).isUsed config

end OwnershipIndex

end ClusterWatch
