import ClusterWatch.Cluster.Stores
import ClusterWatch.Config.Finalizers
import ClusterWatch.Config.Hash
import ClusterWatch.Config.Ownership
import ClusterWatch.Config.References
import ClusterWatch.Watch.ClusterEvent

/-!
# Reconciling configs and workloads

A workload that opts in is rolled out whenever the configs it refers to change: the hash of the
configs is kept as an annotation of its template. While such a workload uses a config, a finalizer
protects the config from deletion; when the last user of a config that waits for its deletion is
gone, the finalizer is taken off.

Handling an event yields the new ownership index and the writes to the cluster that
are due, in order.
-/

namespace ClusterWatch

/-- A write to the cluster that the reconciler asks for. -/
inductive ConfigWrite where
  /-- Add a finalizer to a config. -/
  | addFinalizer (config : Config) (finalizer : String)
  /-- Remove a finalizer from a config. -/
  | removeFinalizer (config : Config) (finalizer : String)
  /-- Set the config hash on the template of a workload. -/
  | setConfigHash (workload : Workload) (hash : String)
  deriving DecidableEq, Repr

namespace Reconciler

/-- The name under which the reconciler is known. -/
def component : String := "config-reconciler"

/-- Whether the reconciler follows a kind of objects. -/
def interestedIn : ResourceKind → Bool
  | .configMaps | .secrets | .deployments | .daemonSets | .statefulSets => true
  | _ => false

/-- Protect a config that is in use: the finalizer is added unless it is there. -/
def protect (config : Config) : List ConfigWrite :=
  if config.hasFinalizer configFinalizer then [] else [.addFinalizer config configFinalizer]

/-- Let go of a config that is out of use: the finalizer is removed if it is there. -/
def unprotect (config : Config) : List ConfigWrite :=
  if config.hasFinalizer configFinalizer then [.removeFinalizer config configFinalizer] else []

/-- Protect the config that a reference leads to, if it is cached. -/
def protectRef (stores : Stores) (ns : String) (ref : ConfigRef) : List ConfigWrite :=
  match stores.config? ns ref with
  | some config => protect config
  | none => []

/-- Let go of the config that a reference leads to, if nobody uses it and it waits for
its deletion. -/
def releaseRef (stores : Stores) (index : NamespaceIndex) (ns : String) (ref : ConfigRef) :
    List ConfigWrite :=
  if index.isUsed ref then []
  else
    match stores.config? ns ref with
    | some config => if config.isPendingDeletion then unprotect config else []
    | none => []

/-- Let go of those of the given configs that nobody uses and that wait for their deletion. -/
def release (stores : Stores) (index : NamespaceIndex) (ns : String) (refs : ConfigRefs) :
    List ConfigWrite :=
  refs.toList.flatMap (releaseRef stores index ns)

/-- The hash of configs of a namespace, as they are cached. -/
def cachedHash (stores : Stores) (ns : String) (refs : ConfigRefs) : String :=
  configHash refs.toList fun ref => (stores.config? ns ref).map Config.data

/-- Roll out a workload if the hash that its template carries is not that of its configs. -/
def rollOut (stores : Stores) (workload : Workload) (refs : ConfigRefs) : List ConfigWrite :=
  let hash := cachedHash stores workload.ns refs
  if workload.configHash? = some hash then [] else [.setConfigHash workload hash]

/-- Roll out the cached workload of a key, by the configs that it refers to now. -/
def rollOutUser (stores : Stores) (ns : String) (key : WorkloadKey) : List ConfigWrite :=
  match stores.workload? ns key with
  | some workload => rollOut stores workload workload.referencedConfigs
  | none => []

/-- Record what a workload uses, protect that, release what it no longer uses, and roll it out. A
workload that has not opted in is forgotten instead. -/
def reconcileWorkload (stores : Stores) (index : NamespaceIndex) (workload : Workload) :
    NamespaceIndex × List ConfigWrite :=
  let ns := workload.ns
  let previous := index.refsOf workload.key
  if workload.isOptedIn then
    let refs := workload.referencedConfigs
    let index := index.set workload.key refs
    (index,
      refs.toList.flatMap (protectRef stores ns) ++ release stores index ns (previous \ refs) ++
        rollOut stores workload refs)
  else
    let index := index.remove workload.key
    (index, release stores index ns previous)

/-- Forget a workload that is gone and release what it used. -/
def forgetWorkload (stores : Stores) (index : NamespaceIndex) (workload : Workload) :
    NamespaceIndex × List ConfigWrite :=
  let previous := index.refsOf workload.key
  let index := index.remove workload.key
  (index, release stores index workload.ns previous)

/-- Protect a new config that is in use and roll out its users. -/
def configCreated (stores : Stores) (index : NamespaceIndex) (config : Config) : List ConfigWrite :=
  let users := index.usersOf config.ref
  if users.isEmpty then []
  else protect config ++ users.flatMap (rollOutUser stores config.ns)

/-- Let go of a changed config that waits for its deletion and is out of use; protect one that is in
use and stays, and roll out its users if its data have changed. -/
def configUpdated (stores : Stores) (index : NamespaceIndex) (old new : Config) :
    List ConfigWrite :=
  let users := index.usersOf new.ref
  if new.isPendingDeletion then
    if users.isEmpty then unprotect new else []
  else if users.isEmpty then []
  else
    protect new ++
      if old.data ≠ new.data then users.flatMap (rollOutUser stores new.ns) else []

/-- Handle a delivery of a workload. -/
def onWorkload (stores : Stores) (index : OwnershipIndex) (delivery : Delivery Workload) :
    OwnershipIndex × List ConfigWrite :=
  let workload := delivery.object
  let inner := index.within workload.ns
  let (inner, writes) := match delivery.current? with
    | some workload => reconcileWorkload stores inner workload
    | none => forgetWorkload stores inner workload
  (index.update workload.ns inner, writes)

/-- Handle a delivery of a config. A config that is gone needs nothing. -/
def onConfig (stores : Stores) (index : OwnershipIndex) : Delivery Config → List ConfigWrite
  | .created config => configCreated stores (index.within config.ns) config
  | .updated old new => configUpdated stores (index.within new.ns) old new
  | .deleted _ => []

/-- Handle a cluster event: the new index, and the writes that it asks for in order. -/
def handle (stores : Stores) (index : OwnershipIndex) :
    ClusterEvent → OwnershipIndex × List ConfigWrite
  | .deployments delivery => onWorkload stores index (delivery.map (⟨.deployment, ·⟩))
  | .daemonSets delivery => onWorkload stores index (delivery.map (⟨.daemonSet, ·⟩))
  | .statefulSets delivery => onWorkload stores index (delivery.map (⟨.statefulSet, ·⟩))
  | .configMaps delivery => (index, onConfig stores index (delivery.map .configMap))
  | .secrets delivery => (index, onConfig stores index (delivery.map .secret))
  | _ => (index, [])

end Reconciler

end ClusterWatch
