import ClusterWatch.Storage.Cache
import ClusterWatch.Storage.Volume
import ClusterWatch.Watch.ClusterEvent

/-!
# The storage projection

Which volumes there are, which claims they are bound to, and which pods mount those claims. Together
with a usage sample this answers how full the volumes are, by storage class and by namespace.
-/

namespace ClusterWatch

/-- What is kept of a volume. -/
structure VolumeInfo where
  /-- The bytes that it offers. -/
  capacity : UInt64
  /-- The class of storage that it belongs to. -/
  storageClass : String
  /-- The node that it is pinned to. -/
  node : Option String
  deriving DecidableEq, Repr

/-- The state of the storage projection. -/
structure StorageIndex where
  /-- The volumes by name. -/
  volumes : Std.ExtTreeMap String VolumeInfo
  /-- The claim that each bound volume is bound to, by volume name. -/
  boundClaims : Std.ExtTreeMap String String
  /-- The names of the pods that mount each claim, by claim. -/
  claimPods : Std.ExtTreeMap String (Std.ExtTreeSet String)
  /-- The claims that each pod mounts, by the namespace and name of the pod. -/
  podClaims : Std.ExtTreeMap String (Std.ExtTreeSet String)
  deriving DecidableEq

/-- What is shown of a volume. -/
structure VolumeView where
  /-- The name of the volume. -/
  name : String
  /-- The class of storage that it belongs to. -/
  storageClass : String
  /-- The node that it is pinned to. -/
  node : Option String
  /-- The claim that it is bound to. -/
  claim : Option String
  /-- The bytes that it offers. -/
  total : UInt64
  /-- The bytes that are used. -/
  used : UInt64
  /-- The bytes that are left. -/
  free : UInt64
  /-- The names of the pods that mount its claim, in order. -/
  pods : List String
  deriving DecidableEq, Repr

/-- The storage of a class. -/
structure StorageTotal where
  /-- The bytes that its volumes offer. -/
  total : UInt64
  /-- The bytes that are used. -/
  used : UInt64
  deriving DecidableEq, Repr, Inhabited

/-- A pod with a volume that it mounts by a claim. -/
structure VolumeChain where
  /-- The name of the pod. -/
  pod : String
  /-- The name of the claim. -/
  claim : String
  /-- The name of the volume. -/
  volume : String
  /-- The room on the volume in bytes. -/
  total : UInt64
  /-- The bytes that are used. -/
  used : UInt64
  deriving DecidableEq, Repr

namespace StorageIndex

/-- An index without volumes, claims and pods. -/
def empty : StorageIndex := ⟨∅, ∅, ∅, ∅⟩

/-- Whether the projection follows a kind of objects. -/
def interestedIn : ResourceKind → Bool
  | .persistentVolumes | .persistentVolumeClaims | .pods => true
  | _ => false

/-- Handle a delivery of a volume: its record and its binding are replaced, or dropped with it. -/
def onVolume (index : StorageIndex) (delivery : Delivery PersistentVolume) : StorageIndex :=
  let name := ClusterObject.name delivery.object
  match delivery.current? with
  | some volume =>
    { index with
      volumes := index.volumes.insert name
        ⟨volume.capacityBytes, volume.storageClass.getD "", volume.pinnedNode?⟩
      boundClaims := match volume.boundClaim? with
        | some claim => index.boundClaims.insert name claim
        | none => index.boundClaims.erase name }
  | none =>
    { index with volumes := index.volumes.erase name, boundClaims := index.boundClaims.erase name }

/-- The volume that a claim names, if it names one. -/
def namedVolume? (claim : PersistentVolumeClaim) : Option String :=
  claim.volumeName.filter (· ≠ "")

/-- Handle a delivery of a claim: it is bound to the volume that it names and to no other. -/
def onClaim (index : StorageIndex) (delivery : Delivery PersistentVolumeClaim) : StorageIndex :=
  let key := claimKey (ClusterObject.ns delivery.object) (ClusterObject.name delivery.object)
  match delivery.current?.bind namedVolume? with
  | some volume =>
    { index with boundClaims :=
        (index.boundClaims.filter fun name claim =>
          claim ≠ key || volume = name).insert volume key }
  | none => { index with boundClaims := index.boundClaims.filter fun _ claim => claim ≠ key }

/-- The pods of a claim without one of them; a claim that no pod mounts is dropped. -/
def dropPod (claimPods : Std.ExtTreeMap String (Std.ExtTreeSet String)) (pod claim : String) :
    Std.ExtTreeMap String (Std.ExtTreeSet String) :=
  match claimPods[claim]? with
  | some pods =>
    let pods := pods.erase pod
    if pods.isEmpty then claimPods.erase claim else claimPods.insert claim pods
  | none => claimPods

/-- The pods of a claim with one more. -/
def addPod (claimPods : Std.ExtTreeMap String (Std.ExtTreeSet String)) (pod claim : String) :
    Std.ExtTreeMap String (Std.ExtTreeSet String) :=
  claimPods.insert claim ((claimPods[claim]?.getD ∅).insert pod)

/-- Handle a delivery of a pod: the claims that it mounts replace those that it mounted before. -/
def onPod (index : StorageIndex) (delivery : Delivery Pod) : StorageIndex :=
  let name := ClusterObject.name delivery.object
  let key := claimKey (ClusterObject.ns delivery.object) name
  let claims := (delivery.current?.map Pod.claims).getD ∅
  let previous := index.podClaims[key]?.getD ∅
  let dropped := (previous \ claims).toList.foldl (dropPod · name) index.claimPods
  { index with
    claimPods := claims.toList.foldl (addPod · name) dropped
    podClaims :=
      if claims.isEmpty then index.podClaims.erase key else index.podClaims.insert key claims }

/-- Handle a cluster event. -/
def handle (index : StorageIndex) : ClusterEvent → StorageIndex
  | .persistentVolumes delivery => index.onVolume delivery
  | .persistentVolumeClaims delivery => index.onClaim delivery
  | .pods delivery => index.onPod delivery
  | _ => index

/-- Whether an event makes the cached usage sample useless: a new volume is in no sample
taken before. -/
def outdatesSample : ClusterEvent → Bool
  | .persistentVolumes (.created _) => true
  | _ => false

/-- The names of the pods that mount a claim, in order. -/
def podsOf (index : StorageIndex) (claim : String) : List String :=
  (index.claimPods[claim]?.map fun pods => pods.toList).getD []

/-- What is shown of a volume. -/
def view (index : StorageIndex) (sample : UsageSample) (name : String) (info : VolumeInfo) :
    VolumeView :=
  let claim := index.boundClaims[name]?
  let (used, free) := match sample.volume? name with
    | some usage => (usage.used, if usage.used ≤ usage.total then usage.total - usage.used else 0)
    | none => (0, info.capacity)
  ⟨name, info.storageClass, info.node, claim, info.capacity, used, free,
    (claim.map index.podsOf).getD []⟩

/-- The volumes by storage class and then by name. -/
def classify (index : StorageIndex) (sample : UsageSample) :
    Std.ExtTreeMap String (List VolumeView) :=
  index.volumes.toList.foldl (fun classes (name, info) =>
    classes.insert info.storageClass
      ((classes[info.storageClass]?.getD []) ++ [index.view sample name info])) ∅

/-- The storage of every class. -/
def classTotals (index : StorageIndex) (sample : UsageSample) :
    Std.ExtTreeMap String StorageTotal :=
  index.volumes.toList.foldl (fun totals (name, info) =>
    let before := totals[info.storageClass]?.getD ⟨0, 0⟩
    totals.insert info.storageClass
      ⟨before.total + info.capacity, before.used + sample.usedOf name⟩) ∅

/-- The bindings to claims of a namespace, as volumes with their claims, by volume name. -/
def bindingsWithin (index : StorageIndex) (ns : String) : List (String × String) :=
  index.boundClaims.toList.filter fun (_, claim) => claimNamespace claim = ns

/-- The bytes that the bound volumes of a namespace use. -/
def namespaceUsed (index : StorageIndex) (sample : UsageSample) (ns : String) : UInt64 :=
  ((index.bindingsWithin ns).map fun (volume, _) => sample.usedOf volume).foldl (· + ·) 0

/-- The room of a volume: as sampled, or else its capacity with nothing used. -/
def roomOf (index : StorageIndex) (sample : UsageSample) (volume : String) : BlockUsage :=
  (sample.volume? volume).getD ⟨((index.volumes[volume]?).map VolumeInfo.capacity).getD 0, 0⟩

/-- The pods of a namespace with the volumes that they mount. -/
def volumeChains (index : StorageIndex) (sample : UsageSample) (ns : String) : List VolumeChain :=
  (index.bindingsWithin ns).flatMap fun (volume, claim) =>
    let room := index.roomOf sample volume
    (index.podsOf claim).map fun pod => ⟨pod, claimName claim, volume, room.total, room.used⟩

end StorageIndex

end ClusterWatch
