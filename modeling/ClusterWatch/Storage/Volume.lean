import Std.Data.ExtTreeSet
import ClusterWatch.Cluster.Resource

/-!
# Volumes and claims

What is read off a persistent volume and off a pod: the node that a volume is pinned to, the claim
that it is bound to, and the claims that a pod mounts. A claim is known by its namespace and name,
joined by a slash.
-/

namespace ClusterWatch

/-- The key of a claim. -/
def claimKey (ns name : String) : String :=
  ns ++ "/" ++ name

/-- The namespace and the name in the key of a claim. -/
def splitClaimKey (key : String) : String × String :=
  let cs := key.toList
  match cs.dropWhile (· ≠ '/') with
  | [] => ("", key)
  | _ :: name => (String.ofList (cs.takeWhile (· ≠ '/')), String.ofList name)

/-- The namespace in the key of a claim. -/
def claimNamespace (key : String) : String := (splitClaimKey key).1

/-- The name in the key of a claim. -/
def claimName (key : String) : String := (splitClaimKey key).2

/-- The label that holds the host name of a node. -/
def hostnameLabel : String := "kubernetes.io/hostname"

/-- Whether a condition lists the host names that are admitted. -/
def MatchExpression.listsHosts (expression : MatchExpression) : Bool :=
  expression.key = hostnameLabel && expression.operator = "In"

namespace PersistentVolume

/-- The only host that the first condition on host names admits. -/
def pinnedNode? (volume : PersistentVolume) : Option String :=
  match volume.nodeTerms.flatten.find? MatchExpression.listsHosts with
  | some expression =>
    match expression.values with
    | [host] => some host
    | _ => none
  | none => none

/-- The key of the claim that a volume is bound to, if it is named in full. -/
def boundClaim? (volume : PersistentVolume) : Option String :=
  match volume.claimRef with
  | some ⟨some ns, some name⟩ => some (claimKey ns name)
  | _ => none

/-- The bytes that a volume offers. -/
def capacityBytes (volume : PersistentVolume) : UInt64 :=
  Quantity.bytesOf volume.capacity "storage"

end PersistentVolume

/-- The keys of the claims that a pod mounts. -/
def Pod.claims (pod : Pod) : Std.ExtTreeSet String :=
  .ofList ((pod.claimNames.filter (· ≠ "")).map (claimKey (ClusterObject.ns pod)))

end ClusterWatch
