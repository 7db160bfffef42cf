import ClusterWatch.Cluster.Resource

/-!
# Pod owners

The workload that a pod belongs to. A pod that a replica set owns belongs to the deployment that is
the only owner of the replica set.
-/

namespace ClusterWatch

/-- The workload that a pod belongs to. -/
structure WorkloadRef where
  /-- The kind of the workload. -/
  kind : String
  /-- The name of the workload. -/
  name : String
  deriving DecidableEq, Repr, Inhabited

/-- By kind and then by name. -/
instance : Ord WorkloadRef :=
  ⟨compareLex (compareOn WorkloadRef.kind) (compareOn WorkloadRef.name)⟩

instance : Std.TransOrd WorkloadRef :=
  inferInstanceAs
    (Std.TransCmp (compareLex (compareOn WorkloadRef.kind) (compareOn WorkloadRef.name)))

instance : Std.LawfulEqOrd WorkloadRef where
  eq_of_compare {x y} h := by
    have h : compareLex (compareOn WorkloadRef.kind) (compareOn WorkloadRef.name) x y = .eq := h
    rw [compareLex_eq_eq] at h
    cases x
    cases y
    simp only [compareOn, Std.LawfulEqCmp.compare_eq_iff_eq] at h
    simp [h.1, h.2]

/-- The owner that controls an object, or else its first owner. -/
def controllingOwner? (owners : List OwnerReference) : Option OwnerReference :=
  owners.find? (·.controller) <|> owners.head?

/-- The reference to an owner, as one to a workload. -/
def OwnerReference.workload (owner : OwnerReference) : WorkloadRef :=
  ⟨owner.kind, owner.name⟩

/-- The deployment that is the only owner of a replica set. -/
def ReplicaSet.deployment? (replicaSet : ReplicaSet) : Option WorkloadRef :=
  match replicaSet.metadata.owners with
  | [owner] => if owner.kind = "Deployment" then some owner.workload else none
  | _ => none

/-- The workload that a pod belongs to, given the replica sets of its namespace by name. -/
def Pod.owner? (pod : Pod) (replicaSet? : String → Option ReplicaSet) : Option WorkloadRef :=
  match controllingOwner? pod.metadata.owners with
  | none => none
  | some owner =>
    if owner.kind = "ReplicaSet" then (replicaSet? owner.name).bind ReplicaSet.deployment?
    else some owner.workload

end ClusterWatch
