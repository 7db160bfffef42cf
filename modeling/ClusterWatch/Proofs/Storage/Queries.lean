import ClusterWatch.Proofs.Collections
import ClusterWatch.Storage.Projection

/-!
# What the storage projection reports

The views of the volumes and the chains from pods to volumes, read off the volumes, their bindings
and the pods of the claims.

* `StorageIndex.getElem?_classify`, `StorageIndex.mem_classify` — the views of a class are
  those of its volumes.
* `StorageIndex.mem_volumeChains` — a chain leads by a binding of the namespace.
* `StorageIndex.filter_volumeChains` — the chains to a bound volume are those of the pods of its
  claim, in their order.
-/

namespace ClusterWatch

namespace StorageIndex

variable {index : StorageIndex}

/-! ### Pods of claims -/

/-- The pods of every claim, by the names of the pods. -/
abbrev ClaimPods := Std.ExtTreeMap String (Std.ExtTreeSet String)

/-- The names of the pods of a claim. -/
def podsAt (claimPods : ClaimPods) (claim : String) : Std.ExtTreeSet String :=
  claimPods[claim]?.getD ∅

/-- The pods of a claim are listed in the order of their set. -/
theorem podsOf_eq_toList (index : StorageIndex) (claim : String) :
    index.podsOf claim = (podsAt index.claimPods claim).toList := by
  rw [podsOf, podsAt]
  cases index.claimPods[claim]? with
  | none => simp
  | some pods => rfl

/-- The pods that are listed for a claim are those that are kept with it. -/
theorem mem_podsOf {claim pod : String} :
    pod ∈ index.podsOf claim ↔ pod ∈ podsAt index.claimPods claim := by
  rw [podsOf_eq_toList, Std.ExtTreeSet.mem_toList]

/-- The pods of a claim are listed in the order of their names, each of them once. -/
theorem pairwise_podsOf (index : StorageIndex) (claim : String) :
    (index.podsOf claim).Pairwise (· < ·) := by
  rw [podsOf_eq_toList]
  exact (podsAt index.claimPods claim).ordered_toList.imp fun hlt => compareOfLessAndEq_eq_lt.mp hlt

/-! ### Views of volumes -/

/-- The view of a volume shows the claim that it is bound to. -/
theorem view_claim (index : StorageIndex) (sample : UsageSample) (name : String)
    (info : VolumeInfo) :
    (index.view sample name info).claim = index.boundClaims[name]? :=
  rfl

/-- A volume is shown with the pods of the claim that it is bound to. -/
theorem view_pods {sample : UsageSample} {name claim : String} {info : VolumeInfo}
    (hclaim : (index.view sample name info).claim = some claim) :
    (index.view sample name info).pods = index.podsOf claim := by
  rw [view_claim] at hclaim
  rw [view, hclaim]
  rfl

/-- The volumes of a class, by name. -/
def volumesOf (index : StorageIndex) (storageClass : String) : List (String × VolumeInfo) :=
  index.volumes.toList.filter (·.2.storageClass = storageClass)

/-- A class that has volumes is shown with the views of them. -/
theorem getElem?_classify (index : StorageIndex) (sample : UsageSample) (storageClass : String) :
    (index.classify sample)[storageClass]? =
      if index.volumesOf storageClass = [] then none
      else some ((index.volumesOf storageClass).map fun volume =>
        index.view sample volume.1 volume.2) := by
  have hgroup :=
    getElem?_foldl_group (fun volume : String × VolumeInfo => volume.2.storageClass) []
    (fun views volume => views ++ [index.view sample volume.1 volume.2])
      index.volumes.toList storageClass
  rw [List.foldl_append_eq_append, List.nil_append, ← List.flatMap_def,
    ← List.map_eq_flatMap] at hgroup
  exact hgroup

/-- The volumes of a class are shown in the order of their names. -/
theorem getD_classify (index : StorageIndex) (sample : UsageSample) (storageClass : String) :
    (index.classify sample)[storageClass]?.getD [] =
      (index.volumesOf storageClass).map fun volume => index.view sample volume.1 volume.2 := by
  rw [getElem?_classify]
  split
  next hnone => rw [hnone, List.map_nil, Option.getD_none]
  next => rfl

/-- The views of a class are those of the volumes of that class. -/
theorem mem_classify {sample : UsageSample} {storageClass : String} {view : VolumeView} :
    view ∈ (index.classify sample)[storageClass]?.getD [] ↔
      ∃ (name : String) (info : VolumeInfo), index.volumes[name]? = some info ∧
        info.storageClass = storageClass ∧ index.view sample name info = view := by
  rw [getD_classify, volumesOf]
  simp only [List.mem_map, List.mem_filter, decide_eq_true_eq, Prod.exists,
    Std.ExtTreeMap.mem_toList_iff_getElem?_eq_some, and_assoc]

/-! ### Chains of volumes -/

/-- The chains from the pods of a claim to a volume that is bound to it. -/
def chainsThrough (index : StorageIndex) (sample : UsageSample) (volume claim : String) :
    List VolumeChain :=
  (index.podsOf claim).map fun pod =>
    ⟨pod, claimName claim, volume, (index.roomOf sample volume).total,
      (index.roomOf sample volume).used⟩

/-- The chains in a namespace go through its bindings, one after another. -/
theorem volumeChains_eq (index : StorageIndex) (sample : UsageSample) (ns : String) :
    index.volumeChains sample ns =
      (index.bindingsWithin ns).flatMap fun binding =>
        index.chainsThrough sample binding.1 binding.2 :=
  rfl

/-- The bindings of a namespace are those to claims of it. -/
theorem mem_bindingsWithin {ns volume claim : String} :
    (volume, claim) ∈ index.bindingsWithin ns ↔
      index.boundClaims[volume]? = some claim ∧ claimNamespace claim = ns := by
  rw [bindingsWithin, List.mem_filter, Std.ExtTreeMap.mem_toList_iff_getElem?_eq_some,
    decide_eq_true_eq]

/-- The chains through a volume begin with it. -/
theorem volume_of_mem_chainsThrough {sample : UsageSample} {volume claim : String}
    {chain : VolumeChain} (h : chain ∈ index.chainsThrough sample volume claim) :
    chain.volume = volume := by
  obtain ⟨pod, -, rfl⟩ := List.mem_map.mp h
  rfl

/-- The chains of a namespace are those through its bindings. -/
theorem mem_volumeChains {sample : UsageSample} {ns : String} {chain : VolumeChain} :
    chain ∈ index.volumeChains sample ns ↔
      ∃ claim, index.boundClaims[chain.volume]? = some claim ∧ claimNamespace claim = ns ∧
        chain ∈ index.chainsThrough sample chain.volume claim := by
  simp only [volumeChains_eq, List.mem_flatMap, Prod.exists, mem_bindingsWithin]
  constructor
  · rintro ⟨volume, claim, ⟨hbound, hns⟩, hchain⟩
    obtain rfl := volume_of_mem_chainsThrough hchain
    exact ⟨claim, hbound, hns, hchain⟩
  · rintro ⟨claim, hbound, hns, hchain⟩
    exact ⟨chain.volume, claim, ⟨hbound, hns⟩, hchain⟩

/-- Of the chains of a namespace, those to a volume are the chains through its binding. -/
theorem filter_volumeChains (sample : UsageSample) {volume claim : String}
    (hbound : index.boundClaims[volume]? = some claim) :
    (index.volumeChains sample (claimNamespace claim)).filter (·.volume = volume) =
      index.chainsThrough sample volume claim := by
  have hdistinct : (index.bindingsWithin (claimNamespace claim)).Pairwise (·.1 ≠ ·.1) :=
    (index.boundClaims.distinct_keys_toList.imp fun hne heq => hne (by simp [heq])).filter _
  exact filter_flatMap_of_mem hdistinct
    (fun binding chain hchain => volume_of_mem_chainsThrough hchain)
    (mem_bindingsWithin.mpr ⟨hbound, rfl⟩)

end StorageIndex

end ClusterWatch
