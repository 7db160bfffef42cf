import ClusterWatch.Proofs.Monitor.Gauges
import ClusterWatch.Proofs.Storage.Classes

/-!
# Namespaces apart

What the namespace check says about a namespace depends on the objects of that namespace, and of all
else only on the room that the nodes and the volumes offer. So two clusters that differ in other
namespaces are told the same about it.

* `ClusterState.AgreeWithin` — two states that differ in other namespaces only.
* `StorageIndex.keyed_after` — after any history, volumes are bound to claims whose
  namespaces can be told.
* `ClusterState.unused_clusterSample_congr`, `StorageIndex.classTotals_congr` — the totals of the
  cluster depend on the nodes and on the volumes alone.
* `ClusterState.gaugesWithin_congr` — in such states the same is measured of the namespace.
* `ClusterState.alerts_isolated` — and the same is alerted on.
-/

namespace ClusterWatch

open ClusterObject (hasSeparator)

/-! ### Storage -/

/-- What a volume offers: its bytes and its class. -/
def VolumeInfo.offer (info : VolumeInfo) : UInt64 × String :=
  (info.capacity, info.storageClass)

namespace StorageIndex

variable {index other : StorageIndex} {ns : String}

/-- Every volume is bound to a claim by its key, which names a namespace. -/
def Keyed (index : StorageIndex) : Prop :=
  ∀ volume claim : String, index.boundClaims[volume]? = some claim → hasSeparator claim = true

/-- After any history, volumes are bound to claims by their keys. -/
theorem keyed_after (events : List ClusterEvent) : (after events).Keyed :=
  fun _ _ hbound => hasSeparator_of_boundClaims hbound

/-- Two indices with the same volumes, as far as these offer the same room in the same classes. -/
def SameOffers (index other : StorageIndex) : Prop :=
  ∀ volume : String, index.volumes[volume]?.map VolumeInfo.offer =
    other.volumes[volume]?.map VolumeInfo.offer

/-- The totals of the classes depend on what the volumes offer alone. -/
theorem classTotals_congr (h : index.SameOffers other) (sample : UsageSample) :
    index.classTotals sample = other.classTotals sample := by
  -- of a volume the fold reads its name and what it offers
  have htotals (index : StorageIndex) : index.classTotals sample =
      (index.volumes.map fun _ info => info.offer).toList.foldl
        (fun totals (name, capacity, storageClass) =>
          let before := totals[storageClass]?.getD ⟨0, 0⟩
          totals.insert storageClass
            ⟨before.total + capacity, before.used + sample.usedOf name⟩) ∅ := by
    rw [Std.ExtTreeMap.toList_map, List.foldl_map]
    rfl
  have hoffers : (index.volumes.map fun _ info => info.offer) =
      other.volumes.map fun _ info => info.offer :=
    Std.ExtTreeMap.ext_getElem? fun volume => by simpa using h volume
  rw [htotals, htotals, hoffers]

/-- The room of a volume depends on what the volume offers alone. -/
theorem roomOf_congr (h : index.SameOffers other) (sample : UsageSample) (volume : String) :
    index.roomOf sample volume = other.roomOf sample volume := by
  have hcapacity := congrArg (Option.map Prod.fst) (h volume)
  simp only [Option.map_map] at hcapacity
  exact congrArg
    (fun capacity : Option UInt64 =>
      (sample.volume? volume).getD ⟨capacity.getD 0, 0⟩) hcapacity

/-- A binding to a claim of a namespace is one to a key of that namespace. -/
theorem Keyed.eq_claimKey (h : index.Keyed) {volume claim : String}
    (hbound : index.boundClaims[volume]? = some claim) (hns : claimNamespace claim = ns) :
    claim = claimKey ns (claimName claim) := by
  rw [← hns, claimKey_split (h volume claim hbound)]

/-- Indices that agree on the claims of a namespace have the same bindings there. -/
theorem bindingsWithin_congr (hindex : index.Keyed) (hother : other.Keyed)
    (h : ∀ volume name : String, index.boundClaims[volume]? = some (claimKey ns name) ↔
      other.boundClaims[volume]? = some (claimKey ns name)) :
    index.bindingsWithin ns = other.bindingsWithin ns := by
  have hbindings (index : StorageIndex) : index.bindingsWithin ns =
      (index.boundClaims.filter fun _ claim => claimNamespace claim = ns).toList := by
    rw [Std.ExtTreeMap.toList_filter]
    rfl
  rw [hbindings, hbindings, Std.ExtTreeMap.toList_inj]
  refine Std.ExtTreeMap.ext_getElem? fun volume => Option.ext fun claim => ?_
  simp only [Std.ExtTreeMap.getElem?_filter', Option.filter_eq_some_iff, decide_eq_true_eq]
  -- the claims of the namespace are those whose keys begin with it
  refine and_congr_left fun hns => ⟨fun hbound => ?_, fun hbound => ?_⟩
  · have hclaim := hindex.eq_claimKey hbound hns
    rw [hclaim] at hbound ⊢
    exact (h volume _).mp hbound
  · have hclaim := hother.eq_claimKey hbound hns
    rw [hclaim] at hbound ⊢
    exact (h volume _).mpr hbound

/-- Indices that agree on the claims of a namespace and on the pods that mount them have the same
chains there. -/
theorem volumeChains_congr (hindex : index.Keyed)
    (hbindings : index.bindingsWithin ns = other.bindingsWithin ns)
    (hoffers : index.SameOffers other)
    (hpods : ∀ name, index.claimPods[claimKey ns name]? = other.claimPods[claimKey ns name]?)
    (sample : UsageSample) :
    index.volumeChains sample ns = other.volumeChains sample ns := by
  rw [volumeChains_eq, volumeChains_eq, ← hbindings]
  refine List.flatMap_congr fun ⟨volume, claim⟩ hbinding => ?_
  obtain ⟨hbound, hns⟩ := mem_bindingsWithin.mp hbinding
  have hclaim := hpods (claimName claim)
  rw [← hindex.eq_claimKey hbound hns] at hclaim
  rw [chainsThrough, chainsThrough, podsOf, podsOf, hclaim, roomOf_congr hoffers]

end StorageIndex

/-! ### What there is of a cluster -/

/-- What there is of a sample, with nothing of it used. -/
def Sample.unused (sample : Sample) : Sample :=
  { sample with cpuUsed := 0, memoryUsed := 0, podsUsed := 0 }

theorem Sample.unused_sum (samples : List Sample) :
    (sum samples).unused = sum (samples.map unused) := by
  rw [sum, sum, List.foldl_map]
  exact (List.foldl_hom unused fun x y => by simp [add, unused]).symm

namespace ClusterState

variable {state other : ClusterState} {ns : String}

/-- What there is of the nodes depends on the nodes alone. -/
theorem map_unused_nodeSamples (state : ClusterState) :
    state.nodeSamples.map (fun _ sample => sample.unused) =
      state.stores.nodes.toList.foldl
        (fun samples node => samples.insert (ClusterObject.name node) (Sample.ofNode node .zero 0))
          ∅ := by
  refine
    (List.foldl_hom (Std.ExtTreeMap.map fun _ (sample : Sample) => sample.unused)
      fun samples node => ?_).symm
  exact (map_insert samples (ClusterObject.name node) (state.nodeSample node) _).symm

/-- What there is of the cluster depends on the nodes alone. -/
theorem unused_clusterSample_congr (h : state.stores.nodes.toList = other.stores.nodes.toList) :
    state.clusterSample.unused = other.clusterSample.unused := by
  have hunused (state : ClusterState) : state.clusterSample.unused =
      Sample.sum ((state.nodeSamples.map fun _ sample => sample.unused).toList.map (·.2)) := by
    rw [clusterSample, Sample.unused_sum, Std.ExtTreeMap.toList_map, List.map_map, List.map_map]
    rfl
  rw [hunused, hunused, map_unused_nodeSamples, map_unused_nodeSamples, h]

/-! ### Agreement -/

/-- Two states that differ in the pods, the reported usage, the quotas and the claims of other
namespaces only. -/
structure AgreeWithin (ns : String) (state other : ClusterState) : Prop where
  /-- The namespaces are the same. -/
  namespaces : state.stores.namespaces.toList = other.stores.namespaces.toList
  /-- The nodes are the same. -/
  nodes : state.stores.nodes.toList = other.stores.nodes.toList
  /-- The usage sample is the same. -/
  sample : state.sample = other.sample
  /-- The volumes offer the same. -/
  volumes : state.storage.SameOffers other.storage
  /-- The namespace has the same pods. -/
  pods : ∀ pod, ClusterObject.ns pod = ns →
    (pod ∈ state.stores.pods.toList ↔ pod ∈ other.stores.pods.toList)
  /-- The same usage is reported of pods of the namespace. -/
  usages : ((state.metrics.pods.getD []).filter (·.ns = ns)).Perm
    ((other.metrics.pods.getD []).filter (·.ns = ns))
  /-- The namespace has the same quotas. -/
  quotas : ∀ quota, ClusterObject.ns quota = ns →
    (quota ∈ state.stores.resourceQuotas.toList ↔ quota ∈ other.stores.resourceQuotas.toList)
  /-- The same volumes are bound to claims of the namespace. -/
  claims : ∀ volume name : String, state.storage.boundClaims[volume]? =
    some (claimKey ns name) ↔
    other.storage.boundClaims[volume]? = some (claimKey ns name)
  /-- The same pods mount the claims of the namespace. -/
  mounts : ∀ name : String,
    state.storage.claimPods[claimKey ns name]? = other.storage.claimPods[claimKey ns name]?

/-- The pods that run in a namespace are a matter of its pods. -/
theorem AgreeWithin.hasRunningPod (h : AgreeWithin ns state other) (name : String) :
    state.hasRunningPod ns name = other.hasRunningPod ns name := by
  rw [Bool.eq_iff_iff, ClusterState.hasRunningPod, ClusterState.hasRunningPod, List.any_eq_true,
    List.any_eq_true]
  simp only [Bool.and_eq_true, decide_eq_true_eq]
  refine exists_congr fun pod => and_congr_left fun hpod => h.pods pod hpod.1.2

instance : RightCommutative Usage.add :=
  ⟨fun x y z => by simp only [Usage.add, UInt64.add_assoc, UInt64.add_comm y.cpuMillis,
    UInt64.add_comm y.memoryBytes]⟩

/-- The usage of a namespace is a matter of its pods and of what is reported of them. -/
theorem AgreeWithin.namespaceUsage (h : AgreeWithin ns state other) :
    state.namespaceUsage ns = other.namespaceUsage ns := by
  -- what is reported of the namespace first, and then what runs of it
  have hcounted (state : ClusterState) : ((state.metrics.pods.getD []).filter fun pod =>
      pod.ns = ns && state.hasRunningPod ns pod.name) =
        ((state.metrics.pods.getD []).filter (·.ns = ns)).filter
          (state.hasRunningPod ns ·.name) := by
    rw [List.filter_filter]
    exact List.filter_congr fun pod _ => Bool.and_comm _ _
  rw [ClusterState.namespaceUsage, ClusterState.namespaceUsage, hcounted, hcounted]
  simp only [h.hasRunningPod]
  -- the reports may come in another order, in which the sum is the same
  exact ((h.usages.filter _).map _).foldl_eq _

/-- The limit of the quotas is the least that one of them sets. -/
theorem quotaLimit?_eq_min? (state : ClusterState) (ns key : String)
    (limitOf : Resources → String → UInt64) :
    state.quotaLimit? ns key limitOf =
      ((state.stores.resourceQuotas.within ns).filterMap fun quota =>
        if quota.hard.contains key then some (limitOf quota.hard key) else none).min? := by
  rw [quotaLimit?]
  generalize (state.stores.resourceQuotas.within ns).filterMap _ = limits
  cases limits with
  | nil => rfl
  | cons first rest => exact List.foldl_hom some fun _ _ => rfl

/-- The limits of a namespace are a matter of its quotas. -/
theorem AgreeWithin.quotaLimit? (h : AgreeWithin ns state other) (key : String)
    (limitOf : Resources → String → UInt64) :
    state.quotaLimit? ns key limitOf = other.quotaLimit? ns key limitOf := by
  have hquota (quota : ResourceQuota) : quota ∈ state.stores.resourceQuotas.within ns ↔
      quota ∈ other.stores.resourceQuotas.within ns := by
    rw [Store.within, Store.within, List.mem_filter, List.mem_filter]
    refine and_congr_left fun hns => h.quotas quota ?_
    rw [ClusterObject.ns, Metadata.nsText, of_decide_eq_true hns, Option.getD_some]
  rw [quotaLimit?_eq_min?, quotaLimit?_eq_min?]
  refine Option.ext fun limit => ?_
  -- the least limit does not depend on the order of the quotas
  simp only [List.min?_eq_some_iff, List.mem_filterMap, hquota]

/-- The storage of the cluster is a matter of what the volumes offer. -/
theorem AgreeWithin.clusterStorage (h : AgreeWithin ns state other) :
    state.clusterStorage = other.clusterStorage := by
  rw [ClusterState.clusterStorage, ClusterState.clusterStorage, h.sample,
    StorageIndex.classTotals_congr h.volumes]

/-- In states that differ in other namespaces only, the same is measured of a namespace. -/
theorem gaugesWithin_congr (hstate : state.storage.Keyed) (hother : other.storage.Keyed)
    (h : AgreeWithin ns state other) : state.gaugesWithin ns = other.gaugesWithin ns := by
  -- of the cluster, only what there is of it is compared with
  have hcluster := unused_clusterSample_congr h.nodes
  obtain ⟨hcpu, -, hmemory, -⟩ := Sample.mk.inj hcluster
  have hbindings := StorageIndex.bindingsWithin_congr hstate hother h.claims
  have hused : state.storage.namespaceUsed state.sample ns =
      other.storage.namespaceUsed other.sample ns := by
    rw [StorageIndex.namespaceUsed, StorageIndex.namespaceUsed, hbindings, h.sample]
  have hchains := StorageIndex.volumeChains_congr hstate hbindings h.volumes h.mounts state.sample
  rw [gaugesWithin, gaugesWithin, ownGauges, ownGauges, h.namespaceUsage, hcpu, hmemory, hused,
    h.clusterStorage, hchains, h.sample]
  simp only [h.quotaLimit?]

/-! ### Isolation -/

end ClusterState

/-- An alert is about a namespace or one of its pods. -/
def Alert.IsAbout (alert : Alert) (ns : String) : Prop :=
  (alert.kind = "Namespace" ∧ alert.name = ns) ∨ (alert.kind = "Pod" ∧ alert.ns = ns)

instance (alert : Alert) (ns : String) : Decidable (alert.IsAbout ns) :=
  inferInstanceAs (Decidable (_ ∨ _))

namespace ClusterState

variable {state other : ClusterState} {ns : String}

/-- What is alerted on within a namespace is about that namespace and no other. -/
theorem isAbout_iff {thresholds : Thresholds} {own : String} {alert : Alert}
    (h : alert ∈ state.alertsWithin thresholds own) : alert.IsAbout ns ↔ own = ns := by
  rw [alertsWithin, List.mem_append, List.mem_map, List.mem_filterMap] at h
  rcases h with ⟨breach, -, rfl⟩ | ⟨chain, -, hchain⟩
  · simp [Alert.IsAbout, Breach.alert]
  · obtain ⟨breach, -, rfl⟩ := Option.map_eq_some_iff.mp hchain
    simp [Alert.IsAbout, Breach.alert]

/-- In states that differ in other namespaces only, the namespace check raises the same alerts about
a namespace and its pods. -/
theorem alerts_isolated (hstate : state.storage.Keyed) (hother : other.storage.Keyed)
    (h : AgreeWithin ns state other) (thresholds : Thresholds) :
    (state.alerts thresholds .perNamespace).filter (·.IsAbout ns) =
      (other.alerts thresholds .perNamespace).filter (·.IsAbout ns) := by
  show (state.namespaceAlerts thresholds).filter _ = (other.namespaceAlerts thresholds).filter _
  rw [namespaceAlerts, namespaceAlerts, List.filter_flatMap, List.filter_flatMap, h.namespaces]
  refine List.flatMap_congr fun own _ => ?_
  -- what is raised about another namespace is filtered out
  by_cases hown : own = ns
  · subst hown
    rw [alertsWithin_eq, alertsWithin_eq, gaugesWithin_congr hstate hother h]
  · have hnone (state : ClusterState) :
        (state.alertsWithin thresholds own).filter (·.IsAbout ns) = [] :=
      List.filter_eq_nil_iff.mpr fun alert halert => by simpa [isAbout_iff halert] using hown
    rw [hnone, hnone]

/-- A cluster of two namespaces, of which one mounts a volume that is nearly full. -/
def quietCluster : ClusterState where
  stores := (Stores.empty.observe (.namespaces (.apply ⟨.basic "a" "1"⟩))).observe
    (.namespaces (.apply ⟨.basic "b" "1"⟩))
  metrics := ⟨none, none⟩
  storage := {
    volumes :=
      .ofList [("disk-a", VolumeInfo.mk 100 "fast" none), ("disk-b", VolumeInfo.mk 100 "fast" none)]
    boundClaims := (∅ : Std.ExtTreeMap String String).insert "disk-a" (claimKey "a" "data")
    claimPods :=
      (∅ : Std.ExtTreeMap String (Std.ExtTreeSet String)).insert (claimKey "a" "data") {"web"}
    podClaims := ∅ }
  sample := .ofList [("/mnt/disk-a", BlockUsage.mk 100 90), ("/mnt/disk-b", BlockUsage.mk 100 90)]

/-- A pod of the other namespace, which mounts a volume that is nearly full, too. -/
def neighbour : Pod :=
  ⟨{ Metadata.basic "db" "2" with ns := some "b" }, none, ["data"], some "Running"⟩

/-- The same cluster with that pod. -/
def busyCluster : ClusterState :=
  { quietCluster with
    stores := quietCluster.stores.observe (.pods (.apply neighbour))
    storage := { quietCluster.storage with
      boundClaims := quietCluster.storage.boundClaims.insert "disk-b" (claimKey "b" "data")
      claimPods := quietCluster.storage.claimPods.insert (claimKey "b" "data") {"db"} } }

/-- A pod in another namespace is alerted on, and the alerts about this one stay the same. -/
theorem alerts_isolated_from_neighbour :
    quietCluster.alerts ⟨0, 0, 50, 0⟩ .perNamespace ≠
      busyCluster.alerts ⟨0, 0, 50, 0⟩ .perNamespace ∧
      (quietCluster.alerts ⟨0, 0, 50, 0⟩ .perNamespace).filter (·.IsAbout "a") =
        (busyCluster.alerts ⟨0, 0, 50, 0⟩ .perNamespace).filter (·.IsAbout "a") := by
  have hquiet : quietCluster.storage.Keyed := by
    intro volume claim hbound
    simp only [quietCluster, Std.ExtTreeMap.getElem?_insert, Std.ExtTreeMap.getElem?_empty,
      Option.ite_none_right_eq_some, Option.some.injEq] at hbound
    exact hbound.2 ▸ hasSeparator_claimKey _ _
  have hbusy : busyCluster.storage.Keyed := by
    intro volume claim hbound
    simp only [busyCluster, Std.ExtTreeMap.getElem?_insert] at hbound
    split at hbound
    next => exact Option.some.inj hbound ▸ hasSeparator_claimKey _ _
    next => exact hquiet volume claim hbound
  have hapart (name : String) : claimKey "b" "data" ≠ claimKey "a" name := fun heq =>
    absurd ((claimKey_inj (by decide) (by decide)).mp heq).1 (by decide)
  -- the clusters differ in a pod and in the binding of a volume, both of the other namespace
  have hagree : AgreeWithin "a" quietCluster busyCluster := by
    refine ⟨rfl, rfl, rfl, fun _ => rfl, fun pod hpod => ?_, .refl _, fun _ _ => .rfl,
      fun volume name => ?_, fun name => ?_⟩
    · show pod ∈ [] ↔ pod ∈ [neighbour]
      rw [List.mem_singleton, iff_comm, iff_false_right List.not_mem_nil]
      rintro rfl
      exact absurd hpod (by decide)
    · simp only [busyCluster, Std.ExtTreeMap.getElem?_insert, Std.LawfulEqCmp.compare_eq_iff_eq]
      split
      next hvolume =>
        have hfree : quietCluster.storage.boundClaims["disk-b"]? = none := by decide
        simp [← hvolume, hfree, hapart]
      next => rfl
    · simp only [busyCluster, Std.ExtTreeMap.getElem?_insert, Std.LawfulEqCmp.compare_eq_iff_eq,
        if_neg (hapart name)]
  exact ⟨by decide +kernel, alerts_isolated hquiet hbusy hagree _⟩

end ClusterState

end ClusterWatch
