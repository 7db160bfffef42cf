import Mathlib.Algebra.Order.BigOperators.Group.List
import Mathlib.Algebra.Order.Group.Nat
import ClusterWatch.Monitor.Checks
import ClusterWatch.Proofs.Storage.Classes

/-!
# Totals

What the monitor compares with its thresholds are totals of 64-bit words: over the nodes, the
containers of a pod, the pods of a namespace and the volumes. The words come from others and may be
as large as they like, so that a total can overflow. It is what it should be as long as the exact
sum is a 64-bit number, and only then.

* `checkedSums?_eq_some_iff` — no addition overflows if the exact sum does not.
* `IsTally`, `isTally_sum` — what a total says of the exact sum.
* `ClusterState.Tallied`, `ClusterState.tallied` — all totals of the monitor and of storage.
* `ClusterState.full_class_unnoticed` — a full class of storage whose total is zero.
-/

namespace ClusterWatch

/-! ### Sums of words in groups -/

/-- The sum of all words of several groups, without any bound. -/
def exactSum (groups : List (List UInt64)) : Nat :=
  (groups.flatten.map UInt64.toNat).sum

/-- The sum of two words, none if it overflows. -/
def checkedAdd? (x y : UInt64) : Option UInt64 :=
  if x.toNat + y.toNat < UInt64.size then some (x + y) else none

/-- The sum of words that are added up one after another, none if one of the additions overflows. -/
def checkedSum? (words : List UInt64) : Option UInt64 :=
  words.foldlM checkedAdd? 0

/-- The sum of words that are added up within each group first, and then over the groups. -/
def checkedSums? (groups : List (List UInt64)) : Option UInt64 :=
  (groups.mapM checkedSum?).bind checkedSum?

/-- A sum that fits the word is the sum of the numbers. -/
theorem toNat_add_of_lt {x y : UInt64} (h : x.toNat + y.toNat < UInt64.size) :
    (x + y).toNat = x.toNat + y.toNat := by
  rw [UInt64.toNat_add]
  exact Nat.mod_eq_of_lt h

/-- Two words are added with a check exactly if their sum is that of the numbers. -/
theorem checkedAdd?_eq_some_iff {x y sum : UInt64} :
    checkedAdd? x y = some sum ↔ sum.toNat = x.toNat + y.toNat := by
  -- a sum that is a word has room in one
  have hsum := sum.toNat_lt_size
  rw [checkedAdd?]
  constructor
  · intro h
    split at h <;> cases h
    next hroom => exact toNat_add_of_lt hroom
  · intro h
    rw [h] at hsum
    rw [if_pos hsum, Option.some.injEq, ← UInt64.toNat_inj, toNat_add_of_lt hsum, h]

/-- Words are added up if their exact sum is a word: no addition on the way
overflows before that. -/
theorem checkedSum?_eq_some_iff {words : List UInt64} {total : UInt64} :
    checkedSum? words = some total ↔ total.toNat = (words.map UInt64.toNat).sum := by
  -- along the list, the sum so far takes the place of the zero at the start
  have hfrom (start : UInt64) : words.foldlM checkedAdd? start = some total ↔
      total.toNat = start.toNat + (words.map UInt64.toNat).sum := by
    induction words generalizing start with
    | nil => simp [← UInt64.toNat_inj, eq_comm]
    | cons word words ih =>
      simp only [List.foldlM_cons, Option.bind_eq_bind, Option.bind_eq_some_iff,
        checkedAdd?_eq_some_iff, ih, List.map_cons, List.sum_cons]
      constructor
      · rintro ⟨sum, hsum, htotal⟩
        omega
      · intro htotal
        have hlt := total.toNat_lt_size
        have hsum : (start + word).toNat = start.toNat + word.toNat := toNat_add_of_lt (by omega)
        exact ⟨start + word, hsum, by omega⟩
  rw [checkedSum?, hfrom]
  simp

/-- The exact sum of groups is the sum of their exact sums. -/
theorem exactSum_eq (groups : List (List UInt64)) :
    exactSum groups = (groups.map fun words => (words.map UInt64.toNat).sum).sum := by
  rw [exactSum, List.map_flatten, List.sum_flatten, List.map_map]
  rfl

/-- All groups are summed with a check exactly if each sum is that of the numbers. -/
theorem mapM_checkedSum?_eq_some_iff {groups : List (List UInt64)} {sums : List UInt64} :
    groups.mapM checkedSum? = some sums ↔
      sums.map UInt64.toNat = groups.map fun words => (words.map UInt64.toNat).sum := by
  induction groups generalizing sums with
  | nil => simp [eq_comm]
  | cons words groups ih =>
    simp only [List.mapM_cons, Option.bind_eq_bind, Option.bind_eq_some_iff,
      checkedSum?_eq_some_iff, ih]
    cases sums with
    | nil => simp
    | cons sum sums => simp [and_comm]

/-- Numbers whose sum fits the word fit it themselves. -/
theorem map_toNat_ofNat {numbers : List Nat} (h : numbers.sum < UInt64.size) :
    (numbers.map UInt64.ofNat).map UInt64.toNat = numbers := by
  rw [List.map_map]
  refine (List.map_congr_left fun number hnumber => ?_).trans (List.map_id _)
  exact UInt64.toNat_ofNat_of_lt' (Nat.lt_of_le_of_lt (List.le_sum_of_mem hnumber) h)

/-- Groups of words are added up if their exact sum is a word. -/
theorem checkedSums?_eq_some_iff {groups : List (List UInt64)} {total : UInt64} :
    checkedSums? groups = some total ↔ total.toNat = exactSum groups := by
  simp only [checkedSums?, Option.bind_eq_some_iff, mapM_checkedSum?_eq_some_iff,
    checkedSum?_eq_some_iff, exactSum_eq]
  constructor
  · rintro ⟨sums, hsums, htotal⟩
    rw [htotal, hsums]
  · intro htotal
    -- the sums of the groups are words, since their own sum is one
    have hsums :
        ((groups.map fun words => (words.map UInt64.toNat).sum).map UInt64.ofNat).map UInt64.toNat =
        groups.map fun words => (words.map UInt64.toNat).sum :=
      map_toNat_ofNat (htotal ▸ total.toNat_lt_size)
    exact ⟨_, hsums, by rw [hsums, htotal]⟩

/-! ### Totals -/

/-- The total of groups of words that are added up as 64-bit numbers. -/
structure IsTally (total : UInt64) (groups : List (List UInt64)) : Prop where
  /-- It is the exact sum, but for what overflows. -/
  wrapped : total.toNat = exactSum groups % UInt64.size
  /-- No addition overflows, and the total is the exact sum or the largest 64-bit number in place of
  a larger one, exactly if the exact sum is a 64-bit number. -/
  saturates_iff :
    (checkedSums? groups = some total ∧ total.toNat = min (UInt64.size - 1) (exactSum groups)) ↔
    exactSum groups < UInt64.size

/-- Sums of sums are totals. -/
theorem isTally_sum (groups : List (List UInt64)) : IsTally (groups.map List.sum).sum groups := by
  -- the wrapped sum of the wrapped sums is that of all words
  have hwrapped : (groups.map List.sum).sum.toNat = exactSum groups % UInt64.size := by
    rw [← List.sum_flatten, toNat_sum, exactSum]
  refine ⟨hwrapped, ?_⟩
  rw [checkedSums?_eq_some_iff]
  constructor
  · rintro ⟨hexact, -⟩
    exact hexact ▸ UInt64.toNat_lt_size _
  · intro hroom
    rw [Nat.mod_eq_of_lt hroom] at hwrapped
    exact ⟨hwrapped, by omega⟩

/-- A sum within the word is a tally of one group. -/
theorem isTally_singleton (words : List UInt64) : IsTally words.sum [words] := by
  have h := isTally_sum [words]
  simpa using h

/-- A measure of things that are put together step by step is the sum of what it is of each. -/
theorem measure_foldl {α : Type} {add : α → α → α} {zero : α} {measure : α → UInt64}
    (hzero : measure zero = 0) (hadd : ∀ x y, measure (add x y) = measure x + measure y)
    (parts : List α) :
    measure (parts.foldl add zero) = (parts.map measure).sum := by
  rw [List.sum_eq_foldl, List.foldl_map, ← hzero]
  exact (List.foldl_hom measure fun x y => (hadd x y).symm).symm

/-! ### What is put together -/

/-- The dimensions of a sample. -/
def Sample.measures : List (Sample → UInt64) :=
  [cpu, cpuUsed, memory, memoryUsed, pods, podsUsed]

/-- The dimensions of a usage. -/
def Usage.measures : List (Usage → UInt64) :=
  [cpuMillis, memoryBytes]

/-- Samples are summed measure by measure. -/
theorem Sample.measure_sum {measure : Sample → UInt64} (h : measure ∈ measures)
    (samples : List Sample) :
    measure (sum samples) = (samples.map measure).sum := by
  have hadditive : measure zero = 0 ∧ ∀ x y, measure (add x y) = measure x + measure y := by
    simp only [measures, List.mem_cons, List.not_mem_nil, or_false] at h
    obtain rfl | rfl | rfl | rfl | rfl | rfl := h
    all_goals exact ⟨rfl, fun _ _ => rfl⟩
  exact measure_foldl hadditive.1 hadditive.2 samples

/-- So are usages. -/
theorem Usage.measure_sum {measure : Usage → UInt64} (h : measure ∈ measures)
    (usages : List Usage) :
    measure (sum usages) = (usages.map measure).sum := by
  have hadditive : measure zero = 0 ∧ ∀ x y, measure (add x y) = measure x + measure y := by
    simp only [measures, List.mem_cons, List.not_mem_nil, or_false] at h
    obtain rfl | rfl := h
    all_goals exact ⟨rfl, fun _ _ => rfl⟩
  exact measure_foldl hadditive.1 hadditive.2 usages

/-- The usages of the containers of a pod that a report tells of. -/
def Usage.containersOf (report : Json) : List Usage :=
  ((((report.member? "containers").bind Json.items?).getD []).filterMap
    (·.member? "usage")).map ofJson

/-- The usage of a pod is the sum over the containers of its report. -/
theorem Usage.ofPodJson_eq (report : Json) : ofPodJson report = sum (containersOf report) :=
  rfl

namespace StorageIndex

variable {index : StorageIndex} {sample : UsageSample}

/-- What the volumes of each class offer, in the order of the classes. -/
def capacities (index : StorageIndex) (sample : UsageSample) : List (List UInt64) :=
  (index.classTotals sample).toList.map fun storageClass =>
    (index.volumesOf storageClass.1).map (·.2.capacity)

/-- The totals of a class are those of its volumes. -/
theorem total_of_getElem?_classTotals {storageClass : String} {total : StorageTotal}
    (h : (index.classTotals sample)[storageClass]? = some total) :
    total = ⟨((index.volumesOf storageClass).map (·.2.capacity)).sum,
      ((index.volumesOf storageClass).map fun volume => sample.usedOf volume.1).sum⟩ := by
  rw [getElem?_classTotals] at h
  split at h <;> cases h
  rfl

/-- The total of a class is the sum of its capacities. -/
theorem map_total_classTotals (index : StorageIndex) (sample : UsageSample) :
    (index.classTotals sample).toList.map (·.2.total) =
      (index.capacities sample).map List.sum := by
  rw [capacities, List.map_map]
  refine List.map_congr_left fun ⟨storageClass, total⟩ hclass => ?_
  rw [Std.ExtTreeMap.mem_toList_iff_getElem?_eq_some] at hclass
  rw [total_of_getElem?_classTotals hclass]
  rfl

/-- Every volume stands in one class. -/
theorem flatten_capacities_perm (index : StorageIndex) (sample : UsageSample) :
    (index.capacities sample).flatten.Perm (index.volumes.toList.map (·.2.capacity)) := by
  have hflatten : (index.capacities sample).flatten =
      (((index.classTotals sample).toList.map (·.1)).flatMap index.volumesOf).map
        (·.2.capacity) := by
    rw [capacities, List.flatMap_map, List.map_flatMap, List.flatMap_def]
  have hdistinct : ((index.classTotals sample).toList.map (·.1)).Nodup := by
    rw [Std.ExtTreeMap.map_fst_toList_eq_keys]
    exact Std.ExtTreeMap.nodup_keys
  rw [hflatten]
  apply List.Perm.map
  apply flatMap_filter_perm (fun volume : String × VolumeInfo => volume.2.storageClass) hdistinct
  intro volume hvolume
  -- the class of a volume has totals, since it has this volume
  have hsome : index.volumesOf volume.2.storageClass ≠ [] :=
    List.ne_nil_of_mem (List.mem_filter.mpr ⟨hvolume, decide_eq_true rfl⟩)
  rw [Std.ExtTreeMap.map_fst_toList_eq_keys, Std.ExtTreeMap.mem_keys,
    Std.ExtTreeMap.mem_iff_isSome_getElem?, getElem?_classTotals, if_neg hsome]
  rfl

end StorageIndex

namespace ClusterState

/-- The reported usages of the running pods of a namespace. -/
def runningUsages (state : ClusterState) (ns : String) : List Usage :=
  ((state.metrics.pods.getD []).filter fun pod =>
    pod.ns = ns && state.hasRunningPod ns pod.name).map PodUsage.usage

/-- The usage of a namespace is the sum over the running pods that have an entry in it. -/
theorem namespaceUsage_eq (state : ClusterState) (ns : String) :
    state.namespaceUsage ns = Usage.sum (state.runningUsages ns) :=
  rfl

/-- The totals of a cluster, whatever its nodes, volumes, usage sample and usage reports are. -/
structure Tallied (state : ClusterState) : Prop where
  /-- The dimensions of the cluster are totals over its nodes. -/
  cluster : ∀ measure ∈ Sample.measures,
    IsTally (measure state.clusterSample) [state.nodeSamples.toList.map fun node => measure node.2]
  /-- The usage of a pod is a total over its containers. -/
  pod : ∀ report : Json, ∀ measure ∈ Usage.measures,
    IsTally (measure (Usage.ofPodJson report)) [(Usage.containersOf report).map measure]
  /-- The usage of a namespace is a total over its running pods. -/
  namespaceUsage : ∀ ns : String, ∀ measure ∈ Usage.measures,
    IsTally (measure (state.namespaceUsage ns)) [(state.runningUsages ns).map measure]
  /-- What a class of storage offers and what is used of it are totals over its volumes. -/
  classTotals : ∀ (storageClass : String) (total : StorageTotal),
    (state.storage.classTotals state.sample)[storageClass]? = some total →
      IsTally total.total [(state.storage.volumesOf storageClass).map (·.2.capacity)] ∧
        IsTally total.used
          [(state.storage.volumesOf storageClass).map fun volume => state.sample.usedOf volume.1]
  /-- The used storage of a namespace is a total over the volumes that are bound to its claims. -/
  namespaceUsed : ∀ ns : String, IsTally (state.storage.namespaceUsed state.sample ns)
    [(state.storage.bindingsWithin ns).map fun binding => state.sample.usedOf binding.1]
  /-- The storage of the cluster is a total over the volumes of each class, and then
  over the classes. -/
  clusterStorage : IsTally state.clusterStorage (state.storage.capacities state.sample)
  /-- In this, every volume counts once. -/
  everyVolume : (state.storage.capacities state.sample).flatten.Perm
    (state.storage.volumes.toList.map (·.2.capacity))

/-- The totals of every cluster are what they should be as long as the exact sums are 64-bit
numbers, and only then. -/
theorem tallied (state : ClusterState) : state.Tallied where
  -- the plain sums are tallies of one group, those of classes are added up group by group
  cluster measure hmeasure := by
    rw [clusterSample, Sample.measure_sum hmeasure, List.map_map]
    exact isTally_singleton _
  pod report measure hmeasure := by
    rw [Usage.ofPodJson_eq, Usage.measure_sum hmeasure]
    exact isTally_singleton _
  namespaceUsage ns measure hmeasure := by
    rw [namespaceUsage_eq, Usage.measure_sum hmeasure]
    exact isTally_singleton _
  classTotals storageClass total htotal := by
    rw [StorageIndex.total_of_getElem?_classTotals htotal]
    exact ⟨isTally_singleton _, isTally_singleton _⟩
  namespaceUsed ns := by
    rw [StorageIndex.namespaceUsed_eq_sum]
    exact isTally_singleton _
  clusterStorage := by
    rw [ClusterState.clusterStorage, ← List.sum_eq_foldl, StorageIndex.map_total_classTotals]
    exact isTally_sum _
  everyVolume := StorageIndex.flatten_capacities_perm _ _

/-- A cluster with two volumes of a class, which offer more together than a 64-bit number can tell,
and are full but for two bytes. -/
def fullCluster : ClusterState where
  stores := .empty
  metrics := ⟨none, none⟩
  storage :=
    let volume (name version : String) : PersistentVolume :=
      ⟨.basic name version, .ofList [("storage", "9223372036854775808")], some "fast", none, []⟩
    .after [.persistentVolumes (.created (volume "left" "1")),
      .persistentVolumes (.created (volume "right" "2"))]
  sample := .ofList [("/mnt/left", BlockUsage.mk 9223372036854775808 9223372036854775807),
    ("/mnt/right", BlockUsage.mk 9223372036854775808 9223372036854775807)]

/-- The class of the volumes counts as one that offers nothing, and does not breach
any threshold. -/
theorem full_class_unnoticed :
    ∃ total : StorageTotal, (fullCluster.storage.classTotals fullCluster.sample)["fast"]? =
      some total ∧ total.total.toNat ≠
        min (UInt64.size - 1)
          (exactSum [(fullCluster.storage.volumesOf "fast").map (·.2.capacity)]) ∧
      fullCluster.alerts ⟨0, 0, 50, 0⟩ .cluster = [] := by
  refine ⟨⟨0, 18446744073709551614⟩, ?_, ?_, ?_⟩
  all_goals decide +kernel

end ClusterState

end ClusterWatch
