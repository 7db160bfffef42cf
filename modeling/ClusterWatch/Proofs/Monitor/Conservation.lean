import ClusterWatch.Proofs.Monitor.Totals

/-!
# Conservation of usage

The monitor adds up what the nodes offer and use, joins the pods to their nodes by rescanning them
for every node, and joins the reported usage of pods to the cached pods by namespace and name. Where
no two nodes have the same name, nothing gets lost in this and nothing is counted twice.

* `ClusterState.nodeSamples_perm` — there is one sample for each node.
* `ClusterState.flatMap_runningPodsOn_perm` — the running pods of cached nodes,
  taken node by node.
* `ClusterState.usageByNamespace` — the usage of all namespaces, gathered in one walk
  along the report.
* `ClusterState.Conserved`, `ClusterState.conserved_of_nodup` — what the totals are made of.
-/

namespace ClusterWatch

/-! ### Sums -/

/-- A sum does not depend on the order of its parts. -/
theorem IsSum.perm {total : UInt64} {parts others : List UInt64} (h : IsSum total parts)
    (hperm : parts.Perm others) :
    IsSum total others := by
  have hsum : (parts.map UInt64.toNat).sum = (others.map UInt64.toNat).sum := (hperm.map _).sum_eq
  rw [IsSum, ← hsum]
  exact h

namespace ClusterState

variable {state : ClusterState}

/-! ### Nodes and their pods -/

/-- The names of the cached nodes. -/
def nodeNames (state : ClusterState) : List String :=
  state.stores.nodes.toList.map ClusterObject.name

/-- The cached pods that run on a cached node. -/
def runningPods (state : ClusterState) : List Pod :=
  state.stores.pods.toList.filter fun pod =>
    pod.isRunning && pod.nodeName.any (· ∈ state.nodeNames)

/-- The cached pods that run on the node of a name. -/
def runningPodsOn (state : ClusterState) (name : String) : List Pod :=
  (state.stores.podsOnNode name).filter Pod.isRunning

/-- There is one sample for each node, if no two nodes have one name. -/
theorem nodeSamples_perm (hdistinct : state.nodeNames.Nodup) :
    (state.nodeSamples.toList.map (·.2)).Perm
      (state.stores.nodes.toList.map state.nodeSample) := by
  have hentries : state.nodeSamples = (∅ : Std.ExtTreeMap String Sample).insertMany
      (state.stores.nodes.toList.map fun node =>
        (ClusterObject.name node, state.nodeSample node)) := by
    rw [← foldl_insert_eq_insertMany, List.foldl_map]
    rfl
  -- no sample is written over another one
  have hkeys : ((state.stores.nodes.toList.map fun node =>
      (ClusterObject.name node, state.nodeSample node)).map (·.1)).Nodup := by
    rw [List.map_map]
    exact hdistinct
  rw [hentries]
  refine ((toList_insertMany_perm hkeys).map (·.2)).trans (List.Perm.of_eq ?_)
  rw [List.map_map]
  rfl

/-- Every measure of the cluster is the sum over its nodes. -/
theorem isSum_clusterSample (hdistinct : state.nodeNames.Nodup) {measure : Sample → UInt64}
    (hmeasure : measure ∈ Sample.measures) :
    IsSum (measure state.clusterSample)
      (state.stores.nodes.toList.map fun node => measure (state.nodeSample node)) := by
  have hsum :
      IsSum (measure state.clusterSample) ((state.nodeSamples.toList.map (·.2)).map measure) := by
    rw [clusterSample, Sample.measure_sum hmeasure]
    exact isSum_sum _
  refine hsum.perm (((nodeSamples_perm hdistinct).map measure).trans (List.Perm.of_eq ?_))
  rw [List.map_map]
  rfl

/-- The running pods of cached nodes, taken node by node. -/
theorem flatMap_runningPodsOn_perm (hdistinct : state.nodeNames.Nodup) :
    (state.nodeNames.flatMap state.runningPodsOn).Perm state.runningPods := by
  -- the pods of one node are those of all nodes that name this one
  have hown {name : String} (hname : name ∈ state.nodeNames) :
      state.runningPodsOn name = state.runningPods.filter (·.nodeName = some name) := by
    rw [runningPodsOn, Stores.podsOnNode, runningPods, List.filter_filter, List.filter_filter]
    apply List.filter_congr
    intro pod _
    by_cases hnode : pod.nodeName = some name
    · simp [hnode, hname]
    · simp [hnode]
  have hnodes : (state.nodeNames.map some).Nodup := hdistinct.map (Option.some_injective _)
  have hgroups : state.nodeNames.flatMap state.runningPodsOn =
      (state.nodeNames.map some).flatMap fun node =>
        state.runningPods.filter (·.nodeName = node) := by
    rw [List.flatMap_map]
    exact List.flatMap_congr fun name hname => hown hname
  rw [hgroups]
  refine flatMap_filter_perm Pod.nodeName hnodes fun pod hpod => ?_
  have hcached := (List.mem_filter.mp hpod).2
  rw [Bool.and_eq_true, Option.any_eq_true] at hcached
  obtain ⟨-, name, hname, hmem⟩ := hcached
  exact List.mem_map.mpr ⟨name, of_decide_eq_true hmem, hname.symm⟩

/-- The cluster counts every running pod once. -/
theorem podsUsed_clusterSample (hdistinct : state.nodeNames.Nodup)
    (hroom : state.runningPods.length < UInt64.size) :
    state.clusterSample.podsUsed.toNat = state.runningPods.length := by
  -- the counts of the nodes are those of the parts of all running pods
  have hlength : (state.nodeNames.map fun name => (state.runningPodsOn name).length).sum =
      state.runningPods.length := by
    rw [← List.length_flatMap]
    exact (flatMap_runningPodsOn_perm hdistinct).length_eq
  have hmeasure : Sample.podsUsed ∈ Sample.measures := by simp [Sample.measures]
  have hsum := isSum_clusterSample hdistinct hmeasure
  have hparts : (state.stores.nodes.toList.map fun node => (state.nodeSample node).podsUsed) =
      (state.nodeNames.map fun name => (state.runningPodsOn name).length).map UInt64.ofNat := by
    rw [nodeNames, List.map_map, List.map_map]
    rfl
  rw [hparts, IsSum, map_toNat_ofNat (hlength ▸ hroom), hlength] at hsum
  exact hsum hroom

/-! ### Reported usage -/

/-- The reported entries of which a running pod of that namespace and name is cached. -/
def countedEntries (state : ClusterState) : List PodUsage :=
  (state.metrics.pods.getD []).filter fun entry => state.hasRunningPod entry.ns entry.name

/-- The usage by namespace, as a walk along the entries gathers it. -/
def usageByNamespace (state : ClusterState) : Std.ExtTreeMap String Usage :=
  state.countedEntries.foldl (fun usages entry =>
    usages.insert entry.ns ((usages[entry.ns]?.getD .zero).add entry.usage)) ∅

/-- What is summed for a namespace are the entries that count and belong to it. -/
theorem runningUsages_eq (state : ClusterState) (ns : String) :
    state.runningUsages ns = (state.countedEntries.filter (·.ns = ns)).map PodUsage.usage := by
  rw [runningUsages, countedEntries, List.filter_filter]
  congr 1
  apply List.filter_congr
  intro entry _
  by_cases hns : entry.ns = ns
  · simp [hns]
  · simp [hns]

/-- A namespace has a usage exactly if some entry of it counts. -/
theorem getElem?_usageByNamespace (state : ClusterState) (ns : String) :
    state.usageByNamespace[ns]? =
      if state.countedEntries.filter (·.ns = ns) = [] then none
        else some (state.namespaceUsage ns) := by
  rw [namespaceUsage_eq, runningUsages_eq, Usage.sum, List.foldl_map]
  exact getElem?_foldl_group PodUsage.ns Usage.zero
    (fun usage entry => usage.add entry.usage) state.countedEntries ns

/-- The walk comes to the usage of each namespace, and to none where nothing is reported of it. -/
theorem getD_usageByNamespace (state : ClusterState) (ns : String) :
    state.usageByNamespace[ns]?.getD .zero = state.namespaceUsage ns := by
  rw [getElem?_usageByNamespace]
  split
  next hnone =>
    rw [namespaceUsage_eq, runningUsages_eq, hnone]
    rfl
  next => rfl

/-- Every measure of a namespace is the sum over its entries that count. -/
theorem isSum_namespaceUsage (state : ClusterState) (ns : String) {measure : Usage → UInt64}
    (hmeasure : measure ∈ Usage.measures) :
    IsSum (measure (state.namespaceUsage ns))
      ((state.countedEntries.filter (·.ns = ns)).map fun entry => measure entry.usage) := by
  rw [namespaceUsage_eq, Usage.measure_sum hmeasure, runningUsages_eq, List.map_map]
  exact isSum_sum _

/-- Over all namespaces, the usage is that of all entries that count. -/
theorem sum_usageByNamespace {measure : Usage → UInt64} (hmeasure : measure ∈ Usage.measures)
    (hroom :
      (state.countedEntries.map fun entry => (measure entry.usage).toNat).sum < UInt64.size) :
    (state.usageByNamespace.toList.map fun usage => (measure usage.2).toNat).sum =
      (state.countedEntries.map fun entry => (measure entry.usage).toNat).sum := by
  have hown {usage : String × Usage} (husage : usage ∈ state.usageByNamespace.toList) :
      (measure usage.2).toNat =
        ((state.countedEntries.filter (·.ns = usage.1)).map fun entry =>
          (measure entry.usage).toNat).sum := by
    rcases usage with ⟨ns, usage⟩
    rw [Std.ExtTreeMap.mem_toList_iff_getElem?_eq_some] at husage
    obtain rfl : state.namespaceUsage ns = usage := by
      rw [← getD_usageByNamespace, husage, Option.getD_some]
    have hsum := isSum_namespaceUsage state ns hmeasure
    rw [IsSum, List.map_map] at hsum
    -- what a namespace uses is a part of what all of them use
    exact hsum
      (Nat.lt_of_le_of_lt ((List.filter_sublist.map _).sum_le_sum fun _ _ => Nat.zero_le _) hroom)
  have hdistinct : (state.usageByNamespace.toList.map (·.1)).Nodup := by
    rw [Std.ExtTreeMap.map_fst_toList_eq_keys]
    exact Std.ExtTreeMap.nodup_keys
  have hkeys : ∀ entry ∈ state.countedEntries, entry.ns ∈
      state.usageByNamespace.toList.map (·.1) := by
    intro entry hentry
    have hsome : state.countedEntries.filter (·.ns = entry.ns) ≠ [] :=
      List.ne_nil_of_mem (List.mem_filter.mpr ⟨hentry, decide_eq_true rfl⟩)
    rw [Std.ExtTreeMap.map_fst_toList_eq_keys, Std.ExtTreeMap.mem_keys,
      Std.ExtTreeMap.mem_iff_isSome_getElem?, getElem?_usageByNamespace, if_neg hsome]
    rfl
  have hperm := flatMap_filter_perm PodUsage.ns hdistinct hkeys
  calc (state.usageByNamespace.toList.map fun usage => (measure usage.2).toNat).sum
    _ = (state.usageByNamespace.toList.map fun usage =>
          ((state.countedEntries.filter (·.ns = usage.1)).map fun entry =>
            (measure entry.usage).toNat).sum).sum := by
        rw [List.map_congr_left fun _ => hown]
    _ =
      (((state.usageByNamespace.toList.map (·.1)).flatMap fun ns =>
        state.countedEntries.filter (·.ns = ns)).map
          fun entry => (measure entry.usage).toNat).sum := by
        rw [List.flatMap_map, List.map_flatMap, List.flatMap_def, List.sum_flatten, List.map_map]
        rfl
    _ = (state.countedEntries.map fun entry => (measure entry.usage).toNat).sum :=
    (hperm.map _).sum_eq

/-! ### The result -/

/-- What the totals of a cluster are made of. -/
structure Conserved (state : ClusterState) : Prop where
  /-- There is one sample for each node. -/
  samples :
    (state.nodeSamples.toList.map (·.2)).Perm (state.stores.nodes.toList.map state.nodeSample)
  /-- Each dimension of the cluster is the sum of that of the samples. -/
  cluster : ∀ measure ∈ Sample.measures,
    IsSum (measure state.clusterSample)
      (state.stores.nodes.toList.map fun node => measure (state.nodeSample node))
  /-- The used room for pods is the number of the cached running pods whose node is cached. -/
  pods : state.runningPods.length < UInt64.size →
    state.clusterSample.podsUsed.toNat = state.runningPods.length
  /-- The usage of a namespace is the sum of that of its own entries, as far as a running pod is
  cached of them. -/
  own : ∀ ns : String, ∀ measure ∈ Usage.measures, IsSum (measure (state.namespaceUsage ns))
    ((state.countedEntries.filter (·.ns = ns)).map fun entry => measure entry.usage)
  /-- This is what one walk along all entries comes to. -/
  walk : ∀ ns : String, state.usageByNamespace[ns]?.getD .zero = state.namespaceUsage ns
  /-- Over all namespaces, the usage is the sum of that of all entries of which a running
  pod is cached. -/
  everyNamespace : ∀ measure ∈ Usage.measures,
    (state.countedEntries.map fun entry => (measure entry.usage).toNat).sum < UInt64.size →
      (state.usageByNamespace.toList.map fun usage => (measure usage.2).toNat).sum =
        (state.countedEntries.map fun entry => (measure entry.usage).toNat).sum

/-- Where the nodes have different names, nothing gets lost on the way to the totals, and nothing is
counted twice. -/
theorem conserved_of_nodup (state : ClusterState) (hdistinct : state.nodeNames.Nodup) :
    state.Conserved where
  samples := nodeSamples_perm hdistinct
  cluster _ hmeasure := isSum_clusterSample hdistinct hmeasure
  pods hroom := podsUsed_clusterSample hdistinct hroom
  own ns _ hmeasure := isSum_namespaceUsage state ns hmeasure
  walk ns := getD_usageByNamespace state ns
  everyNamespace _ hmeasure hroom := sum_usageByNamespace hmeasure hroom

/-- A running pod on a node. -/
def podOn (ns name node : String) : Pod :=
  ⟨{ Metadata.basic name "1" with ns := some ns }, some node, [], some "Running"⟩

/-- A cluster of two nodes. Pods of one name run in two namespaces, and one pod runs on a node that
is not known. What is reported tells of a pod that is gone, too. -/
def strayCluster : ClusterState where
  stores :=
    [.nodes (.apply ⟨.basic "n1" "1", none, [], ∅⟩),
      .nodes (.apply ⟨.basic "n2" "1", none, [], ∅⟩),
    .pods (.apply (podOn "a" "db" "n1")), .pods (.apply (podOn "b" "db" "n2")),
    .pods (.apply (podOn "a" "stray" "n3"))].foldl Stores.observe .empty
  metrics :=
    ⟨none,
      some [⟨"a", "db", ⟨1, 0⟩⟩, ⟨"b", "db", ⟨20, 0⟩⟩,
        ⟨"a", "gone", ⟨300, 0⟩⟩,
    ⟨"a", "stray", ⟨4000, 0⟩⟩]⟩
  storage := .empty
  sample := ∅

/-- The stray pod counts for its namespace, and for no node; the pod that is gone does not
count at all. -/
theorem conserved_with_stray_pod :
    strayCluster.nodeNames.Nodup ∧ strayCluster.clusterSample.podsUsed.toNat = 2 ∧
      (strayCluster.usageByNamespace.toList.map fun usage => usage.2.cpuMillis.toNat).sum =
        4021 := by
  have hdistinct : strayCluster.nodeNames.Nodup := by decide +kernel
  have hconserved := conserved_of_nodup strayCluster hdistinct
  refine ⟨hdistinct, ?_, ?_⟩
  · rw [hconserved.pods (by decide +kernel)]
    decide +kernel
  · rw [hconserved.everyNamespace Usage.cpuMillis (by simp [Usage.measures]) (by decide +kernel)]
    decide +kernel

end ClusterState

end ClusterWatch
