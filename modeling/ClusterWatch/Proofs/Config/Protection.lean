import ClusterWatch.Proofs.Cluster.WellKept
import ClusterWatch.Proofs.Config.Writes

/-!
# Protection from deletion

Whatever a history of deliveries looks like and whatever the stores hold on the way, no write
takes the finalizer off a config that the index knows to be in use, and none puts it on a
config that is not.

* `Config.GoesBy`, `Workload.GoesBy` — the names that objects go by while an event is handled.
* `ConfigWrite.IsJustifiedWithin` — what must hold of a write by the index of a namespace and
  these names; `ConfigWrite.IsJustified` — the same where every object goes by its own name.
* `isJustifiedWithin_of_mem_handle` — one step: every write for an event is justified by the index
  after it, within the namespace that the event is about.
* `index_recorded_and_writes_justified` — a whole history: the index records what the last
  delivery of each workload asks for, and every write on the way is justified.
-/

namespace ClusterWatch

/-! ### The names that objects go by -/

/-- A config goes by a reference within a namespace if the reference is its own there, or if the
stores find the config by it. -/
def Config.GoesBy (stores : Stores) (ns : String) (ref : ConfigRef) (config : Config) : Prop :=
  (config.ns = ns ∧ config.ref = ref) ∨ stores.config? ns ref = some config

/-- A workload goes by a key within a namespace if the key is its own there, or if the stores find
the workload by it. -/
def Workload.GoesBy (stores : Stores) (ns : String) (key : WorkloadKey) (workload : Workload) :
    Prop :=
  (workload.ns = ns ∧ workload.key = key) ∨ stores.workload? ns key = some workload

/-- Where the stores are well kept, a config goes by its own name only. -/
theorem Config.GoesBy.own {stores : Stores} {ns : String} {ref : ConfigRef} {config : Config}
    (h : config.GoesBy stores ns ref) (hkept : stores.WellKept) :
    config.ns = ns ∧ config.ref = ref := by
  rcases h with hown | hfound
  · exact hown
  · exact (hkept.of_config? hfound).2

/-- Where the stores are well kept, a workload goes by its own name only. -/
theorem Workload.GoesBy.own {stores : Stores} {ns : String} {key : WorkloadKey}
    {workload : Workload} (h : workload.GoesBy stores ns key) (hkept : stores.WellKept) :
    workload.ns = ns ∧ workload.key = key := by
  rcases h with hown | hfound
  · exact hown
  · exact (hkept.of_workload? hfound).2

/-! ### Justified writes -/

namespace ConfigWrite

/-- The namespace of the object that a write is about. -/
def ns : ConfigWrite → String
  | .addFinalizer config _ => config.ns
  | .removeFinalizer config _ => config.ns
  | .setConfigHash workload _ => workload.ns

/-- A write that the index of a namespace justifies. A finalizer is only put on a config that lacks
it and is in use, and only taken off one that carries it, waits for its deletion and is out of use;
only a workload of the index is given a config hash. -/
def IsJustifiedWithin (stores : Stores) (ns : String) (index : NamespaceIndex) :
    ConfigWrite → Prop
  | .addFinalizer config finalizer =>
    finalizer = configFinalizer ∧ config.hasFinalizer configFinalizer = false ∧
      ∃ ref, config.GoesBy stores ns ref ∧ index.References ref
  | .removeFinalizer config finalizer =>
    finalizer = configFinalizer ∧ config.isPendingDeletion = true ∧
      config.hasFinalizer configFinalizer = true ∧
      ∃ ref, config.GoesBy stores ns ref ∧ ¬ index.References ref
  | .setConfigHash workload _ =>
    ∃ key refs, workload.GoesBy stores ns key ∧ index.owners[key]? = some refs

/-- A write that the index justifies by the very name and in the very namespace of the object. -/
def IsJustified (index : OwnershipIndex) : ConfigWrite → Prop
  | .addFinalizer config finalizer =>
    finalizer = configFinalizer ∧ config.hasFinalizer configFinalizer = false ∧
      (index.within config.ns).References config.ref
  | .removeFinalizer config finalizer =>
    finalizer = configFinalizer ∧ config.isPendingDeletion = true ∧
      config.hasFinalizer configFinalizer = true ∧
      ¬ (index.within config.ns).References config.ref
  | .setConfigHash workload _ =>
    ∃ refs, (index.within workload.ns).owners[workload.key]? = some refs

/-- Where the stores are well kept, a justified write is about an object of the namespace, and
justified by the name of the object. -/
theorem IsJustifiedWithin.own {stores : Stores} {ns : String} {index : OwnershipIndex}
    {write : ConfigWrite} (h : write.IsJustifiedWithin stores ns (index.within ns))
    (hkept : stores.WellKept) :
    write.ns = ns ∧ write.IsJustified index := by
  -- in a well kept store, what a reference or key leads to goes by it
  cases write with
  | addFinalizer config finalizer =>
    obtain ⟨hfinalizer, hlacks, ref, hgoes, hused⟩ := h
    obtain ⟨rfl, rfl⟩ := hgoes.own hkept
    exact ⟨rfl, hfinalizer, hlacks, hused⟩
  | removeFinalizer config finalizer =>
    obtain ⟨hfinalizer, hpending, hcarries, ref, hgoes, hunused⟩ := h
    obtain ⟨rfl, rfl⟩ := hgoes.own hkept
    exact ⟨rfl, hfinalizer, hpending, hcarries, hunused⟩
  | setConfigHash workload hash =>
    obtain ⟨key, refs, hgoes, hrefs⟩ := h
    obtain ⟨rfl, rfl⟩ := hgoes.own hkept
    exact ⟨rfl, refs, hrefs⟩

end ConfigWrite

namespace Reconciler

/-! ### One step -/

/-- The writes for a delivery of a workload are justified by the index that it leaves. -/
theorem isJustifiedWithin_of_mem_onWorkload {stores : Stores} {index : OwnershipIndex}
    {delivery : Delivery Workload} {write : ConfigWrite}
    (hwrite : write ∈ (onWorkload stores index delivery).2) :
    write.IsJustifiedWithin stores delivery.object.ns
      ((onWorkload stores index delivery).1.within delivery.object.ns) := by
  rw [onWorkload_fst, OwnershipIndex.within_update, if_pos rfl]
  cases write with
  | addFinalizer config finalizer =>
    obtain ⟨⟨rfl, hlacks⟩, refs, hrecorded, ref, href, hconfig⟩ :=
      addFinalizer_mem_onWorkload.mp hwrite
    exact ⟨rfl, hlacks, ref, Or.inr hconfig, references_record_of_mem hrecorded href⟩
  | removeFinalizer config finalizer =>
    -- what is released is decided by the index in which the workload has already been replaced
    obtain ⟨⟨rfl, hpending, hcarries⟩, ref, -, hunused, hconfig⟩ :=
      removeFinalizer_mem_onWorkload.mp hwrite
    exact ⟨rfl, hpending, hcarries, ref, Or.inr hconfig, hunused⟩
  | setConfigHash workload hash =>
    obtain ⟨refs, hrecorded, rfl, -, -⟩ := setConfigHash_mem_onWorkload.mp hwrite
    refine ⟨delivery.object.key, refs, Or.inl ⟨rfl, rfl⟩, ?_⟩
    rw [owners_record, if_pos rfl, hrecorded]

/-- The writes for a delivery of a config are justified by the index, which it leaves as it is. -/
theorem isJustifiedWithin_of_mem_onConfig {stores : Stores} {index : OwnershipIndex}
    {delivery : Delivery Config} {write : ConfigWrite}
    (hwrite : write ∈ onConfig stores index delivery) :
    write.IsJustifiedWithin stores delivery.object.ns (index.within delivery.object.ns) := by
  -- the config goes by its own reference, and its users by the keys in the index
  cases write with
  | addFinalizer config finalizer =>
    obtain ⟨⟨rfl, hlacks⟩, hused, hcase⟩ := addFinalizer_mem_onConfig.mp hwrite
    have hobject : delivery.object = config := by
      rcases hcase with rfl | ⟨-, old, rfl⟩ <;> rfl
    rw [hobject]
    exact ⟨rfl, hlacks, config.ref, Or.inl ⟨rfl, rfl⟩, hused⟩
  | removeFinalizer config finalizer =>
    obtain ⟨⟨rfl, hpending, hcarries⟩, hunused, old, rfl⟩ :=
      removeFinalizer_mem_onConfig.mp hwrite
    exact ⟨rfl, hpending, hcarries, config.ref, Or.inl ⟨rfl, rfl⟩, hunused⟩
  | setConfigHash workload hash =>
    obtain ⟨-, key, hkey, hworkload, -, -⟩ := setConfigHash_mem_onConfig.mp hwrite
    obtain ⟨refs, hrefs, -⟩ := (NamespaceIndex.mem_usersOf _ _ _).mp hkey
    exact ⟨key, refs, Or.inr hworkload, hrefs⟩

/-- Every write for an event is justified by the index after the event, within the namespace that
the event is about. -/
theorem isJustifiedWithin_of_mem_handle {stores : Stores} {index : OwnershipIndex}
    {event : ClusterEvent} {write : ConfigWrite}
    (hwrite : write ∈ (handle stores index event).2) :
    ∃ ns, event.ns? = some ns ∧
      write.IsJustifiedWithin stores ns ((handle stores index event).1.within ns) := by
  rcases mem_handle_iff.mp hwrite with
    ⟨delivery, hworkload, hwrite⟩ | ⟨delivery, hconfig, hwrite⟩
  · rw [handle_of_workload? stores index hworkload]
    refine ⟨delivery.object.ns, by simp [ClusterEvent.ns?, hworkload], ?_⟩
    exact isJustifiedWithin_of_mem_onWorkload hwrite
  · have hworkload := ClusterEvent.workload?_eq_none hconfig
    rw [handle_of_config? stores index hconfig]
    refine ⟨delivery.object.ns, by simp [ClusterEvent.ns?, hworkload, hconfig], ?_⟩
    exact isJustifiedWithin_of_mem_onConfig hwrite

/-! ### Histories -/

/-- After any history of deliveries, over whatever stores, the index records exactly what the last
delivery of each workload asks for, and whatever is written for a next delivery is justified by the
index then, within the namespace that the delivery is about. Provided the stores hold namespaced
objects under their own names at that moment, the write is about an object of that namespace and
justified by the name of the object; a store of another make could answer with a cluster-wide
object, which has neither. -/
theorem index_recorded_and_writes_justified (history : List Handling) :
    (∀ ns key, ((indexAfter history).within ns).owners[key]? =
      (lastWorkload? (events history) ns key).bind recorded) ∧
    ∀ next, ∀ write ∈ writesAfter history next, ∃ ns, next.event.ns? = some ns ∧
      write.IsJustifiedWithin next.stores ns ((indexAfter (history ++ [next])).within ns) ∧
      (next.stores.WellKept →
        write.ns = ns ∧ write.IsJustified (indexAfter (history ++ [next]))) := by
  refine ⟨owners_indexAfter history, ?_⟩
  intro next write hwrite
  rw [indexAfter_concat]
  obtain ⟨ns, hns, hjustified⟩ := isJustifiedWithin_of_mem_handle hwrite
  exact ⟨ns, hns, hjustified, hjustified.own⟩

/-- A config map waits for its deletion while two deployments use it. Its finalizer is taken off
when the second of them is gone as well, and is out of use by then. -/
theorem released_with_last_user :
    let config := Config.configMap (.leaving "x" "1")
    let stores := Stores.empty.observe (config.observation .applied)
    let created (name : String) : Handling :=
      ⟨stores, .deployments (.created (.userOf "x" name "1"))⟩
    let gone (name : String) : Handling :=
      ⟨stores, .deployments (.deleted (.userOf "x" name "1"))⟩
    let history := [created "a", created "b", gone "a"]
    ConfigWrite.removeFinalizer config configFinalizer ∈ writesAfter history (gone "b") ∧
      ¬ ((indexAfter (history ++ [gone "b"])).within "default").References
        ⟨.configMap, "x"⟩ := by
  intro config stores created gone history
  have hwrite : .removeFinalizer config configFinalizer ∈ writesAfter history (gone "b") := by
    decide
  -- the store holds the config map alone, under its own name
  have hkept : stores.WellKept := Stores.wellKept_empty.config .applied (by decide)
  obtain ⟨ns, -, -, hown⟩ :=
    (index_recorded_and_writes_justified history).2 (gone "b") _ hwrite
  exact ⟨hwrite, (hown hkept).2.2.2.2⟩

end Reconciler

end ClusterWatch
