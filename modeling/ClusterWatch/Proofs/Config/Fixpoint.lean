import ClusterWatch.Proofs.Cluster.Filing
import ClusterWatch.Proofs.Config.Settling

/-!
# Reconciling a workload twice

The writes of the reconciler come back as watch events of the objects that they have changed, and
the workload is then reconciled again. The second time there is nothing left to write, whatever the
stores hold and whatever the index records: objects may lack a namespace or a name, may be shared,
and may wait for their deletion. Writes land by names where the stores are well kept
(`Stores.land`); here they come back by the identity of their object, which it has in any stores.

* `ConfigWrite.echo`, `Stores.echoAll` — the watch events by which writes come back, and what they
  leave in the stores; `configAt?_echoAll` and `workloadAt?_echoAll` say what is found there.
* `Reconciler.handle_idempotent` — handling the workload as it comes back writes nothing and
  keeps the index.
-/

namespace ClusterWatch

/-! ### Writes that come back -/

namespace ConfigWrite

/-- The config that a write is made from. -/
def config? : ConfigWrite → Option Config
  | .addFinalizer config _ => some config
  | .removeFinalizer config _ => some config
  | .setConfigHash _ _ => none

/-- The workload that a write is made from. -/
def workload? : ConfigWrite → Option Workload
  | .addFinalizer _ _ => none
  | .removeFinalizer _ _ => none
  | .setConfigHash workload _ => some workload

/-- The watch event by which a write comes back: its object, as the write leaves it. -/
def echo (write : ConfigWrite) : Observation :=
  match write with
  | .addFinalizer config _ => (config.after write).observation .applied
  | .removeFinalizer config _ => (config.after write).observation .applied
  | .setConfigHash workload _ => (workload.after write).observation .applied

section LastAfter

variable {α : Type} [DecidableEq α] (made? : ConfigWrite → Option α)
  (after : α → ConfigWrite → α)

/-- An object as the last of several writes made from it leaves it. -/
def lastAfter (writes : List ConfigWrite) (object : α) : α :=
  match writes.findRev? (made? · = some object) with
  | some write => after object write
  | none => object

/-- No writes leave an object as it is. -/
@[simp]
theorem lastAfter_nil : lastAfter made? after [] = id :=
  rfl

/-- The last write that is made to an object decides what becomes of it. -/
theorem lastAfter_concat (writes : List ConfigWrite) (last : ConfigWrite) (object : α) :
    lastAfter made? after (writes ++ [last]) object =
      if made? last = some object then after object last
        else lastAfter made? after writes object := by
  rw [lastAfter, findRev?_concat (made? · = some object)]
  split_ifs <;> rfl

/-- An object is in the end as some write made from it leaves it, or no write has been
made from it. -/
theorem lastAfter_cases (writes : List ConfigWrite) (object : α) :
    (∃ write ∈ writes, made? write = some object ∧
      lastAfter made? after writes object = after object write) ∨
    (∀ write ∈ writes, made? write ≠ some object) ∧
      lastAfter made? after writes object = object := by
  -- what is made from one object is told by the last write that is made from it
  rw [lastAfter]
  cases hlast : writes.findRev? (made? · = some object) with
  | some write =>
    obtain ⟨hwrite, hmade⟩ : write ∈ writes ∧ made? write = some object :=
      of_findRev?_eq_some hlast
    exact Or.inl ⟨write, hwrite, hmade, rfl⟩
  | none =>
    refine Or.inr ⟨fun write hwrite => ?_, rfl⟩
    rw [List.findRev?_eq_find?_reverse, List.find?_eq_none] at hlast
    simpa using hlast write (List.mem_reverse.mpr hwrite)

variable {made?} {after}

/-- What no write changes of an object stays as it is. -/
theorem lastAfter_same {β : Type} {part : α → β}
    (hafter : ∀ object write, part (after object write) = part object) (writes : List ConfigWrite)
    (object : α) : part (lastAfter made? after writes object) = part object := by
  rcases lastAfter_cases made? after writes object with ⟨write, -, -, heq⟩ | ⟨-, heq⟩
  · rw [heq, hafter]
  · rw [heq]

end LastAfter

end ConfigWrite

/-- A config when writes made from it have come back. -/
def Config.echoed (writes : List ConfigWrite) : Config → Config :=
  ConfigWrite.lastAfter ConfigWrite.config? after writes

/-- A workload when writes made from it have come back. -/
def Workload.echoed (writes : List ConfigWrite) : Workload → Workload :=
  ConfigWrite.lastAfter ConfigWrite.workload? after writes

namespace Stores

/-- The stores when writes have come back. -/
def echoAll (stores : Stores) (writes : List ConfigWrite) : Stores :=
  writes.foldl (fun stores write => stores.observe write.echo) stores

/-- If each write that comes back changes at most what is held in the place of the object that it
was made from, and all of them were made from what was held there, then what is held in the end is
what was held at first, as the writes leave it. -/
theorem held?_echoAll {α π : Type} [DecidableEq α] [DecidableEq π] {stores : Stores}
    (held? : Stores → π → Option α) (place : α → π) {made? : ConfigWrite → Option α}
    {after : α → ConfigWrite → α}
    (hother : ∀ stores write, made? write = none →
      ∀ there, held? (stores.observe (ConfigWrite.echo write)) there = held? stores there)
    (hecho : ∀ stores write object, made? write = some object →
      ∀ there, held? (stores.observe (ConfigWrite.echo write)) there =
        if place object = there then some (after object write) else held? stores there)
    (hplace : ∀ there object, held? stores there = some object → place object = there)
    {writes : List ConfigWrite}
    (hmade : ∀ write ∈ writes, ∀ object, made? write = some object →
      held? stores (place object) = some object) (there : π) :
    held? (stores.echoAll writes) there =
      (held? stores there).map (ConfigWrite.lastAfter made? after writes) := by
  -- from the end, since the last write made from an object decides on it
  induction writes using List.reverseRecOn with
  | nil => simp [echoAll]
  | append_singleton writes last ih =>
    have ih := ih fun write hwrite => hmade write (List.mem_append_left _ hwrite)
    rw [echoAll, List.foldl_concat, ← echoAll]
    cases hobject : made? last with
    | none =>
      rw [hother _ last hobject, ih]
      congr 1
      funext object
      simp [ConfigWrite.lastAfter_concat, hobject]
    | some object =>
      rw [hecho _ last object hobject, ih]
      split_ifs with hthere
      · have hheld := hmade last (by simp) object hobject
        rw [hthere] at hheld
        simp [hheld, ConfigWrite.lastAfter_concat, hobject]
      · -- what is held here is another object, which the last write was not made from
        refine Option.map_congr fun other hheld => ?_
        have hne : object ≠ other := by
          rintro rfl
          exact hthere (hplace there object hheld)
        simp [ConfigWrite.lastAfter_concat, hobject, hne]

/-- Where the writes were made from the configs that are held, these are held as the
writes leave them. -/
theorem configAt?_echoAll {stores : Stores} (h : stores.Filed) {writes : List ConfigWrite}
    (hmade : ∀ write ∈ writes, ∀ config, write.config? = some config →
      stores.configAt? config.place = some config) (place : ConfigKind × ObjectId) :
    (stores.echoAll writes).configAt? place =
      (stores.configAt? place).map (Config.echoed writes) := by
  refine held?_echoAll configAt? Config.place ?_ ?_ (fun _ _ => h.place_config) hmade place
  · -- writes to workloads leave the configs
    intro stores write hother there
    cases write with
    | addFinalizer => cases hother
    | removeFinalizer => cases hother
    | setConfigHash workload hash => exact configAt?_observe_workload stores .applied _ there
  · intro stores write config hconfig there
    have hecho : write.echo = (config.after write).observation .applied := by
      cases write <;> cases hconfig <;> rfl
    have hplace : (config.after write).place = config.place := by
      cases config <;> rfl
    rw [hecho, configAt?_observe_config, hplace]

/-- Where the writes were made from the workloads that are held, these are held as the
writes leave them. -/
theorem workloadAt?_echoAll {stores : Stores} (h : stores.Filed) {writes : List ConfigWrite}
    (hmade : ∀ write ∈ writes, ∀ workload, write.workload? = some workload →
      stores.workloadAt? workload.place = some workload) (place : WorkloadKind × ObjectId) :
    (stores.echoAll writes).workloadAt? place =
      (stores.workloadAt? place).map (Workload.echoed writes) := by
  refine held?_echoAll workloadAt? Workload.place ?_ ?_ (fun _ _ => h.place_workload) hmade place
  · -- writes to configs leave the workloads
    intro stores write hother there
    rw [workloadAt?, workloadAt?]
    cases write with
    | setConfigHash => cases hother
    | addFinalizer config finalizer => rw [ConfigWrite.echo, workloads_observe_config]
    | removeFinalizer config finalizer => rw [ConfigWrite.echo, workloads_observe_config]
  · intro stores write workload hworkload there
    have hecho : write.echo = (workload.after write).observation .applied := by
      cases write <;> cases hworkload; rfl
    rw [hecho, workloadAt?_observe_workload]
    rfl

/-- Where the writes were made from the configs that are held, lookups find these as the
writes leave them. -/
theorem config?_echoAll {stores : Stores} (h : stores.Filed) {writes : List ConfigWrite}
    (hmade : ∀ write ∈ writes, ∀ config, write.config? = some config →
      stores.configAt? config.place = some config) (ns : String) (ref : ConfigRef) :
    (stores.echoAll writes).config? ns ref =
      (stores.config? ns ref).map (Config.echoed writes) := by
  rw [config?_eq, config?_eq, configAt?_echoAll h hmade, configAt?_echoAll h hmade, Option.map_or]

end Stores

/-! ### What writes leave alone -/

/-- Writes of the reconciler do not touch the data of a config. -/
theorem Config.data_echoed (writes : List ConfigWrite) (config : Config) :
    (config.echoed writes).data = config.data :=
  ConfigWrite.lastAfter_same data_after writes config

namespace Workload

variable (writes : List ConfigWrite) (workload : Workload)

/-- Writes leave a workload in its namespace. -/
@[simp]
theorem ns_echoed : (workload.echoed writes).ns = workload.ns :=
  ConfigWrite.lastAfter_same ns_after writes workload

/-- They leave its kind and its name. -/
@[simp]
theorem key_echoed : (workload.echoed writes).key = workload.key :=
  ConfigWrite.lastAfter_same key_after writes workload

/-- They leave the annotation by which it has opted in. -/
@[simp]
theorem isOptedIn_echoed : (workload.echoed writes).isOptedIn = workload.isOptedIn :=
  ConfigWrite.lastAfter_same isOptedIn_after writes workload

/-- They leave the configs that it refers to. -/
@[simp]
theorem referencedConfigs_echoed :
    (workload.echoed writes).referencedConfigs = workload.referencedConfigs :=
  ConfigWrite.lastAfter_same referencedConfigs_after writes workload

end Workload

namespace Reconciler

/-- A version that comes back leaves in the index what the one before has left there. -/
theorem record_record (index : NamespaceIndex) {first second : Delivery Workload}
    (hkey : second.object.key = first.object.key) (hrecorded : recorded second = recorded first) :
    record (record index first) second = record index first := by
  have howners : (record (record index first) second).owners = (record index first).owners := by
    refine Std.ExtTreeMap.ext_getElem? fun key => ?_
    rw [owners_record, owners_record, hkey, hrecorded]
    split <;> rfl
  exact congrArg NamespaceIndex.mk howners

/-- A delivery that leaves a workload records what that workload refers to, if it has opted in. -/
theorem recorded_of_current? {delivery : Delivery Workload} {workload : Workload}
    (h : delivery.current? = some workload) :
    recorded delivery = if workload.isOptedIn then some workload.referencedConfigs else none := by
  rw [recorded, h, Option.filter_some]
  split <;> rfl

variable {stores : Stores} {index : OwnershipIndex} {delivery : Delivery Workload}

/-- Whatever is written for a delivery of a workload to its cached version is made from
what is cached. -/
theorem made_of_mem_onWorkload (index : OwnershipIndex) (h : stores.Filed)
    (hcached : stores.workloadAt? delivery.object.place = some delivery.object) :
    (∀ write ∈ (onWorkload stores index delivery).2, ∀ config, write.config? = some config →
      stores.configAt? config.place = some config) ∧
    (∀ write ∈ (onWorkload stores index delivery).2, ∀ workload,
      write.workload? = some workload → stores.workloadAt? workload.place = some workload) := by
  constructor
  -- a config is written to as it has been found under a reference
  · intro write hwrite config hconfig
    cases write with
    | setConfigHash => cases hconfig
    | addFinalizer own finalizer =>
      obtain rfl := Option.some.inj hconfig
      obtain ⟨-, _, -, ref, -, hfound⟩ := addFinalizer_mem_onWorkload.mp hwrite
      exact (h.of_config? hfound).1
    | removeFinalizer own finalizer =>
      obtain rfl := Option.some.inj hconfig
      obtain ⟨-, ref, -, -, hfound⟩ := removeFinalizer_mem_onWorkload.mp hwrite
      exact (h.of_config? hfound).1
  -- the hash is set on the workload that is delivered
  · intro write hwrite workload hworkload
    cases write with
    | addFinalizer => cases hworkload
    | removeFinalizer => cases hworkload
    | setConfigHash own hash =>
      obtain rfl := Option.some.inj hworkload
      obtain ⟨_, -, rfl, -⟩ := setConfigHash_mem_onWorkload.mp hwrite
      exact hcached

/-- When the writes have come back, the workload carries the hash of its configs. -/
theorem configHash?_echoed {refs : ConfigRefs} (hrecorded : recorded delivery = some refs) :
    (delivery.object.echoed (onWorkload stores index delivery).2).configHash? =
      some (cachedHash stores delivery.object.ns refs) := by
  rcases ConfigWrite.lastAfter_cases _ _ (onWorkload stores index delivery).2 delivery.object with
    ⟨write, hwrite, hmade, hafter⟩ | ⟨hnone, hsame⟩
  · rw [Workload.echoed, hafter, Workload.configHash?_after]
    cases write with
    | addFinalizer => cases hmade
    | removeFinalizer => cases hmade
    | setConfigHash own hash =>
      obtain ⟨_, hrefs, rfl, rfl, -⟩ := setConfigHash_mem_onWorkload.mp hwrite
      obtain rfl := Option.some.inj (hrecorded.symm.trans hrefs)
      simp [ConfigWrite.hashFor]
  · -- nothing was written because the hash was there already
    rw [Workload.echoed, hsame]
    by_contra hne
    exact hnone _ (setConfigHash_mem_onWorkload.mpr ⟨refs, hrecorded, rfl, rfl, hne⟩) rfl

/-- When the writes have come back, the configs that the workload refers to are protected. -/
theorem hasFinalizer_echoed (h : stores.Filed) {refs : ConfigRefs} {ref : ConfigRef}
    {config : Config} (hrecorded : recorded delivery = some refs) (href : ref ∈ refs)
    (hconfig : stores.config? delivery.object.ns ref = some config) :
    (config.echoed (onWorkload stores index delivery).2).hasFinalizer configFinalizer = true := by
  rcases ConfigWrite.lastAfter_cases _ _ (onWorkload stores index delivery).2 config with
    ⟨write, hwrite, hmade, hafter⟩ | ⟨hnone, hsame⟩
  · rw [Config.echoed, hafter]
    cases write with
    | addFinalizer own finalizer =>
      obtain rfl := Option.some.inj hmade
      obtain ⟨⟨rfl, hlacks⟩, -⟩ := addFinalizer_mem_onWorkload.mp hwrite
      have hadding : configFinalizer ∉ own.finalizers := by
        simpa [Config.hasFinalizer] using hlacks
      simp [Config.hasFinalizer, Config.finalizers_after, ConfigWrite.finalizersFor,
        Finalizers.adding?, hadding]
    | removeFinalizer own finalizer =>
      -- nothing is taken off a config that is in use, and no other reference leads to this one
      obtain rfl := Option.some.inj hmade
      obtain ⟨-, other, -, hunused, hother⟩ := removeFinalizer_mem_onWorkload.mp hwrite
      have hsame : ref = other := (h.of_config? hconfig).2.trans (h.of_config? hother).2.symm
      subst hsame
      exact absurd (references_record_of_mem hrecorded href) hunused
    | setConfigHash => cases hmade
  · -- nothing was written because the finalizer was there already
    rw [Config.echoed, hsame]
    by_contra hlacks
    refine hnone _
      (addFinalizer_mem_onWorkload.mpr ⟨⟨rfl, ?_⟩, refs, hrecorded, ref, href, hconfig⟩) rfl
    simpa using hlacks

/-- A delivery of the workload as it comes back is recorded as before. -/
theorem recorded_echoed {writes : List ConfigWrite} {again : Delivery Workload}
    (hcurrent : delivery.current? = some delivery.object)
    (hagain : again.current? = some (delivery.object.echoed writes)) :
    recorded again = recorded delivery := by
  simp [recorded_of_current? hcurrent, recorded_of_current? hagain]

/-- The index that a delivery of a workload leaves is left as it is when the workload comes back. -/
theorem onWorkload_again_fst {writes : List ConfigWrite} {again : Delivery Workload}
    (hcurrent : delivery.current? = some delivery.object)
    (hagain : again.current? = some (delivery.object.echoed writes)) (landed : Stores) :
    (onWorkload landed (onWorkload stores index delivery).1 again).1 =
      (onWorkload stores index delivery).1 := by
  have hobject := Delivery.object_of_current? hagain
  have hns : again.object.ns = delivery.object.ns := by rw [hobject, Workload.ns_echoed]
  have hkey : again.object.key = delivery.object.key := by rw [hobject, Workload.key_echoed]
  rw [onWorkload_fst, onWorkload_fst, hns, OwnershipIndex.within_update, if_pos rfl,
    OwnershipIndex.update_update, record_record _ hkey (recorded_echoed hcurrent hagain)]

/-- Once the writes for a workload have come back, there is nothing left to write for it. -/
theorem onWorkload_again_snd (h : stores.Filed)
    (hcurrent : delivery.current? = some delivery.object)
    (hcached : stores.workloadAt? delivery.object.place = some delivery.object)
    {again : Delivery Workload}
    (hagain : again.current? =
      some (delivery.object.echoed (onWorkload stores index delivery).2)) :
    (onWorkload (stores.echoAll (onWorkload stores index delivery).2)
      (onWorkload stores index delivery).1 again).2 = [] := by
  have hobject := Delivery.object_of_current? hagain
  have hns : again.object.ns = delivery.object.ns := by rw [hobject, Workload.ns_echoed]
  have hkey : again.object.key = delivery.object.key := by rw [hobject, Workload.key_echoed]
  have hrecorded := recorded_echoed hcurrent hagain
  have hconfig? := Stores.config?_echoAll h (made_of_mem_onWorkload index h hcached).1
  -- each kind of write would need something that the first handling has already seen to
  rw [List.eq_nil_iff_forall_not_mem]
  intro write hwrite
  cases write with
  | addFinalizer config finalizer =>
    obtain ⟨⟨-, hlacks⟩, refs, hrefs, ref, href, hfound⟩ :=
      addFinalizer_mem_onWorkload.mp hwrite
    rw [hns, hconfig?, Option.map_eq_some_iff] at hfound
    obtain ⟨config, hfound, rfl⟩ := hfound
    rw [hasFinalizer_echoed h (hrecorded.symm.trans hrefs) href hfound] at hlacks
    cases hlacks
  | removeFinalizer config finalizer =>
    obtain ⟨-, ref, href, hunused, -⟩ := removeFinalizer_mem_onWorkload.mp hwrite
    -- what is recorded for the workload is what it refers to, so none of it is out of use
    obtain ⟨refs, hrefs, hmem⟩ := (NamespaceIndex.mem_refsOf _ _ _).mp href
    rw [onWorkload_fst, hns, OwnershipIndex.within_update, if_pos rfl, owners_record,
      if_pos hkey.symm, ← hrecorded] at hrefs
    exact hunused (references_record_of_mem hrefs hmem)
  | setConfigHash workload hash =>
    obtain ⟨refs, hrefs, rfl, rfl, hdiffers⟩ := setConfigHash_mem_onWorkload.mp hwrite
    refine hdiffers ?_
    rw [hobject, configHash?_echoed (hrecorded.symm.trans hrefs), Workload.ns_echoed]
    -- the hash is made of the data of the configs, and finalizers are none of them
    refine congrArg some (cachedHash_congr fun ref _ => ?_)
    rw [hconfig?, Option.map_map]
    congr 1
    funext config
    exact (config.data_echoed _).symm

/-- Reconciling a workload is idempotent. Over any stores and any index, let a workload be created
or updated to its cached version, and let all writes for it come back; then handling a further
update, to the workload as it is cached then, writes nothing and leaves the index as it is. -/
theorem handle_idempotent (history : List Observation) (index : OwnershipIndex)
    {event : ClusterEvent} {delivery : Delivery Workload} {workload : Workload}
    (hevent : event.workload? = some delivery) (hcurrent : delivery.current? = some workload)
    (hcached : (Stores.watched history).workloadAt? workload.place = some workload) :
    let first := handle (Stores.watched history) index event
    let landed := (Stores.watched history).echoAll first.2
    ∃ again, landed.workloadAt? workload.place = some again ∧
      ∀ next old, next.workload? = some (.updated old again) →
        handle landed first.1 next = (first.1, []) := by
  have hfiled := Stores.filed_watched history
  obtain rfl := Delivery.object_of_current? hcurrent
  obtain ⟨-, hmade⟩ := made_of_mem_onWorkload index hfiled hcached
  rw [handle_of_workload? _ index hevent]
  -- what comes back is the workload with the writes that were made to it
  refine ⟨delivery.object.echoed (onWorkload (Stores.watched history) index delivery).2, ?_, ?_⟩
  · rw [Stores.workloadAt?_echoAll hfiled hmade, hcached]
    rfl
  · intro next old hnext
    rw [handle_of_workload? _ _ hnext]
    exact Prod.ext (onWorkload_again_fst hcurrent rfl _)
      (onWorkload_again_snd hfiled hcurrent hcached rfl)

/-- A deployment turns from one config map, which waits for its deletion, to another one. The first
is let go of and the second is protected; when that and the new hash have come back, nothing is
left to write. -/
theorem turning_written_once :
    let history : List Observation :=
      [.configMaps (.apply (.leaving "x" "1")), .configMaps (.apply (.basic "y" "1" "one")),
        .deployments (.apply (.userOf "y" "a" "2"))]
    let index :=
      OwnershipIndex.empty.set "default" ⟨.deployment, "a"⟩
        ((∅ : ConfigRefs).insert ⟨.configMap, "x"⟩)
    let first := handle (Stores.watched history) index
      (.deployments (.updated (.userOf "x" "a" "1") (.userOf "y" "a" "2")))
    let landed := (Stores.watched history).echoAll first.2
    .removeFinalizer (.configMap (.leaving "x" "1")) configFinalizer ∈ first.2 ∧
      .addFinalizer (.configMap (.basic "y" "1" "one")) configFinalizer ∈ first.2 ∧
      ∃ again, landed.workloadAt? (.deployment, ⟨some "default", "a"⟩) =
        some ⟨.deployment, again⟩ ∧
        handle landed first.1 (.deployments (.updated (.userOf "y" "a" "2") again)) =
          (first.1, []) := by
  intro history index first landed
  have hreleased :
      .removeFinalizer (.configMap (.leaving "x" "1")) configFinalizer ∈ first.2 := by
    refine removeFinalizer_mem_onWorkload.mpr
      ⟨⟨rfl, by decide, by decide⟩, ⟨.configMap, "x"⟩, by decide, ?_, ?_⟩
    · rw [← NamespaceIndex.isUsed_iff]
      decide
    · decide
  have hprotected : .addFinalizer (.configMap (.basic "y" "1" "one")) configFinalizer ∈ first.2 :=
    addFinalizer_mem_onWorkload.mpr
      ⟨⟨rfl, by decide⟩, _, rfl, ⟨.configMap, "y"⟩, by decide, by decide⟩
  -- the delivery is about the version that the store holds
  have hevent :
      ClusterEvent.workload? (.deployments (.updated (.userOf "x" "a" "1") (.userOf "y" "a" "2"))) =
      some (.updated ⟨.deployment, .userOf "x" "a" "1"⟩
        ⟨.deployment, .userOf "y" "a" "2"⟩) := rfl
  obtain ⟨again, hagain, hnothing⟩ := handle_idempotent history index hevent rfl (by decide)
  have hheld := hagain
  obtain ⟨object, -, rfl⟩ := Option.map_eq_some_iff.mp hheld
  exact ⟨hreleased, hprotected, object, hagain, hnothing _ _ rfl⟩

end Reconciler

end ClusterWatch
