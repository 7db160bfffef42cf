import Mathlib.Data.List.Basic
import ClusterWatch.Proofs.Config.Landing
import ClusterWatch.Proofs.Config.Protection

/-!
# Settled workloads

A workload that has opted in is settled if its template carries the hash of its configs as they are
cached, and if all of them that are there to stay are protected. One handling of an event may find
workloads unsettled; it is enough that its writes make up for what they lack.

* `Stores.Steady` — every cached workload that has opted in is settled.
* `Reconciler.Mirrors` — the index records what the cached workloads refer to.
* `Stores.SettledBy` — what a workload lacks is among the writes.
* `Reconciler.steady_landAll` — if every workload is settled by the writes for an event, then
  the stores are steady when these have landed. Nothing that is written for one workload
  unsettles another one.
-/

namespace ClusterWatch

namespace Stores

/-- A workload of a namespace that carries the hash of its configs and has them protected. -/
structure Settled (stores : Stores) (ns : String) (workload : Workload) : Prop where
  /-- The template carries the hash of the configs. -/
  hash : workload.configHash? =
    some (Reconciler.cachedHash stores ns workload.referencedConfigs)
  /-- The configs that do not wait for their deletion carry the finalizer. -/
  guarded : ∀ ref ∈ workload.referencedConfigs, ∀ config, stores.config? ns ref =
    some config → config.isPendingDeletion = false → config.hasFinalizer configFinalizer = true

/-- Every cached workload that has opted in is settled. -/
def Steady (stores : Stores) : Prop :=
  ∀ ns key workload, stores.workload? ns key = some workload → workload.isOptedIn = true →
    stores.Settled ns workload

/-- What a workload lacks to be settled is among the writes. -/
structure SettledBy (stores : Stores) (writes : List ConfigWrite) (ns : String)
    (workload : Workload) : Prop where
  /-- The hash of the configs. -/
  hash : workload.configHash? =
      some (Reconciler.cachedHash stores ns workload.referencedConfigs) ∨
    .setConfigHash workload (Reconciler.cachedHash stores ns workload.referencedConfigs) ∈ writes
  /-- The protection of the configs that do not wait for their deletion. -/
  guarded : ∀ ref ∈ workload.referencedConfigs, ∀ config, stores.config? ns ref =
    some config → config.isPendingDeletion = false →
      config.hasFinalizer configFinalizer = true ∨ .addFinalizer config configFinalizer ∈ writes

end Stores

namespace Reconciler

/-! ### Hashes of cached configs -/

/-- The hash of configs depends on their data only. -/
theorem cachedHash_congr {stores other : Stores} {ns : String} {refs : ConfigRefs}
    (h : ∀ ref ∈ refs,
      (stores.config? ns ref).map Config.data = (other.config? ns ref).map Config.data) :
    cachedHash stores ns refs = cachedHash other ns refs := by
  have hsource :
      HashSource.ofRefs refs.toList (fun ref => (stores.config? ns ref).map Config.data) =
        HashSource.ofRefs refs.toList (fun ref => (other.config? ns ref).map Config.data) := by
    refine List.foldl_ext _ _ _ fun source ref href => ?_
    exact congrArg (source.add ref.name) (h ref (Std.ExtTreeSet.mem_toList.mp href))
  rw [cachedHash, cachedHash, configHash, configHash, hsource]

/-- Landed writes change no data of configs. -/
theorem cachedHash_landAll (stores : Stores) (writes : List ConfigWrite) (ns : String)
    (refs : ConfigRefs) :
    cachedHash (stores.landAll writes) ns refs = cachedHash stores ns refs := by
  refine cachedHash_congr fun ref _ => ?_
  rw [Stores.config?_landAll, Option.map_map]
  congr 1
  funext config
  exact config.data_afterAll writes

/-! ### The index as a mirror of the stores -/

/-- The index records exactly what the cached workloads that have opted in refer to. -/
def Mirrors (index : OwnershipIndex) (stores : Stores) : Prop :=
  ∀ ns key, (index.within ns).owners[key]? =
    ((stores.workload? ns key).filter Workload.isOptedIn).map Workload.referencedConfigs

variable {stores : Stores} {index : OwnershipIndex}

theorem Mirrors.owners (h : Mirrors index stores) {ns : String} {key : WorkloadKey}
    {workload : Workload} (hworkload : stores.workload? ns key = some workload)
    (hopted : workload.isOptedIn = true) :
    (index.within ns).owners[key]? = some workload.referencedConfigs := by
  rw [h, hworkload, Option.filter_some, if_pos hopted]
  rfl

/-- What a cached workload that has opted in refers to is in use by the index. -/
theorem Mirrors.references (h : Mirrors index stores) {ns : String} {key : WorkloadKey}
    {workload : Workload} (hworkload : stores.workload? ns key = some workload)
    (hopted : workload.isOptedIn = true) {ref : ConfigRef}
    (href : ref ∈ workload.referencedConfigs) :
    (index.within ns).References ref :=
  ⟨key, _, h.owners hworkload hopted, href⟩

/-- Landed writes change nothing that the index records. -/
theorem Mirrors.landAll (h : Mirrors index stores) (writes : List ConfigWrite) :
    Mirrors index (stores.landAll writes) := by
  intro ns key
  rw [h, Stores.workload?_landAll]
  cases stores.workload? ns key with
  | none => rfl
  | some workload => simp [Option.filter_some, apply_ite (Option.map _)]

/-- A delivery of a workload that the stores have been shown is recorded in the index as well. -/
theorem Mirrors.onWorkload {before : Stores} (h : Mirrors index before)
    {delivery : Delivery Workload}
    (hworkload : ∀ ns key, stores.workload? ns key =
      if delivery.object.ns = ns ∧ delivery.object.key = key then delivery.current?
      else before.workload? ns key) :
    Mirrors (onWorkload stores index delivery).1 stores := by
  intro ns key
  rw [owners_onWorkload, hworkload]
  split
  · rfl
  · exact h ns key

/-! ### One handling -/

/-- A config hash is only set on a workload as it is cached, and is the one of its configs. -/
theorem cached_of_setConfigHash {event : ClusterEvent} (hkept : stores.WellKept)
    (hshown : ∀ delivery workload, event.workload? = some delivery →
      delivery.current? = some workload →
        stores.workload? workload.ns workload.key = some workload)
    {workload : Workload} {hash : String}
    (hwrite : .setConfigHash workload hash ∈ (handle stores index event).2) :
    stores.workload? workload.ns workload.key = some workload ∧
      hash = cachedHash stores workload.ns workload.referencedConfigs := by
  rcases mem_handle_iff.mp hwrite with ⟨delivery, hworkload, hwrite⟩ | ⟨delivery, -, hwrite⟩
  -- the workload that is delivered is cached by now
  · obtain ⟨refs, hrecorded, rfl, rfl, -⟩ := setConfigHash_mem_onWorkload.mp hwrite
    obtain ⟨current, hcurrent, -, rfl⟩ := recorded_eq_some_iff.mp hrecorded
    rw [Delivery.object_of_current? hcurrent]
    exact ⟨hshown delivery current hworkload hcurrent, rfl⟩
  -- a user of the config is looked up in the cache
  · obtain ⟨-, key, -, hcached, rfl, -⟩ := setConfigHash_mem_onConfig.mp hwrite
    obtain ⟨-, hns, rfl⟩ := hkept.of_workload? hcached
    rw [hns]
    exact ⟨hcached, rfl⟩

/-- Where the index mirrors the stores, no write for an event takes the finalizer off a config that
a cached workload uses; all that set its finalizers put it on. -/
theorem mem_finalizers_of_used {event : ClusterEvent} (hkept : stores.WellKept) {ns : String}
    {ref : ConfigRef} (hused : ((handle stores index event).1.within ns).References ref)
    {write : ConfigWrite} (hwrite : write ∈ (handle stores index event).2)
    {finalizers : List String} (hsets : write.finalizersFor ns ref = some finalizers) :
    configFinalizer ∈ finalizers := by
  obtain ⟨within, -, hjustified⟩ := isJustifiedWithin_of_mem_handle hwrite
  obtain ⟨-, hjustified⟩ := hjustified.own hkept
  cases write with
  | addFinalizer config finalizer =>
    obtain ⟨rfl, -, -⟩ := hjustified
    simp only [ConfigWrite.finalizersFor, Finalizers.adding?, Option.ite_none_right_eq_some,
      Option.ite_none_left_eq_some, Option.some.injEq] at hsets
    obtain ⟨-, -, rfl⟩ := hsets
    simp
  -- only an unused config is released
  | removeFinalizer config finalizer =>
    obtain ⟨-, -, -, hunused⟩ := hjustified
    simp only [ConfigWrite.finalizersFor, Option.ite_none_right_eq_some] at hsets
    obtain ⟨⟨rfl, rfl⟩, -⟩ := hsets
    exact absurd hused hunused
  | setConfigHash workload hash => cases hsets

/-- If the writes for an event make up for what every cached workload lacks, the stores are steady
when the writes have landed. -/
theorem steady_landAll {event : ClusterEvent} (hkept : stores.WellKept)
    (hshown : ∀ delivery workload, event.workload? = some delivery →
      delivery.current? = some workload →
        stores.workload? workload.ns workload.key = some workload)
    (hmirrors : Mirrors (handle stores index event).1 stores)
    (hsettled : ∀ ns key workload, stores.workload? ns key = some workload →
      workload.isOptedIn = true → stores.SettledBy (handle stores index event).2 ns workload) :
    (stores.landAll (handle stores index event).2).Steady := by
  intro ns key landed hlanded hopted
  rw [Stores.workload?_landAll] at hlanded
  obtain ⟨workload, hworkload, rfl⟩ := Option.map_eq_some_iff.mp hlanded
  rw [Workload.isOptedIn_afterAll] at hopted
  have hby := hsettled ns key workload hworkload hopted
  obtain ⟨-, hns, hkey⟩ := hkept.of_workload? hworkload
  constructor
  · rw [Workload.referencedConfigs_afterAll, cachedHash_landAll]
    refine Workload.configHash?_afterAll ?_ ?_
    -- whatever hash is set on the workload, it has been computed for it as it is cached
    · intro write hwrite other hother
      cases write with
      | setConfigHash target hash =>
        simp only [ConfigWrite.hashFor, Option.ite_none_right_eq_some, Option.some.injEq] at hother
        obtain ⟨⟨htargetNs, htargetKey⟩, rfl⟩ := hother
        obtain ⟨hcached, rfl⟩ := cached_of_setConfigHash hkept hshown hwrite
        rw [htargetNs, htargetKey, hns, hkey, hworkload] at hcached
        rw [← Option.some.inj hcached, hns]
      | addFinalizer config finalizer => cases hother
      | removeFinalizer config finalizer => cases hother
    · rcases hby.hash with hcarries | hwrite
      · exact Or.inl hcarries
      · exact Or.inr ⟨_, hwrite, if_pos ⟨rfl, rfl⟩⟩
  · intro ref href landed hlanded hstays
    rw [Workload.referencedConfigs_afterAll] at href
    rw [Stores.config?_landAll] at hlanded
    obtain ⟨config, hconfig, rfl⟩ := Option.map_eq_some_iff.mp hlanded
    rw [Config.isPendingDeletion_afterAll] at hstays
    obtain ⟨-, hconfigNs, hconfigRef⟩ := hkept.of_config? hconfig
    refine Config.hasFinalizer_afterAll ?_ ?_
    -- no write takes the finalizer off, since the workload uses the config
    · intro write hwrite finalizers hsets
      rw [hconfigNs, hconfigRef] at hsets
      exact mem_finalizers_of_used hkept (hmirrors.references hworkload hopted href) hwrite hsets
    · rcases hby.guarded ref href config hconfig hstays with hcarries | hwrite
      · exact Or.inl hcarries
      · by_cases hcarries : config.hasFinalizer configFinalizer = true
        · exact Or.inl hcarries
        · refine Or.inr ⟨_, hwrite, ?_⟩
          rw [Config.hasFinalizer] at hcarries
          rw [ConfigWrite.finalizersFor, if_pos ⟨rfl, rfl⟩, Finalizers.adding?, if_neg hcarries]
          rfl

/-! ### What the writes make up for -/

/-- If the stores are steady but for a workload that has just been delivered, the writes for the
delivery settle every workload. -/
theorem settledBy_onWorkload {before : Stores} (hsteady : before.Steady)
    {delivery : Delivery Workload}
    (hconfig : ∀ ns ref, stores.config? ns ref = before.config? ns ref)
    (hworkload : ∀ ns key, stores.workload? ns key =
      if delivery.object.ns = ns ∧ delivery.object.key = key then delivery.current?
      else before.workload? ns key)
    {ns : String} {key : WorkloadKey} {workload : Workload}
    (hcached : stores.workload? ns key = some workload) (hopted : workload.isOptedIn = true) :
    stores.SettledBy (onWorkload stores index delivery).2 ns workload := by
  rw [hworkload] at hcached
  split at hcached
  next hat =>
    -- the delivered workload is written what it lacks
    obtain ⟨rfl, rfl⟩ := hat
    have hrecorded := recorded_eq_some_iff.mpr ⟨workload, hcached, hopted, rfl⟩
    obtain rfl := Delivery.object_of_current? hcached
    constructor
    · by_cases hcarries : delivery.object.configHash? =
          some (cachedHash stores delivery.object.ns delivery.object.referencedConfigs)
      · exact Or.inl hcarries
      · exact Or.inr (setConfigHash_mem_onWorkload.mpr ⟨_, hrecorded, rfl, rfl, hcarries⟩)
    · intro ref href config hfound _
      cases hcarries : config.hasFinalizer configFinalizer with
      | true => exact Or.inl rfl
      | false =>
        exact Or.inr (addFinalizer_mem_onWorkload.mpr
          ⟨⟨rfl, hcarries⟩, _, hrecorded, ref, href, hfound⟩)
  next =>
    -- any other workload has been settled before, and its configs are the same
    obtain ⟨hhash, hguarded⟩ := hsteady ns key workload hcached hopted
    constructor
    · rw [cachedHash_congr fun ref _ => congrArg (Option.map Config.data) (hconfig ns ref)]
      exact Or.inl hhash
    · intro ref href config hfound hstays
      rw [hconfig] at hfound
      exact Or.inl (hguarded ref href config hfound hstays)

/-- If the stores are steady but for a config that has just been delivered, the writes for the
delivery settle every workload, provided a config that is gone has no user, and one whose users are
not rolled out has the data that it has been cached with. -/
theorem settledBy_onConfig (hkept : stores.WellKept) {before : Stores} (hsteady : before.Steady)
    (hmirrors : Mirrors index before) {delivery : Delivery Config}
    (hworkload : ∀ ns key, stores.workload? ns key = before.workload? ns key)
    (hconfig : ∀ ns ref, stores.config? ns ref =
      if delivery.object.ns = ns ∧ delivery.object.ref = ref then delivery.current?
      else before.config? ns ref)
    (hgone : delivery.current? = none → ∀ key workload,
      before.workload? delivery.object.ns key = some workload → workload.isOptedIn = true →
        delivery.object.ref ∉ workload.referencedConfigs)
    (hdata : ∀ config, delivery.current? = some config → ¬ Outdates delivery →
      (before.config? config.ns config.ref).map Config.data = some config.data)
    {ns : String} {key : WorkloadKey} {workload : Workload}
    (hcached : stores.workload? ns key = some workload) (hopted : workload.isOptedIn = true) :
    stores.SettledBy (onConfig stores index delivery) ns workload := by
  obtain ⟨-, hns, -⟩ := hkept.of_workload? hcached
  have hbefore := hcached
  rw [hworkload] at hbefore
  obtain ⟨hhash, hguarded⟩ := hsteady ns key workload hbefore hopted
  constructor
  · by_cases hrolled : Outdates delivery ∧ delivery.object.ns = ns ∧
        delivery.object.ref ∈ workload.referencedConfigs
    · -- the workload is among the users that are rolled out
      obtain ⟨houtdates, rfl, href⟩ := hrolled
      by_cases hcarries : workload.configHash? =
          some (cachedHash stores delivery.object.ns workload.referencedConfigs)
      · exact Or.inl hcarries
      · refine Or.inr
          (setConfigHash_mem_onConfig.mpr ⟨houtdates, key, ?_, hcached, ?_, hcarries⟩)
        · exact (NamespaceIndex.mem_usersOf _ _ _).mpr
            ⟨_, hmirrors.owners hbefore hopted, href⟩
        · rw [hns]
    · -- none of its configs has changed in its data
      refine Or.inl (hhash.trans (congrArg some (cachedHash_congr fun ref href => ?_)))
      rw [hconfig]
      split
      next hat =>
        obtain ⟨rfl, rfl⟩ := hat
        have hkeeps : ¬ Outdates delivery := fun houtdates => hrolled ⟨houtdates, rfl, href⟩
        cases hcurrent : delivery.current? with
        | none => exact absurd href (hgone hcurrent key workload hbefore hopted)
        | some config =>
          rw [Delivery.object_of_current? hcurrent]
          exact hdata config hcurrent hkeeps
      next => rfl
  · intro ref href config hfound hstays
    rw [hconfig] at hfound
    split at hfound
    next hat =>
      -- the delivered config has a user in the index, so it is protected
      obtain ⟨rfl, rfl⟩ := hat
      have hused := hmirrors.references hbefore hopted href
      cases hcarries : config.hasFinalizer configFinalizer with
      | true => exact Or.inl rfl
      | false =>
        rw [Delivery.object_of_current? hfound] at hused
        refine Or.inr (addFinalizer_mem_onConfig.mpr ⟨⟨rfl, hcarries⟩, hused, ?_⟩)
        cases delivery with
        | created object => exact Or.inl (congrArg Delivery.created (Option.some.inj hfound))
        | updated old new =>
          exact Or.inr ⟨hstays, old, congrArg (Delivery.updated old) (Option.some.inj hfound)⟩
        | deleted object => cases hfound
    next => exact Or.inl (hguarded ref href config hfound hstays)

end Reconciler

end ClusterWatch
