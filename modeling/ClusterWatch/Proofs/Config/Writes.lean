import ClusterWatch.Proofs.Config.Deliveries

/-!
# The writes of the reconciler

Exactly which writes are issued for a delivery of a workload and for one of a config, by kind of
write. All that is proved about finalizers and config hashes rests on these six equivalences:

* `removeFinalizer_mem_onWorkload`, `addFinalizer_mem_onWorkload`, `setConfigHash_mem_onWorkload`;
* `removeFinalizer_mem_onConfig`, `addFinalizer_mem_onConfig`, `setConfigHash_mem_onConfig`.
-/

namespace ClusterWatch

namespace Reconciler

variable {stores : Stores} {write : ConfigWrite}

/-! ### The parts that handling is made of -/

/-- A config without the finalizer gets it, and nothing else is written. -/
theorem mem_protect {config : Config} :
    write ∈ protect config ↔
      config.hasFinalizer configFinalizer = false ∧
        write = .addFinalizer config configFinalizer := by
  rw [protect]
  cases config.hasFinalizer configFinalizer <;> simp

/-- A config with the finalizer loses it, and nothing else is written. -/
theorem mem_unprotect {config : Config} :
    write ∈ unprotect config ↔
      config.hasFinalizer configFinalizer = true ∧
        write = .removeFinalizer config configFinalizer := by
  rw [unprotect]
  cases config.hasFinalizer configFinalizer <;> simp

/-- To protect a reference is to protect the config in the store, if there is one. -/
theorem mem_protectRef {ns : String} {ref : ConfigRef} :
    write ∈ protectRef stores ns ref ↔
      ∃ config, stores.config? ns ref = some config ∧ write ∈ protect config := by
  rw [protectRef]
  cases stores.config? ns ref <;> simp

/-- Released are the configs that nobody uses any more and that wait for their deletion. -/
theorem mem_release {index : NamespaceIndex} {ns : String} {refs : ConfigRefs} :
    write ∈ release stores index ns refs ↔
      ∃ ref ∈ refs, ¬ index.References ref ∧
        ∃ config, stores.config? ns ref = some config ∧ config.isPendingDeletion = true ∧
          write ∈ unprotect config := by
  -- each reference is decided on its own, by the one index
  have href (ref : ConfigRef) :
      write ∈ releaseRef stores index ns ref ↔
        ¬ index.References ref ∧
          ∃ config, stores.config? ns ref = some config ∧ config.isPendingDeletion = true ∧
            write ∈ unprotect config := by
    rw [releaseRef, ← index.isUsed_iff]
    cases index.isUsed ref with
    | true => simp
    | false =>
      cases stores.config? ns ref with
      | none => simp
      | some config => cases hpending : config.isPendingDeletion <;> simp [hpending]
  simp only [release, List.mem_flatMap, href, Std.ExtTreeSet.mem_toList]

/-- A workload whose hash is not that of the cached configs gets that hash. -/
theorem mem_rollOut {workload : Workload} {refs : ConfigRefs} :
    write ∈ rollOut stores workload refs ↔
      workload.configHash? ≠ some (cachedHash stores workload.ns refs) ∧
        write = .setConfigHash workload (cachedHash stores workload.ns refs) := by
  rw [rollOut]
  split
  · simp [*]
  · simp [*]

/-- To roll out a user is to roll out the workload in the store, if there is one. -/
theorem mem_rollOutUser {ns : String} {key : WorkloadKey} :
    write ∈ rollOutUser stores ns key ↔
      ∃ workload, stores.workload? ns key = some workload ∧
        write ∈ rollOut stores workload workload.referencedConfigs := by
  rw [rollOutUser]
  cases stores.workload? ns key <;> simp

/-! ### Deliveries of workloads -/

section OnWorkload

variable {index : OwnershipIndex} {delivery : Delivery Workload}

/-- The writes for a delivery of a workload: what it refers to is protected, what it no longer
refers to is released, and it is rolled out itself. -/
theorem onWorkload_snd (stores : Stores) (index : OwnershipIndex) (delivery : Delivery Workload) :
    (onWorkload stores index delivery).2 =
      let ns := delivery.object.ns
      let previous := (index.within ns).refsOf delivery.object.key
      let inner := record (index.within ns) delivery
      match recorded delivery with
      | some refs =>
        refs.toList.flatMap (protectRef stores ns) ++ release stores inner ns (previous \ refs) ++
          rollOut stores delivery.object refs
      | none => release stores inner ns previous := by
  cases hcurrent : delivery.current? with
  | none => simp [onWorkload, hcurrent, forgetWorkload, record, recorded_of_gone hcurrent]
  | some workload =>
    have hobject := Delivery.object_of_current? hcurrent
    -- a workload is recorded exactly if it is there and has opted in
    by_cases hopted : workload.isOptedIn = true
    · have hrecorded := recorded_eq_some_iff.mpr ⟨workload, hcurrent, hopted, rfl⟩
      simp [onWorkload, hcurrent, hobject, reconcileWorkload, hopted, record, hrecorded]
    · have hrecorded := recorded_of_not_isOptedIn hcurrent hopted
      simp [onWorkload, hcurrent, hobject, reconcileWorkload, hopted, record, hrecorded]

/-- The recorded configs of a workload are in use once its delivery has been recorded. -/
theorem references_record_of_mem {inner : NamespaceIndex} {refs : ConfigRefs} {ref : ConfigRef}
    (hrecorded : recorded delivery = some refs) (href : ref ∈ refs) :
    (record inner delivery).References ref := by
  refine ⟨delivery.object.key, refs, ?_, href⟩
  rw [owners_record, if_pos rfl, hrecorded]

/-- A delivery of a workload takes the finalizer from the configs that wait for deletion, were
referred to before, and are used no longer. -/
theorem removeFinalizer_mem_onWorkload {config : Config} {finalizer : String} :
    .removeFinalizer config finalizer ∈ (onWorkload stores index delivery).2 ↔
      (finalizer = configFinalizer ∧ config.isPendingDeletion = true ∧
        config.hasFinalizer configFinalizer = true) ∧
      ∃ ref ∈ (index.within delivery.object.ns).refsOf delivery.object.key,
        ¬ (record (index.within delivery.object.ns) delivery).References ref ∧
          stores.config? delivery.object.ns ref = some config := by
  rw [onWorkload_snd]
  cases hrecorded : recorded delivery with
  | none =>
    simp only [mem_release, mem_unprotect, ConfigWrite.removeFinalizer.injEq]
    constructor
    · rintro ⟨ref, href, hunused, _, hconfig, hpending, hfinalizer, rfl, rfl⟩
      exact ⟨⟨rfl, hpending, hfinalizer⟩, ref, href, hunused, hconfig⟩
    · rintro ⟨⟨rfl, hpending, hfinalizer⟩, ref, href, hunused, hconfig⟩
      exact ⟨ref, href, hunused, config, hconfig, hpending, hfinalizer, rfl, rfl⟩
  | some refs =>
    simp only [List.mem_append, List.mem_flatMap, mem_protectRef, mem_protect, mem_release,
      mem_unprotect, mem_rollOut, ConfigWrite.removeFinalizer.injEq, reduceCtorEq, and_false,
      exists_false, or_false, false_or, Std.ExtTreeSet.mem_diff_iff]
    constructor
    · rintro ⟨ref, ⟨href, -⟩, hunused, _, hconfig, hpending, hfinalizer, rfl, rfl⟩
      exact ⟨⟨rfl, hpending, hfinalizer⟩, ref, href, hunused, hconfig⟩
    · rintro ⟨⟨rfl, hpending, hfinalizer⟩, ref, href, hunused, hconfig⟩
      -- what is referred to further on is in use, so it need not be excluded
      have hdropped : ref ∉ refs :=
        fun hkept => hunused (references_record_of_mem hrecorded hkept)
      exact ⟨ref, ⟨href, hdropped⟩, hunused, config, hconfig, hpending,
        hfinalizer, rfl, rfl⟩

/-- A delivery of a workload protects the configs that it leaves recorded for the workload and that
are cached without the finalizer. -/
theorem addFinalizer_mem_onWorkload {config : Config} {finalizer : String} :
    .addFinalizer config finalizer ∈ (onWorkload stores index delivery).2 ↔
      (finalizer = configFinalizer ∧ config.hasFinalizer configFinalizer = false) ∧
      ∃ refs, recorded delivery = some refs ∧
        ∃ ref ∈ refs, stores.config? delivery.object.ns ref = some config := by
  rw [onWorkload_snd]
  cases hrecorded : recorded delivery with
  | none => simp [mem_release, mem_unprotect]
  | some refs =>
    -- of the three parts of what is written, only the first one protects
    simp only [List.mem_append, List.mem_flatMap, mem_protectRef, mem_protect, mem_release,
      mem_unprotect, mem_rollOut, ConfigWrite.addFinalizer.injEq, reduceCtorEq, and_false,
      exists_false, or_false, Std.ExtTreeSet.mem_toList, Option.some.injEq, exists_eq_left']
    constructor
    · rintro ⟨ref, href, _, hconfig, hfinalizer, rfl, rfl⟩
      exact ⟨⟨rfl, hfinalizer⟩, ref, href, hconfig⟩
    · rintro ⟨⟨rfl, hfinalizer⟩, ref, href, hconfig⟩
      exact ⟨ref, href, config, hconfig, hfinalizer, rfl, rfl⟩

/-- A delivery of a workload that has opted in sets the hash of that workload, unless it
is up to date. -/
theorem setConfigHash_mem_onWorkload {workload : Workload} {hash : String} :
    .setConfigHash workload hash ∈ (onWorkload stores index delivery).2 ↔
      ∃ refs, recorded delivery = some refs ∧ workload = delivery.object ∧
        hash = cachedHash stores workload.ns refs ∧ workload.configHash? ≠ some hash := by
  rw [onWorkload_snd]
  cases hrecorded : recorded delivery with
  | none => simp [mem_release, mem_unprotect]
  | some refs =>
    -- of the three parts of what is written, only the last one sets a hash
    simp only [List.mem_append, List.mem_flatMap, mem_protectRef, mem_protect, mem_release,
      mem_unprotect, mem_rollOut, ConfigWrite.setConfigHash.injEq, reduceCtorEq, and_false,
      exists_false, false_or, Option.some.injEq, exists_eq_left']
    constructor
    · rintro ⟨hne, rfl, rfl⟩
      exact ⟨rfl, rfl, hne⟩
    · rintro ⟨rfl, rfl, hne⟩
      exact ⟨hne, rfl, rfl⟩

end OnWorkload

/-! ### Deliveries of configs -/

section OnConfig

variable {index : OwnershipIndex} {delivery : Delivery Config}

/-- A delivery of a config after which its users are rolled out: the config is new, or it has other
data than before and is there to stay. -/
def Outdates : Delivery Config → Prop
  | .created _ => True
  | .updated old new => new.isPendingDeletion = false ∧ old.data ≠ new.data
  | .deleted _ => False

/-- A config that is created is protected and its users are rolled out, if there are any. -/
theorem mem_configCreated {inner : NamespaceIndex} {config : Config} :
    write ∈ configCreated stores inner config ↔
      inner.References config.ref ∧
        (write ∈ protect config ∨
          ∃ key ∈ inner.usersOf config.ref, write ∈ rollOutUser stores config.ns key) := by
  rw [configCreated]
  by_cases hused : inner.References config.ref
  · have hempty := mt (inner.usersOf_isEmpty_iff config.ref).mp (not_not_intro hused)
    simp [hempty, hused, List.mem_flatMap]
  · have hempty := (inner.usersOf_isEmpty_iff config.ref).mpr hused
    simp [hempty, hused]

/-- A config that changes is released if it waits for deletion and is unused, and is protected if it
stays and is used; its users are rolled out if its data has changed as well. -/
theorem mem_configUpdated {inner : NamespaceIndex} {old new : Config} :
    write ∈ configUpdated stores inner old new ↔
      (new.isPendingDeletion = true ∧ ¬ inner.References new.ref ∧ write ∈ unprotect new) ∨
        (new.isPendingDeletion = false ∧ inner.References new.ref ∧
          (write ∈ protect new ∨ old.data ≠ new.data ∧
            ∃ key ∈ inner.usersOf new.ref, write ∈ rollOutUser stores new.ns key)) := by
  rw [configUpdated]
  -- the branches ask for users in the index, for a pending deletion, and for new data
  by_cases hused : inner.References new.ref
  · have hempty := mt (inner.usersOf_isEmpty_iff new.ref).mp (not_not_intro hused)
    cases hpending : new.isPendingDeletion with
    | true => simp [hempty, hused]
    | false =>
      by_cases hdata : old.data = new.data
      · simp [hempty, hused, hdata]
      · simp [hempty, hused, hdata, List.mem_flatMap]
  · have hempty := (inner.usersOf_isEmpty_iff new.ref).mpr hused
    cases hpending : new.isPendingDeletion <;> simp [hempty, hused]

/-- A delivery of a config takes the finalizer off it exactly if it is an update, the config waits
for deletion, and no workload refers to it. -/
theorem removeFinalizer_mem_onConfig {config : Config} {finalizer : String} :
    .removeFinalizer config finalizer ∈ onConfig stores index delivery ↔
      (finalizer = configFinalizer ∧ config.isPendingDeletion = true ∧
        config.hasFinalizer configFinalizer = true) ∧
      ¬ (index.within config.ns).References config.ref ∧
        ∃ old, delivery = .updated old config := by
  cases delivery with
  | created => simp [onConfig, mem_configCreated, mem_protect, mem_rollOutUser, mem_rollOut]
  | deleted => simp [onConfig]
  | updated old new =>
    -- of the two branches of an update, only the first one releases
    simp only [onConfig, mem_configUpdated, mem_protect, mem_unprotect,
      mem_rollOutUser, mem_rollOut, ConfigWrite.removeFinalizer.injEq, Delivery.updated.injEq,
      reduceCtorEq, and_false, exists_false, or_false]
    constructor
    · rintro ⟨hpending, hunused, hfinalizer, rfl, rfl⟩
      exact ⟨⟨rfl, hpending, hfinalizer⟩, hunused, old, rfl, rfl⟩
    · rintro ⟨⟨rfl, hpending, hfinalizer⟩, hunused, _, rfl, rfl⟩
      exact ⟨hpending, hunused, hfinalizer, rfl, rfl⟩

/-- A delivery of a config that is used protects it, but for an update of one that waits
for deletion. -/
theorem addFinalizer_mem_onConfig {config : Config} {finalizer : String} :
    .addFinalizer config finalizer ∈ onConfig stores index delivery ↔
      (finalizer = configFinalizer ∧ config.hasFinalizer configFinalizer = false) ∧
      (index.within config.ns).References config.ref ∧
      (delivery = .created config ∨
        config.isPendingDeletion = false ∧ ∃ old, delivery = .updated old config) := by
  cases delivery with
  | deleted => simp [onConfig]
  | created object =>
    simp only [onConfig, mem_configCreated, mem_protect, mem_rollOutUser, mem_rollOut,
      ConfigWrite.addFinalizer.injEq, Delivery.created.injEq, reduceCtorEq, and_false,
      exists_false, or_false]
    constructor
    · rintro ⟨hused, hfinalizer, rfl, rfl⟩
      exact ⟨⟨rfl, hfinalizer⟩, hused, rfl⟩
    · rintro ⟨⟨rfl, hfinalizer⟩, hused, rfl⟩
      exact ⟨hused, hfinalizer, rfl, rfl⟩
  | updated old new =>
    -- of the two branches of an update, only the second one protects
    simp only [onConfig, mem_configUpdated, mem_protect, mem_unprotect,
      mem_rollOutUser, mem_rollOut, ConfigWrite.addFinalizer.injEq, Delivery.updated.injEq,
      reduceCtorEq, and_false, exists_false, or_false, false_or]
    constructor
    · rintro ⟨hpending, hused, hfinalizer, rfl, rfl⟩
      exact ⟨⟨rfl, hfinalizer⟩, hused, hpending, old, rfl, rfl⟩
    · rintro ⟨⟨rfl, hfinalizer⟩, hused, hpending, _, rfl, rfl⟩
      exact ⟨hpending, hused, hfinalizer, rfl, rfl⟩

/-- A delivery of a config that has new content sets the hash of those users whose hash
is out of date. -/
theorem setConfigHash_mem_onConfig {workload : Workload} {hash : String} :
    .setConfigHash workload hash ∈ onConfig stores index delivery ↔
      Outdates delivery ∧
      ∃ key ∈ (index.within delivery.object.ns).usersOf delivery.object.ref,
        stores.workload? delivery.object.ns key = some workload ∧
          hash = cachedHash stores workload.ns workload.referencedConfigs ∧
          workload.configHash? ≠ some hash := by
  -- a user to be rolled out is a reference to the config, so the emptiness test never hides one
  have hused {inner : NamespaceIndex} {ref : ConfigRef} {key : WorkloadKey}
      (hkey : key ∈ inner.usersOf ref) : inner.References ref :=
    ⟨key, (inner.mem_usersOf key ref).mp hkey⟩
  cases delivery with
  | deleted => simp [onConfig, Outdates]
  | created object =>
    simp only [onConfig, mem_configCreated, mem_protect, mem_rollOutUser, mem_rollOut,
      ConfigWrite.setConfigHash.injEq, reduceCtorEq, and_false, false_or, Outdates, true_and,
      Delivery.object]
    constructor
    · rintro ⟨-, key, hkey, _, hworkload, hne, rfl, rfl⟩
      exact ⟨key, hkey, hworkload, rfl, hne⟩
    · rintro ⟨key, hkey, hworkload, rfl, hne⟩
      exact ⟨hused hkey, key, hkey, workload, hworkload, hne, rfl, rfl⟩
  | updated old new =>
    simp only [onConfig, mem_configUpdated, mem_protect, mem_unprotect,
      mem_rollOutUser, mem_rollOut, ConfigWrite.setConfigHash.injEq, reduceCtorEq, and_false,
      false_or, Outdates, Delivery.object]
    constructor
    · rintro ⟨hstays, -, hdata, key, hkey, _, hworkload, hne, rfl, rfl⟩
      exact ⟨⟨hstays, hdata⟩, key, hkey, hworkload, rfl, hne⟩
    · rintro ⟨⟨hstays, hdata⟩, key, hkey, hworkload, rfl, hne⟩
      exact ⟨hstays, hused hkey, hdata, key, hkey, workload, hworkload, hne, rfl, rfl⟩

end OnConfig

end Reconciler

end ClusterWatch
