import ClusterWatch.Proofs.Cluster.WellKept
import ClusterWatch.Proofs.Config.Writes

/-!
# Writes that land

What becomes of the cached objects when the writes of the reconciler have reached the cluster and
come back. A write sets the finalizers of one config as a whole, to those of the copy that it was
made from with one added or removed; or it sets the config hash among the annotations of the
template of one workload.

* `ConfigWrite.finalizersFor`, `ConfigWrite.hashFor` — what a write sets on the object of a name.
* `Stores.land`, `Stores.landAll` — the stores when writes have landed.
* `config?_landAll`, `workload?_landAll` — lookups find the same objects as before, as the
  writes leave them.
* `Config.hasFinalizer_afterAll`, `Workload.configHash?_afterAll` — of several writes the
  last one counts.
-/

namespace ClusterWatch

/-! ### What a write sets -/

namespace ConfigWrite

/-- The finalizers that a write sets on the config of that name. -/
def finalizersFor (write : ConfigWrite) (ns : String) (ref : ConfigRef) : Option (List String) :=
  match write with
  | .addFinalizer config finalizer =>
    if config.ns = ns ∧ config.ref = ref then Finalizers.adding? config.finalizers finalizer
    else none
  | .removeFinalizer config finalizer =>
    if config.ns = ns ∧ config.ref = ref then Finalizers.removing? config.finalizers finalizer
    else none
  | .setConfigHash _ _ => none

/-- The config hash that a write sets on the workload of that name. -/
def hashFor (write : ConfigWrite) (ns : String) (key : WorkloadKey) : Option String :=
  match write with
  | .setConfigHash workload hash =>
    if workload.ns = ns ∧ workload.key = key then some hash else none
  | _ => none

/-- If each write either sets some part of an object anew or leaves it as it is, then that part has
a property after several writes that all of them give it, provided it has had it before or one of
them sets it. -/
theorem holds_of_sets {σ β : Type} {after : σ → ConfigWrite → σ} {part : σ → β}
    (sets? : σ → ConfigWrite → Option β)
    (hafter : ∀ object write, part (after object write) = (sets? object write).getD (part object))
    (hsame : ∀ object write other, sets? (after object write) other = sets? object other)
    (p : β → Prop) {object : σ} {writes : List ConfigWrite}
    (hsets : ∀ write ∈ writes, ∀ value, sets? object write = some value → p value)
    (h : p (part object) ∨ ∃ write ∈ writes, (sets? object write).isSome = true) :
    p (part (writes.foldl after object)) := by
  induction writes generalizing object with
  | nil =>
    rcases h with hholds | ⟨write, hwrite, -⟩
    · exact hholds
    · cases hwrite
  | cons write rest ih =>
    refine ih (fun other hother => ?_) ?_
    · rw [hsame]
      exact hsets other (List.mem_cons_of_mem write hother)
    · simp only [hsame]
      rw [hafter]
      cases hset : sets? object write with
      | some value => exact Or.inl (hsets write List.mem_cons_self value hset)
      | none =>
        -- what sets the part is a later write then, if it is a write at all
        rcases h with hholds | ⟨other, hother, hsome⟩
        · exact Or.inl hholds
        · rcases List.mem_cons.mp hother with rfl | hrest
          · rw [hset] at hsome
            cases hsome
          · exact Or.inr ⟨other, hrest, hsome⟩

end ConfigWrite

namespace Config

/-- The metadata of a config when a write has landed. -/
def metadataAfter (config : Config) (write : ConfigWrite) : Metadata :=
  { config.metadata with
    finalizers := (write.finalizersFor config.ns config.ref).getD config.finalizers }

/-- A config when a write has landed. -/
def after (config : Config) (write : ConfigWrite) : Config :=
  match config with
  | .configMap object => .configMap { object with metadata := config.metadataAfter write }
  | .secret object => .secret { object with metadata := config.metadataAfter write }

/-- A config when several writes have landed. -/
def afterAll (config : Config) (writes : List ConfigWrite) : Config :=
  writes.foldl after config

variable (config : Config) (write : ConfigWrite) (writes : List ConfigWrite)

@[simp]
theorem ns_after : (config.after write).ns = config.ns := by
  cases config <;> rfl

@[simp]
theorem ref_after : (config.after write).ref = config.ref := by
  cases config <;> rfl

/-- A write leaves the data of a config. -/
@[simp]
theorem data_after : (config.after write).data = config.data := by
  cases config <;> rfl

/-- A write does not change whether a config waits for its deletion. -/
@[simp]
theorem isPendingDeletion_after :
    (config.after write).isPendingDeletion = config.isPendingDeletion := by
  cases config <;> rfl

/-- A write that is about the finalizers of a config replaces them, and no other does. -/
theorem finalizers_after :
    (config.after write).finalizers =
      (write.finalizersFor config.ns config.ref).getD config.finalizers := by
  cases config <;> rfl

@[simp]
theorem afterAll_cons :
    config.afterAll (write :: writes) = (config.after write).afterAll writes :=
  rfl

/-- Several writes leave the data of a config as well. -/
@[simp]
theorem data_afterAll : (config.afterAll writes).data = config.data := by
  induction writes generalizing config with
  | nil => rfl
  | cons write rest ih => rw [afterAll_cons, ih, data_after]

/-- They do not change whether it waits for its deletion. -/
@[simp]
theorem isPendingDeletion_afterAll :
    (config.afterAll writes).isPendingDeletion = config.isPendingDeletion := by
  induction writes generalizing config with
  | nil => rfl
  | cons write rest ih => rw [afterAll_cons, ih, isPendingDeletion_after]

/-- A config carries a finalizer in the end if it has carried it before or some write sets its
finalizers, provided none sets them without it. -/
theorem hasFinalizer_afterAll {config : Config} {writes : List ConfigWrite} {finalizer : String}
    (hsets : ∀ write ∈ writes, ∀ finalizers,
      write.finalizersFor config.ns config.ref = some finalizers → finalizer ∈ finalizers)
    (h : config.hasFinalizer finalizer = true ∨
      ∃ write ∈ writes, (write.finalizersFor config.ns config.ref).isSome = true) :
    (config.afterAll writes).hasFinalizer finalizer = true := by
  refine ConfigWrite.holds_of_sets
    (fun (config : Config) write => write.finalizersFor config.ns config.ref)
    finalizers_after ?_ (·.contains finalizer = true) ?_ h
  · intro config write other
    rw [ns_after, ref_after]
  · intro write hwrite finalizers hfinalizers
    exact List.contains_iff_mem.mpr (hsets write hwrite finalizers hfinalizers)

end Config

/-- A template that carries a config hash besides its other annotations; there need not have
been one before. -/
def PodTemplate.carrying (template : Option PodTemplate) (hash : String) : PodTemplate :=
  let template := template.getD ⟨none, [], [], []⟩
  { template with annotations := some ((template.annotations.getD ∅).insert configHashKey hash) }

namespace Workload

/-- The template of a workload when a write has landed. -/
def templateAfter (workload : Workload) (write : ConfigWrite) : Option PodTemplate :=
  match write.hashFor workload.ns workload.key with
  | some hash => some (.carrying workload.template hash)
  | none => workload.template

/-- A workload when a write has landed. -/
def after (workload : Workload) (write : ConfigWrite) : Workload :=
  ⟨workload.kind, { workload.object with template := workload.templateAfter write }⟩

/-- A workload when several writes have landed. -/
def afterAll (workload : Workload) (writes : List ConfigWrite) : Workload :=
  writes.foldl after workload

variable (workload : Workload) (write : ConfigWrite) (writes : List ConfigWrite)

@[simp]
theorem ns_after : (workload.after write).ns = workload.ns :=
  rfl

@[simp]
theorem key_after : (workload.after write).key = workload.key :=
  rfl

/-- A write does not change whether a workload has opted in. -/
@[simp]
theorem isOptedIn_after : (workload.after write).isOptedIn = workload.isOptedIn :=
  rfl

/-- The config hash is not among what makes up references. -/
@[simp]
theorem referencedConfigs_after :
    (workload.after write).referencedConfigs = workload.referencedConfigs := by
  have htemplate : (workload.after write).template = workload.templateAfter write := rfl
  rw [referencedConfigs, referencedConfigs, htemplate, templateAfter]
  cases write.hashFor workload.ns workload.key with
  | none => rfl
  | some hash => cases workload.template <;> rfl

/-- A write that is about the hash of a workload replaces it, and no other does. -/
theorem configHash?_after :
    (workload.after write).configHash? =
      (write.hashFor workload.ns workload.key).or workload.configHash? := by
  have htemplate : (workload.after write).template = workload.templateAfter write := rfl
  rw [configHash?, templateAnnotations, htemplate, templateAfter]
  cases write.hashFor workload.ns workload.key with
  | none => rfl
  | some hash => simp [PodTemplate.carrying]

@[simp]
theorem afterAll_cons :
    workload.afterAll (write :: writes) = (workload.after write).afterAll writes :=
  rfl

/-- Several writes do not change whether a workload has opted in. -/
@[simp]
theorem isOptedIn_afterAll : (workload.afterAll writes).isOptedIn = workload.isOptedIn := by
  induction writes generalizing workload with
  | nil => rfl
  | cons write rest ih => rw [afterAll_cons, ih, isOptedIn_after]

/-- They do not change which configs it refers to. -/
@[simp]
theorem referencedConfigs_afterAll :
    (workload.afterAll writes).referencedConfigs = workload.referencedConfigs := by
  induction writes generalizing workload with
  | nil => rfl
  | cons write rest ih => rw [afterAll_cons, ih, referencedConfigs_after]

/-- A workload carries a config hash in the end if it has carried it before or some write sets it,
provided none sets another one. -/
theorem configHash?_afterAll {workload : Workload} {writes : List ConfigWrite} {hash : String}
    (hsets : ∀ write ∈ writes, ∀ other,
      write.hashFor workload.ns workload.key = some other → other = hash)
    (h : workload.configHash? = some hash ∨
      ∃ write ∈ writes, write.hashFor workload.ns workload.key = some hash) :
    (workload.afterAll writes).configHash? = some hash := by
  -- a template may carry no hash, so what a write sets is a hash that is there
  have hafter (workload : Workload) (write : ConfigWrite) : (workload.after write).configHash? =
      ((write.hashFor workload.ns workload.key).map some).getD workload.configHash? := by
    rw [configHash?_after]
    cases write.hashFor workload.ns workload.key <;> rfl
  refine ConfigWrite.holds_of_sets
    (fun (workload : Workload) write => (write.hashFor workload.ns workload.key).map some) hafter
    (fun _ _ _ => rfl) (· = some hash) ?_ ?_
  · intro write hwrite value hvalue
    obtain ⟨other, hother, rfl⟩ := Option.map_eq_some_iff.mp hvalue
    rw [hsets write hwrite other hother]
  · refine h.imp_right ?_
    rintro ⟨write, hwrite, hset⟩
    refine ⟨write, hwrite, ?_⟩
    rw [hset]
    rfl

end Workload

/-! ### The stores -/

/-- A store with every object replaced. -/
def Store.map {α : Type} (store : Store α) (f : α → α) : Store α :=
  { store with objects := store.objects.map fun _ => f }

namespace Stores

/-- The stores when a write has landed. -/
def land (stores : Stores) (write : ConfigWrite) : Stores :=
  let config (object : ConfigMap) : ConfigMap :=
    { object with metadata := (Config.configMap object).metadataAfter write }
  let secret (object : Secret) : Secret :=
    { object with metadata := (Config.secret object).metadataAfter write }
  let workload (kind : WorkloadKind) (object : WorkloadObject) : WorkloadObject :=
    { object with template := (Workload.mk kind object).templateAfter write }
  { stores with
    configMaps := stores.configMaps.map config
    secrets := stores.secrets.map secret
    deployments := stores.deployments.map (workload .deployment)
    daemonSets := stores.daemonSets.map (workload .daemonSet)
    statefulSets := stores.statefulSets.map (workload .statefulSet) }

/-- The stores when several writes have landed. -/
def landAll (stores : Stores) (writes : List ConfigWrite) : Stores :=
  writes.foldl land stores

end Stores

namespace Store

variable {α : Type}

/-- An object is found where its former self was found. -/
theorem get?_map (store : Store α) (f : α → α) (ns name : String) :
    (store.map f).get? ns name = (store.get? ns name).map f := by
  -- the second attempt, at a cluster-wide object, is made in the same cases as before
  simp only [get?, map, Std.ExtTreeMap.getElem?_map]
  cases store.objects[(⟨some ns, name⟩ : ObjectId)]? <;> rfl

/-- A store stays well kept if its objects keep their names. -/
theorem WellKept.map [ClusterObject α] {store : Store α} (h : store.WellKept) {f : α → α}
    (hid : ∀ object,
      (ClusterObject.metadata (f object)).ns = (ClusterObject.metadata object).ns ∧
      (ClusterObject.metadata (f object)).name = (ClusterObject.metadata object).name ∧
      (ClusterObject.metadata (f object)).generateName =
        (ClusterObject.metadata object).generateName) :
    (store.map f).WellKept := by
  -- the identity of an object is made of the names that stay
  intro id object hobject
  simp only [Store.map, Std.ExtTreeMap.getElem?_map, Option.map_eq_some_iff] at hobject
  obtain ⟨object, hobject, rfl⟩ := hobject
  obtain ⟨hns, hname, hgenerate⟩ := hid object
  obtain ⟨rfl, hnamed⟩ := h id object hobject
  refine ⟨?_, ?_⟩
  · simp only [ClusterObject.id, Metadata.nameAny, hns, hname, hgenerate]
  · rw [ClusterObject.IsNamespaced, hns, hname]
    exact hnamed

end Store

namespace Stores

variable {stores : Stores}

/-- A write that lands keeps the stores well kept, for it leaves the identity of every object. -/
theorem WellKept.land (h : stores.WellKept) (write : ConfigWrite) :
    (stores.land write).WellKept where
  configMaps := h.configMaps.map fun _ => ⟨rfl, rfl, rfl⟩
  secrets := h.secrets.map fun _ => ⟨rfl, rfl, rfl⟩
  workloads := by
    intro kind
    have hkept := h.workloads kind
    cases kind <;> exact hkept.map fun _ => ⟨rfl, rfl, rfl⟩

/-- The configs after a write has landed are those before, with the write made to them. -/
theorem config?_land (stores : Stores) (write : ConfigWrite) (ns : String) (ref : ConfigRef) :
    (stores.land write).config? ns ref = (stores.config? ns ref).map (·.after write) := by
  obtain ⟨kind, name⟩ := ref
  cases kind <;> simp only [config?, land, Store.get?_map, Option.map_map] <;> rfl

/-- So are the workloads. -/
theorem workload?_land (stores : Stores) (write : ConfigWrite) (ns : String) (key : WorkloadKey) :
    (stores.land write).workload? ns key = (stores.workload? ns key).map (·.after write) := by
  obtain ⟨kind, name⟩ := key
  cases kind <;> simp only [workload?, land, Store.get?_map, Option.map_map] <;> rfl

/-- Several writes that land keep the stores well kept. -/
theorem WellKept.landAll (h : stores.WellKept) (writes : List ConfigWrite) :
    (stores.landAll writes).WellKept := by
  induction writes generalizing stores with
  | nil => exact h
  | cons write rest ih => exact ih (h.land write)

/-- When writes have landed, a lookup finds the config as the writes leave it. -/
theorem config?_landAll (stores : Stores) (writes : List ConfigWrite) (ns : String)
    (ref : ConfigRef) :
    (stores.landAll writes).config? ns ref =
      (stores.config? ns ref).map (·.afterAll writes) := by
  induction writes generalizing stores with
  | nil => exact Option.map_id'.symm
  | cons write rest ih =>
    refine (ih (stores.land write)).trans ?_
    rw [config?_land, Option.map_map]
    rfl

/-- When writes have landed, a lookup finds the workload as the writes leave it. -/
theorem workload?_landAll (stores : Stores) (writes : List ConfigWrite) (ns : String)
    (key : WorkloadKey) :
    (stores.landAll writes).workload? ns key =
      (stores.workload? ns key).map (·.afterAll writes) := by
  induction writes generalizing stores with
  | nil => exact Option.map_id'.symm
  | cons write rest ih =>
    refine (ih (stores.land write)).trans ?_
    rw [workload?_land, Option.map_map]
    rfl

end Stores

end ClusterWatch
