import Mathlib.Data.List.Induction
import ClusterWatch.Proofs.Cluster.WellKept

/-!
# Objects under their own identity

Whatever the watches show, and in whatever order, a store holds its objects under their own
identity. Unlike in a well-kept store, objects may lack a namespace or a name.

* `Store.Filed`, `Stores.Filed` — objects are held in this way; `filed_watched` says so of the
  stores after any watch events.
* `Stores.configAt?`, `Stores.workloadAt?` — what is held in a place, that is under a kind
  and an identity.
* `Filed.of_config?` — what a reference leads to is held in its place, and no other
  reference leads to it.
* `configAt?_observe_config`, `workloadAt?_observe_workload` — an object that is applied is held
  in its place, and nothing else changes.
-/

namespace ClusterWatch

/-! ### One store -/

/-- A store all of whose objects, shown or listed, are held under their own identity. -/
structure Store.Filed {α : Type} [ClusterObject α] (store : Store α) : Prop where
  /-- The objects that the store shows. -/
  objects : ∀ id object, store.objects[id]? = some object → ClusterObject.id object = id
  /-- The objects that a listing has named so far. -/
  listed : ∀ id object, store.listed[id]? = some object → ClusterObject.id object = id

namespace Store

variable {α : Type} [ClusterObject α]

theorem filed_empty : (empty : Store α).Filed where
  objects := by simp [empty]
  listed := by simp [empty]

/-- Every event of a watch keeps a store filed. -/
theorem Filed.observe {store : Store α} (h : store.Filed) (event : WatchEvent α) :
    (store.observe event).Filed := by
  cases event with
  | apply object => exact ⟨forall_getElem?_insert h.objects rfl, h.listed⟩
  | delete object => exact ⟨forall_getElem?_erase h.objects _, h.listed⟩
  | init => exact ⟨h.objects, filed_empty.listed⟩
  | initApply object => exact ⟨h.objects, forall_getElem?_insert h.listed rfl⟩
  | initDone => exact ⟨h.listed, filed_empty.listed⟩

/-- An object that is applied is held under its identity. -/
theorem objects_observe_apply (store : Store α) (object : α) (id : ObjectId) :
    (store.observe (.apply object)).objects[id]? =
      if ClusterObject.id object = id then some object else store.objects[id]? := by
  simp only [observe, Std.ExtTreeMap.getElem?_insert, Std.LawfulEqCmp.compare_eq_iff_eq]

end Store

/-! ### The stores of configs and workloads -/

/-- The kind and the identity of a config. -/
def Config.place (config : Config) : ConfigKind × ObjectId :=
  (config.kind, ClusterObject.id config)

/-- The kind and the identity of a workload. -/
def Workload.place (workload : Workload) : WorkloadKind × ObjectId :=
  (workload.kind, ClusterObject.id workload)

namespace Stores

/-- Stores of configs and of workloads that are filed. -/
structure Filed (stores : Stores) : Prop where
  /-- Of config maps. -/
  configMaps : stores.configMaps.Filed
  /-- Of secrets. -/
  secrets : stores.secrets.Filed
  /-- Of the workloads of each kind. -/
  workloads : ∀ kind, (stores.workloads kind).Filed

theorem filed_empty : empty.Filed where
  configMaps := Store.filed_empty
  secrets := Store.filed_empty
  workloads := by
    intro kind
    cases kind <;> exact Store.filed_empty

/-- Every event of a watch keeps the stores filed. -/
theorem Filed.observe {stores : Stores} (h : stores.Filed) (observation : Observation) :
    (stores.observe observation).Filed := by
  -- an event on the workloads of one kind is none on those of another one
  have hworkload (kind other : WorkloadKind) (event : WatchEvent WorkloadObject) :
      (if kind = other then (stores.workloads other).observe event
        else stores.workloads other).Filed := by
    split
    · exact (h.workloads other).observe event
    · exact h.workloads other
  cases observation with
  | configMaps event => exact ⟨h.configMaps.observe event, h.secrets, h.workloads⟩
  | secrets event => exact ⟨h.configMaps, h.secrets.observe event, h.workloads⟩
  | deployments event =>
    refine ⟨h.configMaps, h.secrets, fun kind => ?_⟩
    have hkind := hworkload .deployment kind event
    cases kind <;> exact hkind
  | daemonSets event =>
    refine ⟨h.configMaps, h.secrets, fun kind => ?_⟩
    have hkind := hworkload .daemonSet kind event
    cases kind <;> exact hkind
  | statefulSets event =>
    refine ⟨h.configMaps, h.secrets, fun kind => ?_⟩
    have hkind := hworkload .statefulSet kind event
    cases kind <;> exact hkind
  | _ => exact ⟨h.configMaps, h.secrets, h.workloads⟩

/-- The stores after watch events, from the beginning. -/
def watched (history : List Observation) : Stores :=
  history.foldl observe .empty

/-- What is watched is always filed. -/
theorem filed_watched (history : List Observation) : (watched history).Filed := by
  induction history using List.reverseRecOn with
  | nil => exact filed_empty
  | append_singleton history last ih =>
    rw [watched, List.foldl_concat]
    exact ih.observe last

/-- The config that is held under a kind and an identity. -/
def configAt? (stores : Stores) (place : ConfigKind × ObjectId) : Option Config :=
  match place.1 with
  | .configMap => stores.configMaps.objects[place.2]?.map .configMap
  | .secret => stores.secrets.objects[place.2]?.map .secret

/-- The workload that is held under a kind and an identity. -/
def workloadAt? (stores : Stores) (place : WorkloadKind × ObjectId) : Option Workload :=
  (stores.workloads place.1).objects[place.2]?.map (⟨place.1, ·⟩)

variable {stores : Stores}

/-- A config that is found somewhere belongs there. -/
theorem Filed.place_config (h : stores.Filed) {place : ConfigKind × ObjectId} {config : Config}
    (hconfig : stores.configAt? place = some config) : config.place = place := by
  obtain ⟨kind, id⟩ := place
  cases kind with
  | configMap =>
    obtain ⟨object, hobject, rfl⟩ := Option.map_eq_some_iff.mp hconfig
    exact congrArg _ (h.configMaps.objects id object hobject)
  | secret =>
    obtain ⟨object, hobject, rfl⟩ := Option.map_eq_some_iff.mp hconfig
    exact congrArg _ (h.secrets.objects id object hobject)

/-- So does a workload. -/
theorem Filed.place_workload (h : stores.Filed) {place : WorkloadKind × ObjectId}
    {workload : Workload} (hworkload : stores.workloadAt? place = some workload) :
    workload.place = place := by
  obtain ⟨kind, id⟩ := place
  obtain ⟨object, hobject, rfl⟩ := Option.map_eq_some_iff.mp hworkload
  exact congrArg _ ((h.workloads kind).objects id object hobject)

/-- A reference leads to the config of that name in the namespace, or else to the
cluster-wide one. -/
theorem config?_eq (stores : Stores) (ns : String) (ref : ConfigRef) :
    stores.config? ns ref =
      (stores.configAt? (ref.kind, ⟨some ns, ref.name⟩)).or
        (stores.configAt? (ref.kind, ⟨none, ref.name⟩)) := by
  obtain ⟨kind, name⟩ := ref
  cases kind with
  | configMap =>
    simp only [config?, configAt?, Store.get?]
    -- the namespace is asked first, and the cluster only if it has nothing
    cases stores.configMaps.objects[(⟨some ns, name⟩ : ObjectId)]? <;> rfl
  | secret =>
    simp only [config?, configAt?, Store.get?]
    cases stores.secrets.objects[(⟨some ns, name⟩ : ObjectId)]? <;> rfl

/-- A config that is found is held in its place, and its place tells the reference
that leads to it. -/
theorem Filed.of_config? (h : stores.Filed) {ns : String} {ref : ConfigRef} {config : Config}
    (hconfig : stores.config? ns ref = some config) :
    stores.configAt? config.place = some config ∧
      ref = ⟨config.place.1, config.place.2.name⟩ := by
  rw [config?_eq, Option.or_eq_some_iff] at hconfig
  rcases hconfig with hat | ⟨-, hat⟩
  · rw [h.place_config hat]
    exact ⟨hat, rfl⟩
  · rw [h.place_config hat]
    exact ⟨hat, rfl⟩

/-! ### Changes of what is held -/

/-- A config that is applied is held in its place. -/
theorem configAt?_observe_config (stores : Stores) (config : Config)
    (place : ConfigKind × ObjectId) :
    (stores.observe (config.observation .applied)).configAt? place =
      if config.place = place then some config else stores.configAt? place := by
  obtain ⟨kind, id⟩ := place
  -- config maps and secrets are held in stores of their own
  cases config with
  | configMap object =>
    cases kind with
    | configMap =>
      simp only [configAt?, Config.observation, Change.event, observe, Store.objects_observe_apply,
        Config.place, Config.kind, Prod.mk.injEq, true_and, apply_ite (Option.map _)]
      rfl
    | secret => simp [configAt?, Config.observation, observe, Config.place, Config.kind]
  | secret object =>
    cases kind with
    | configMap => simp [configAt?, Config.observation, observe, Config.place, Config.kind]
    | secret =>
      simp only [configAt?, Config.observation, Change.event, observe, Store.objects_observe_apply,
        Config.place, Config.kind, Prod.mk.injEq, true_and, apply_ite (Option.map _)]
      rfl

/-- A workload that is applied is held in its place. -/
theorem workloadAt?_observe_workload (stores : Stores) (workload : Workload)
    (place : WorkloadKind × ObjectId) :
    (stores.observe (workload.observation .applied)).workloadAt? place =
      if workload.place = place then some workload else stores.workloadAt? place := by
  obtain ⟨kind, id⟩ := place
  rw [workloadAt?, workloads_observe_workload]
  -- the stores of other kinds are left alone
  by_cases hkind : workload.kind = kind
  · subst hkind
    simp only [if_true, Change.event, Store.objects_observe_apply, Workload.place,
      Prod.mk.injEq, true_and, apply_ite (Option.map _)]
    rfl
  · simp [Workload.place, hkind, workloadAt?]

/-- Changes to workloads leave the configs. -/
theorem configAt?_observe_workload (stores : Stores) (change : Change) (workload : Workload)
    (place : ConfigKind × ObjectId) :
    (stores.observe (workload.observation change)).configAt? place = stores.configAt? place := by
  obtain ⟨kind, object⟩ := workload
  cases kind <;> rfl

end Stores

end ClusterWatch
