import ClusterWatch.Cluster.Stores
import ClusterWatch.Proofs.Collections

/-!
# Well-kept stores

A config or a workload lives in a namespace and carries a name. A store is well kept if it holds
only such objects, each under its own identity; then a lookup finds at most the object that was
asked for, and never a cluster-wide object in its place.

* `Store.WellKept`, `Stores.WellKept` say this of one store and of the stores of
  configs and workloads.
* `Store.Keyed` says only that every object is held under its own identity; `Keyed.pairwise_within`
  — the objects of a namespace stand in the order of their names.
* `Store.mem_within` — the objects of a namespace are those that a lookup finds there.
* `Change` is what a watch shows of a single object outside of listings; `Config.observation` and
  `Workload.observation` are the events by which configs and workloads come, change and go.
* `Config.find?`, `Workload.find?` — looking up by kind and name, and what one
  change comes to there.
* Such an event keeps the stores well kept (`WellKept.config`, `WellKept.workload`) and changes one
  lookup, that of the object it is about (`config?_observe_config`, `workload?_observe_workload`).
-/

namespace ClusterWatch

/-! ### Objects within a namespace -/

namespace ClusterObject

variable {α : Type} [ClusterObject α]

/-- An object that lives in a namespace and carries a name. -/
def IsNamespaced (object : α) : Prop :=
  (metadata object).ns.isSome = true ∧ (metadata object).name.isSome = true

instance (object : α) : Decidable (IsNamespaced object) :=
  inferInstanceAs (Decidable (_ ∧ _))

/-- The identity of a namespaced object is made of its namespace and its name. -/
theorem id_of_isNamespaced {object : α} (h : IsNamespaced object) :
    id object = ⟨some (ns object), name object⟩ := by
  obtain ⟨hns, -⟩ := h
  obtain ⟨ns, hns⟩ := Option.isSome_iff_exists.mp hns
  simp [id, ClusterObject.ns, Metadata.nsText, ClusterObject.name, hns]

/-- A namespaced object is known by the name in its metadata. -/
theorem name_of_isNamespaced {object : α} (h : IsNamespaced object) :
    name object = (metadata object).name.getD "" := by
  obtain ⟨-, hname⟩ := h
  obtain ⟨name, hname⟩ := Option.isSome_iff_exists.mp hname
  simp [ClusterObject.name, Metadata.nameAny, hname]

end ClusterObject

/-- A config is an object of the cluster by its metadata. -/
instance : ClusterObject Config := ⟨Config.metadata⟩

/-- A workload is an object of the cluster by its metadata. -/
instance : ClusterObject Workload := ⟨Workload.metadata⟩

theorem Config.name_eq {config : Config} (h : ClusterObject.IsNamespaced config) :
    config.name = ClusterObject.name config :=
  (ClusterObject.name_of_isNamespaced h).symm

theorem Workload.name_eq {workload : Workload} (h : ClusterObject.IsNamespaced workload) :
    workload.name = ClusterObject.name workload :=
  (ClusterObject.name_of_isNamespaced h).symm

/-! ### Single changes -/

/-- What a watch shows of a single object outside of listings. -/
inductive Change where
  /-- The object has come to exist or has changed. -/
  | applied
  /-- The object has ceased to exist. -/
  | deleted
  deriving DecidableEq, Repr

namespace Change

variable {α : Type}

/-- The watch event of a change of an object. -/
def event (change : Change) (object : α) : WatchEvent α :=
  match change with
  | applied => .apply object
  | deleted => .delete object

/-- What is there of an object after a change of it. -/
def state? (change : Change) (object : α) : Option α :=
  match change with
  | applied => some object
  | deleted => none

/-- A change leaves an object there exactly if the object has been applied. -/
theorem state?_eq_some_iff {change : Change} {object current : α} :
    change.state? object = some current ↔ change = .applied ∧ object = current := by
  cases change <;> simp [state?]

/-- What a change leaves of an object tells what it leaves of something made of the object. -/
theorem map_state? {β : Type} (change : Change) (object : α) (f : α → β) :
    (change.state? object).map f = change.state? (f object) := by
  cases change <;> rfl

end Change

/-! ### One store -/

namespace Store

variable {α : Type} [ClusterObject α]

/-- A store that holds only namespaced objects, each under its own identity. -/
def WellKept (store : Store α) : Prop :=
  ∀ id object, store.objects[id]? = some object →
    ClusterObject.id object = id ∧ ClusterObject.IsNamespaced object

theorem wellKept_empty : (empty : Store α).WellKept := by
  intro id object h
  simp [empty] at h

omit [ClusterObject α] in
theorem get?_empty (ns name : String) : (empty : Store α).get? ns name = none := by
  simp [get?, empty]

/-- In a well-kept store a lookup never falls back on a cluster-wide object. -/
theorem get?_eq {store : Store α} (h : store.WellKept) (ns name : String) :
    store.get? ns name = store.objects[(⟨some ns, name⟩ : ObjectId)]? := by
  -- a cluster-wide object would not be held under its own identity
  have hnone : store.objects[(⟨none, name⟩ : ObjectId)]? = none := by
    rw [Option.eq_none_iff_forall_ne_some]
    intro object hobject
    obtain ⟨hid, hnamed⟩ := h _ _ hobject
    rw [ClusterObject.id_of_isNamespaced hnamed] at hid
    simp at hid
  rw [get?, hnone]
  simp

/-- What a lookup in a well-kept store finds lives in that namespace and carries that name. -/
theorem isNamespaced_of_get? {store : Store α} (h : store.WellKept) {ns name : String}
    {object : α} (hget : store.get? ns name = some object) :
    ClusterObject.IsNamespaced object ∧
      ClusterObject.ns object = ns ∧ ClusterObject.name object = name := by
  rw [get?_eq h] at hget
  obtain ⟨hid, hnamed⟩ := h _ _ hget
  rw [ClusterObject.id_of_isNamespaced hnamed] at hid
  simp only [ObjectId.mk.injEq, Option.some.injEq] at hid
  exact ⟨hnamed, hid⟩

/-- A store that holds every object under its own identity, so that no two have the same
namespace and name. -/
def Keyed (store : Store α) : Prop :=
  ∀ id object, store.objects[id]? = some object → ClusterObject.id object = id

/-- In a well-kept store, objects are held under their own identity. -/
theorem WellKept.keyed {store : Store α} (h : store.WellKept) : store.Keyed :=
  fun id object hobject => (h id object hobject).1

/-- The objects of a namespace are those that are held under it and their own names. -/
theorem Keyed.mem_within {store : Store α} (h : store.Keyed) {ns : String} {object : α} :
    object ∈ store.within ns ↔
      store.objects[(⟨some ns, ClusterObject.name object⟩ : ObjectId)]? = some object := by
  simp only [within, toList, List.mem_filter, List.mem_map, Prod.exists, exists_eq_right,
    Std.ExtTreeMap.mem_toList_iff_getElem?_eq_some, decide_eq_true_eq]
  constructor
  -- the identity under which an object is held is its own
  · rintro ⟨⟨id, hobject⟩, hns⟩
    rw [← hobject, ← h id object hobject, ClusterObject.id, hns]
    rfl
  · intro hobject
    exact ⟨⟨_, hobject⟩, congrArg ObjectId.ns (h _ object hobject)⟩

/-- The objects of a namespace stand in the order of their names. -/
theorem Keyed.pairwise_within {store : Store α} (h : store.Keyed) (ns : String) :
    (store.within ns).Pairwise fun one other =>
      ClusterObject.name one < ClusterObject.name other := by
  rw [within, toList, List.pairwise_filter, List.pairwise_map]
  refine List.Pairwise.imp_of_mem ?_ store.objects.ordered_keys_toList
  rintro ⟨id, object⟩ ⟨otherId, other⟩ hobject hother hlt hns hotherNs
  have hid := h id object (Std.ExtTreeMap.mem_toList_iff_getElem?_eq_some.mp hobject)
  have hotherId := h otherId other (Std.ExtTreeMap.mem_toList_iff_getElem?_eq_some.mp hother)
  rw [decide_eq_true_eq] at hns hotherNs
  -- identities are ordered by namespace first, and here the namespaces are the same
  have hcompare :
      (compareOn ObjectId.ns id otherId).then (compareOn ObjectId.name id otherId) = .lt := hlt
  have hsame : compareOn ObjectId.ns id otherId = .eq := by
    rw [compareOn, ← hid, ← hotherId, ClusterObject.id, ClusterObject.id, hns, hotherNs]
    exact Std.ReflOrd.compare_self
  rw [hsame, Ordering.eq_then, ← hid, ← hotherId] at hcompare
  exact compareOfLessAndEq_eq_lt.mp hcompare

/-- The objects of a namespace in a well-kept store are those that a lookup there finds. -/
theorem mem_within {store : Store α} (h : store.WellKept) {ns : String} {object : α} :
    object ∈ store.within ns ↔ store.get? ns (ClusterObject.name object) = some object := by
  rw [h.keyed.mem_within, get?_eq h]

/-- A change of a namespaced object keeps a store well kept. -/
theorem WellKept.observe {store : Store α} (h : store.WellKept) (change : Change) {object : α}
    (hobject : ClusterObject.IsNamespaced object) :
    (store.observe (change.event object)).WellKept := by
  cases change with
  | applied => exact forall_getElem?_insert h ⟨rfl, hobject⟩
  | deleted => exact forall_getElem?_erase h _

/-- A change of a namespaced object is a change of what its name leads to, and of nothing else. -/
theorem get?_observe {store : Store α} (h : store.WellKept) (change : Change) {object : α}
    (hobject : ClusterObject.IsNamespaced object) (ns name : String) :
    (store.observe (change.event object)).get? ns name =
      if ClusterObject.ns object = ns ∧ ClusterObject.name object = name then change.state? object
      else store.get? ns name := by
  rw [get?_eq (h.observe change hobject), get?_eq h]
  cases change <;>
    simp only [Change.event, Change.state?, Store.observe, Std.ExtTreeMap.getElem?_insert,
      Std.ExtTreeMap.getElem?_erase, Std.LawfulEqCmp.compare_eq_iff_eq,
      ClusterObject.id_of_isNamespaced hobject, ObjectId.mk.injEq, Option.some.injEq]

end Store

/-! ### Changes of configs and workloads -/

/-- The watch event of a change of a config. -/
def Config.observation (change : Change) : Config → Observation
  | .configMap config => .configMaps (change.event config)
  | .secret config => .secrets (change.event config)

/-- The watch event of a change of a workload. -/
def Workload.observation (change : Change) (workload : Workload) : Observation :=
  match workload.kind with
  | .deployment => .deployments (change.event workload.object)
  | .daemonSet => .daemonSets (change.event workload.object)
  | .statefulSet => .statefulSets (change.event workload.object)

/-! ### Looking up by kind -/

/-- What is found by a reference, given what is found of config maps and of secrets
by their names. -/
def Config.find? (configMap? : String → Option ConfigMap) (secret? : String → Option Secret)
    (ref : ConfigRef) : Option Config :=
  match ref.kind with
  | .configMap => (configMap? ref.name).map .configMap
  | .secret => (secret? ref.name).map .secret

/-- What is found by a key, given what is found of the workloads of each kind by their names. -/
def Workload.find? (object? : WorkloadKind → String → Option WorkloadObject)
    (key : WorkloadKey) :
    Option Workload :=
  (object? key.kind key.name).map (⟨key.kind, ·⟩)

section Find

variable {change : Change} {ns : String} {configMap? : String → Option ConfigMap}
  {secret? : String → Option Secret} {object? : WorkloadKind → String → Option WorkloadObject}

/-- If a change of a config map is one of what its name leads to, it is one of what
references lead to. -/
theorem Config.find?_configMap {changed? : String → Option ConfigMap} {object : ConfigMap}
    (hobject : ClusterObject.IsNamespaced object)
    (hchanged : ∀ name, changed? name =
      if ClusterObject.ns object = ns ∧ ClusterObject.name object = name then change.state? object
      else configMap? name) (ref : ConfigRef) :
    Config.find? changed? secret? ref =
      if (Config.configMap object).ns = ns ∧ (Config.configMap object).ref = ref then
        change.state? (.configMap object)
      else Config.find? configMap? secret? ref := by
  obtain ⟨kind, name⟩ := ref
  have hconfig : ClusterObject.IsNamespaced (Config.configMap object) := hobject
  have hname : (Config.configMap object).name = ClusterObject.name object := Config.name_eq hconfig
  cases kind with
  | configMap =>
    simp only [Config.find?, hchanged, Config.ref, hname, ConfigRef.mk.injEq, Config.kind, true_and]
    rw [apply_ite (Option.map _), Change.map_state?]
    rfl
  | secret => simp [Config.find?, Config.ref, Config.kind]

/-- If a change of a secret is one of what its name leads to, it is one of what
references lead to. -/
theorem Config.find?_secret {changed? : String → Option Secret} {object : Secret}
    (hobject : ClusterObject.IsNamespaced object)
    (hchanged : ∀ name, changed? name =
      if ClusterObject.ns object = ns ∧ ClusterObject.name object = name then change.state? object
      else secret? name) (ref : ConfigRef) :
    Config.find? configMap? changed? ref =
      if (Config.secret object).ns = ns ∧ (Config.secret object).ref = ref then
        change.state? (.secret object)
      else Config.find? configMap? secret? ref := by
  obtain ⟨kind, name⟩ := ref
  have hconfig : ClusterObject.IsNamespaced (Config.secret object) := hobject
  have hname : (Config.secret object).name = ClusterObject.name object := Config.name_eq hconfig
  cases kind with
  | configMap => simp [Config.find?, Config.ref, Config.kind]
  | secret =>
    simp only [Config.find?, hchanged, Config.ref, hname, ConfigRef.mk.injEq, Config.kind, true_and]
    rw [apply_ite (Option.map _), Change.map_state?]
    rfl

/-- If a change of a workload is one of what its name leads to among the workloads of its kind, it
is one of what keys lead to. -/
theorem Workload.find?_workload {changed? : WorkloadKind → String → Option WorkloadObject}
    {workload : Workload} (hworkload : ClusterObject.IsNamespaced workload)
    (hchanged : ∀ kind name, changed? kind name =
      if workload.kind = kind ∧ ClusterObject.ns workload.object = ns ∧
          ClusterObject.name workload.object = name then
        change.state? workload.object
      else object? kind name) (key : WorkloadKey) :
    Workload.find? changed? key =
      if workload.ns = ns ∧ workload.key = key then change.state? workload
      else Workload.find? object? key := by
  obtain ⟨kind, name⟩ := key
  rw [Workload.find?, hchanged, Workload.key, Workload.name_eq hworkload, apply_ite (Option.map _),
    Change.map_state?]
  -- workloads of different kinds may share a name
  by_cases hkind : workload.kind = kind
  · subst hkind
    simp only [WorkloadKey.mk.injEq, true_and]
    rfl
  · simp only [WorkloadKey.mk.injEq, hkind, false_and, and_false, if_false]
    rfl

end Find

/-! ### The stores of configs and workloads -/

namespace Stores

/-- The store of the workloads of a kind. -/
def workloads (stores : Stores) : WorkloadKind → Store WorkloadObject
  | .deployment => stores.deployments
  | .daemonSet => stores.daemonSets
  | .statefulSet => stores.statefulSets

/-- Well-kept stores of configs and of workloads. -/
structure WellKept (stores : Stores) : Prop where
  /-- Of config maps. -/
  configMaps : stores.configMaps.WellKept
  /-- Of secrets. -/
  secrets : stores.secrets.WellKept
  /-- Of the workloads of each kind. -/
  workloads : ∀ kind, (stores.workloads kind).WellKept

theorem wellKept_empty : Stores.empty.WellKept where
  configMaps := Store.wellKept_empty
  secrets := Store.wellKept_empty
  workloads := by
    intro kind
    cases kind <;> exact Store.wellKept_empty

/-- A workload is looked up in the store of its kind. -/
theorem workload?_eq (stores : Stores) (ns : String) (key : WorkloadKey) :
    stores.workload? ns key =
      Workload.find? (fun kind => (stores.workloads kind).get? ns) key := by
  obtain ⟨kind, name⟩ := key
  cases kind <;> rfl

@[simp]
theorem config?_empty (ns : String) (ref : ConfigRef) : empty.config? ns ref = none := by
  obtain ⟨kind, name⟩ := ref
  cases kind <;> simp [config?, empty, Store.get?, Store.empty]

@[simp]
theorem workload?_empty (ns : String) (key : WorkloadKey) : empty.workload? ns key = none := by
  obtain ⟨kind, name⟩ := key
  cases kind <;> simp [workload?, empty, Store.get?, Store.empty]

variable {stores : Stores}

/-- A config that is found lives where it was looked for and is the one referred to. -/
theorem WellKept.of_config? (h : stores.WellKept) {ns : String} {ref : ConfigRef} {config : Config}
    (hconfig : stores.config? ns ref = some config) :
    ClusterObject.IsNamespaced config ∧ config.ns = ns ∧ config.ref = ref := by
  obtain ⟨kind, name⟩ := ref
  -- config maps and secrets are kept apart, in the same way
  cases kind with
  | configMap =>
    obtain ⟨object, hget, rfl⟩ := Option.map_eq_some_iff.mp hconfig
    obtain ⟨hnamed, hns, hname⟩ := Store.isNamespaced_of_get? h.configMaps hget
    have hconfig : ClusterObject.IsNamespaced (Config.configMap object) := hnamed
    refine ⟨hconfig, hns, ?_⟩
    rw [Config.ref, Config.name_eq hconfig]
    exact congrArg (ConfigRef.mk .configMap) hname
  | secret =>
    obtain ⟨object, hget, rfl⟩ := Option.map_eq_some_iff.mp hconfig
    obtain ⟨hnamed, hns, hname⟩ := Store.isNamespaced_of_get? h.secrets hget
    have hconfig : ClusterObject.IsNamespaced (Config.secret object) := hnamed
    refine ⟨hconfig, hns, ?_⟩
    rw [Config.ref, Config.name_eq hconfig]
    exact congrArg (ConfigRef.mk .secret) hname

/-- A workload that is found lives where it was looked for and has the key asked for. -/
theorem WellKept.of_workload? (h : stores.WellKept) {ns : String} {key : WorkloadKey}
    {workload : Workload} (hworkload : stores.workload? ns key = some workload) :
    ClusterObject.IsNamespaced workload ∧ workload.ns = ns ∧ workload.key = key := by
  rw [workload?_eq] at hworkload
  obtain ⟨object, hget, rfl⟩ := Option.map_eq_some_iff.mp hworkload
  obtain ⟨hnamed, hns, hname⟩ := Store.isNamespaced_of_get? (h.workloads key.kind) hget
  have hworkload : ClusterObject.IsNamespaced (Workload.mk key.kind object) := hnamed
  refine ⟨hworkload, hns, ?_⟩
  rw [Workload.key, Workload.name_eq hworkload]
  exact congrArg (WorkloadKey.mk key.kind) hname

/-! ### Changes of configs and workloads in the stores -/

/-- A change to a config leaves the stores of workloads. -/
@[simp]
theorem workloads_observe_config (change : Change) (config : Config) (kind : WorkloadKind) :
    (stores.observe (config.observation change)).workloads kind = stores.workloads kind := by
  cases config <;> cases kind <;> rfl

/-- A change to a workload changes the store of its kind. -/
theorem workloads_observe_workload (change : Change) (workload : Workload) (kind : WorkloadKind) :
    (stores.observe (workload.observation change)).workloads kind =
      if workload.kind = kind then (stores.workloads kind).observe (change.event workload.object)
      else stores.workloads kind := by
  obtain ⟨own, object⟩ := workload
  cases own <;> cases kind <;> rfl

/-- A change of a workload is none of a config. -/
@[simp]
theorem config?_observe_workload (change : Change) (workload : Workload) (ns : String)
    (ref : ConfigRef) :
    (stores.observe (workload.observation change)).config? ns ref = stores.config? ns ref := by
  obtain ⟨own, object⟩ := workload
  cases own <;> rfl

/-- A change of a config is none of a workload. -/
@[simp]
theorem workload?_observe_config (change : Change) (config : Config) (ns : String)
    (key : WorkloadKey) :
    (stores.observe (config.observation change)).workload? ns key = stores.workload? ns key := by
  simp only [workload?_eq, workloads_observe_config]

/-- A change of a namespaced config keeps the stores well kept. -/
theorem WellKept.config (h : stores.WellKept) (change : Change) {config : Config}
    (hconfig : ClusterObject.IsNamespaced config) :
    (stores.observe (config.observation change)).WellKept := by
  have hworkloads (kind : WorkloadKind) :
      ((stores.observe (config.observation change)).workloads kind).WellKept := by
    rw [workloads_observe_config]
    exact h.workloads kind
  cases config with
  | configMap => exact ⟨h.configMaps.observe change hconfig, h.secrets, hworkloads⟩
  | secret => exact ⟨h.configMaps, h.secrets.observe change hconfig, hworkloads⟩

/-- A change of a namespaced workload keeps the stores well kept. -/
theorem WellKept.workload (h : stores.WellKept) (change : Change) {workload : Workload}
    (hworkload : ClusterObject.IsNamespaced workload) :
    (stores.observe (workload.observation change)).WellKept := by
  -- no kind of workload shares a store with the configs
  have hconfigs : (stores.observe (workload.observation change)).configMaps.WellKept ∧
      (stores.observe (workload.observation change)).secrets.WellKept := by
    obtain ⟨own, object⟩ := workload
    cases own <;> exact ⟨h.configMaps, h.secrets⟩
  refine ⟨hconfigs.1, hconfigs.2, fun kind => ?_⟩
  rw [workloads_observe_workload]
  split
  · exact (h.workloads kind).observe change hworkload
  · exact h.workloads kind

/-- A change of a namespaced config is a change of what the reference to it leads to. -/
theorem config?_observe_config (h : stores.WellKept) (change : Change) {config : Config}
    (hconfig : ClusterObject.IsNamespaced config) (ns : String) (ref : ConfigRef) :
    (stores.observe (config.observation change)).config? ns ref =
      if config.ns = ns ∧ config.ref = ref then change.state? config
      else stores.config? ns ref := by
  cases config with
  | configMap object =>
    exact Config.find?_configMap hconfig (Store.get?_observe h.configMaps change hconfig ns) ref
  | secret object =>
    exact Config.find?_secret hconfig (Store.get?_observe h.secrets change hconfig ns) ref

/-- A change of a namespaced workload is a change of what its key leads to. -/
theorem workload?_observe_workload (h : stores.WellKept) (change : Change) {workload : Workload}
    (hworkload : ClusterObject.IsNamespaced workload) (ns : String) (key : WorkloadKey) :
    (stores.observe (workload.observation change)).workload? ns key =
      if workload.ns = ns ∧ workload.key = key then change.state? workload
      else stores.workload? ns key := by
  rw [workload?_eq, workload?_eq]
  refine Workload.find?_workload hworkload (fun kind name => ?_) key
  rw [workloads_observe_workload]
  by_cases hkind : workload.kind = kind
  · simp only [hkind, if_true, true_and]
    exact Store.get?_observe (h.workloads kind) change hworkload ns name
  · simp only [hkind, if_false, false_and]

end Stores

end ClusterWatch
