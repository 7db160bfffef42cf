import ClusterWatch.Proofs.Cluster.WellKept
import ClusterWatch.Proofs.Config.Deliveries
import ClusterWatch.Watch.Relay

/-!
# Tracking single changes

Outside of listings a tracker remembers of every object what the last change of it has left, and
tells each change of an object as one delivery, unless it repeats a version. Objects are
remembered by namespace and name in one text, which tells two objects apart if no namespace
contains the separator.

* `Tracker.known?_observe` — what is remembered after a change.
* `Change.delivery?` — the delivery that a change amounts to; `Tracker.observe_snd`.
* `Trackers.config?`, `Trackers.workload?` — what is remembered of configs and of workloads,
  with the same laws.
* `Relay.observe_direct` — through an open bus, a change reaches the stores and is
  delivered at once.
-/

namespace ClusterWatch

/-! ### Keys -/

namespace ClusterObject

/-- Whether a text contains the separator of keys. -/
def hasSeparator (text : String) : Bool :=
  text.toList.contains '/'

variable {α : Type} [ClusterObject α]

/-- A namespaced object whose key tells where the namespace ends. The API server gives no namespace
a name with a separator in it. -/
def IsAddressable (object : α) : Prop :=
  IsNamespaced object ∧ hasSeparator (ns object) = false

instance (object : α) : Decidable (IsAddressable object) :=
  inferInstanceAs (Decidable (_ ∧ _))

/-- The part of a key before the first separator is the namespace. -/
theorem joined_inj {ns other name otherName : String} (hns : hasSeparator ns = false)
    (hother : hasSeparator other = false) :
    ns ++ "/" ++ name = other ++ "/" ++ otherName ↔ ns = other ∧ name = otherName := by
  constructor
  · intro heq
    have hlists : ns.toList ++ '/' :: name.toList = other.toList ++ '/' :: otherName.toList := by
      simpa using congrArg String.toList heq
    -- what stands before the first separator is all of the namespace
    have hfirst {text : String} (h : hasSeparator text = false) (rest : String) :
        (text.toList ++ '/' :: rest.toList).takeWhile (· ≠ '/') = text.toList := by
      rw [List.takeWhile_append_of_pos]
      · simp
      · intro char hchar
        have hne : char ≠ '/' := by
          rintro rfl
          rw [hasSeparator, List.contains_eq_mem, decide_eq_false_iff_not] at h
          exact h hchar
        simpa using hne
    have hnamespaces : ns.toList = other.toList := by
      rw [← hfirst hns name, hlists, hfirst hother]
    rw [hnamespaces] at hlists
    have hnames := (List.cons.inj (List.append_cancel_left hlists)).2
    exact ⟨String.toList_inj.mp hnamespaces, String.toList_inj.mp hnames⟩
  · rintro ⟨rfl, rfl⟩
    rfl

end ClusterObject

/-! ### One tracker -/

namespace Tracker

variable {α : Type} [ClusterObject α]

/-- What a tracker remembers of the object of that name in a namespace. -/
def known? (tracker : Tracker α) (ns name : String) : Option α :=
  tracker.known[ns ++ "/" ++ name]?

/-- A change of an object changes what is remembered of it, and of no other object. -/
theorem known?_observe (tracker : Tracker α) (change : Change) {object : α}
    (hobject : ClusterObject.IsAddressable object) {ns : String}
    (hns : ClusterObject.hasSeparator ns = false) (name : String) :
    (tracker.observe (change.event object)).1.known? ns name =
      if ClusterObject.ns object = ns ∧ ClusterObject.name object = name then change.state? object
      else tracker.known? ns name := by
  have hkey : ClusterObject.key object = ns ++ "/" ++ name ↔
      ClusterObject.ns object = ns ∧ ClusterObject.name object = name :=
    ClusterObject.joined_inj hobject.2 hns
  cases change <;>
    simp only [Change.event, Change.state?, observe, known?, Std.ExtTreeMap.getElem?_insert,
      Std.ExtTreeMap.getElem?_erase, Std.LawfulEqCmp.compare_eq_iff_eq, hkey]

end Tracker

/-- The delivery that a change of an object amounts to, given what is remembered of the object. -/
def Change.delivery? {α : Type} [ClusterObject α] (change : Change) (known : Option α)
    (object : α) : Option (Delivery α) :=
  match change with
  | applied => Tracker.change? known object
  | deleted => some (.deleted (known.getD object))

/-- A tracker tells a change by the delivery that the change amounts to. -/
theorem Tracker.observe_snd {α : Type} [ClusterObject α] (tracker : Tracker α) (change : Change)
    (object : α) :
    (tracker.observe (change.event object)).2 =
      (change.delivery? (tracker.known? (ClusterObject.ns object) (ClusterObject.name object))
        object).toList := by
  cases change <;> rfl

/-- What a change amounts to does not depend on the form in which an object is seen. -/
theorem Change.delivery?_map {α β : Type} [ClusterObject α] [ClusterObject β] (change : Change)
    (f : α → β)
    (hf : ∀ object, ClusterObject.metadata (f object) = ClusterObject.metadata object)
    (known : Option α) (object : α) :
    change.delivery? (known.map f) (f object) = (change.delivery? known object).map (·.map f) := by
  cases change <;> cases known
  · rfl
  · -- whether a version is repeated is read off the metadata
    simp only [Change.delivery?, Tracker.change?, Option.map_some, Tracker.sameVersion, hf]
    split <;> simp [Delivery.map, *]
  · rfl
  · rfl

/-- If a change amounts to a delivery of the object in another form, a tracker tells it by one
event, which is that delivery seen in the other form. -/
theorem Tracker.exists_told {α β : Type} [ClusterObject α] [ClusterObject β]
    (tracker : Tracker α)
    (change : Change) (f : α → β)
    (hf : ∀ object, ClusterObject.metadata (f object) = ClusterObject.metadata object)
    (wrap : Delivery α → ClusterEvent) {object : α} {delivery : Delivery β}
    (h : change.delivery?
      ((tracker.known? (ClusterObject.ns object) (ClusterObject.name object)).map f) (f object) =
        some delivery) :
    ∃ told, (tracker.observe (change.event object)).2.map wrap = [wrap told] ∧
      told.map f = delivery := by
  rw [Change.delivery?_map change f hf] at h
  obtain ⟨told, htold, rfl⟩ := Option.map_eq_some_iff.mp h
  refine ⟨told, ?_, rfl⟩
  rw [observe_snd, htold]
  rfl

/-! ### The trackers of configs and workloads -/

namespace Trackers

/-- What is remembered of a config. -/
def config? (trackers : Trackers) (ns : String) (ref : ConfigRef) : Option Config :=
  Config.find? (trackers.configMaps.known? ns) (trackers.secrets.known? ns) ref

/-- The tracker of the workloads of a kind. -/
def workloads (trackers : Trackers) : WorkloadKind → Tracker WorkloadObject
  | .deployment => trackers.deployments
  | .daemonSet => trackers.daemonSets
  | .statefulSet => trackers.statefulSets

/-- What is remembered of a workload. -/
def workload? (trackers : Trackers) (ns : String) (key : WorkloadKey) : Option Workload :=
  Workload.find? (fun kind => (trackers.workloads kind).known? ns) key

variable (trackers : Trackers) (change : Change)

@[simp]
theorem workloads_observe_config (config : Config) (kind : WorkloadKind) :
    (trackers.observe (config.observation change)).1.workloads kind = trackers.workloads kind := by
  cases config <;> cases kind <;> rfl

theorem workloads_observe_workload (workload : Workload) (kind : WorkloadKind) :
    (trackers.observe (workload.observation change)).1.workloads kind =
      if workload.kind = kind then
        ((trackers.workloads kind).observe (change.event workload.object)).1
      else trackers.workloads kind := by
  obtain ⟨own, object⟩ := workload
  cases own <;> cases kind <;> rfl

/-- A change of a config is none of what is remembered of workloads. -/
@[simp]
theorem workload?_observe_config (config : Config) (ns : String) (key : WorkloadKey) :
    (trackers.observe (config.observation change)).1.workload? ns key =
      trackers.workload? ns key := by
  simp only [workload?, workloads_observe_config]

/-- A change of a workload is none of what is remembered of configs. -/
@[simp]
theorem config?_observe_workload (workload : Workload) (ns : String) (ref : ConfigRef) :
    (trackers.observe (workload.observation change)).1.config? ns ref =
      trackers.config? ns ref := by
  obtain ⟨own, object⟩ := workload
  cases own <;> rfl

/-- A change of a config changes what is remembered of it, and of no other config. -/
theorem config?_observe_config {config : Config} (hconfig : ClusterObject.IsAddressable config)
    {ns : String} (hns : ClusterObject.hasSeparator ns = false) (ref : ConfigRef) :
    (trackers.observe (config.observation change)).1.config? ns ref =
      if config.ns = ns ∧ config.ref = ref then change.state? config
      else trackers.config? ns ref := by
  -- config maps and secrets have trackers of their own
  cases config with
  | configMap object =>
    have hobject : ClusterObject.IsAddressable object := hconfig
    exact Config.find?_configMap hobject.1
      (trackers.configMaps.known?_observe change hobject hns) ref
  | secret object =>
    have hobject : ClusterObject.IsAddressable object := hconfig
    exact Config.find?_secret hobject.1 (trackers.secrets.known?_observe change hobject hns) ref

/-- A change of a workload changes what is remembered of it, and of no other workload. -/
theorem workload?_observe_workload {workload : Workload}
    (hworkload : ClusterObject.IsAddressable workload) {ns : String}
    (hns : ClusterObject.hasSeparator ns = false) (key : WorkloadKey) :
    (trackers.observe (workload.observation change)).1.workload? ns key =
      if workload.ns = ns ∧ workload.key = key then change.state? workload
      else trackers.workload? ns key := by
  refine Workload.find?_workload hworkload.1 (fun kind name => ?_) key
  rw [workloads_observe_workload]
  by_cases hkind : workload.kind = kind
  · simp only [hkind, if_true, true_and]
    exact (trackers.workloads kind).known?_observe change hworkload hns name
  · simp only [hkind, if_false, false_and]

/-- A change of a config is told as one delivery of it, if it amounts to one. -/
theorem observe_config_snd {config : Config} (hconfig : ClusterObject.IsNamespaced config)
    {delivery : Delivery Config}
    (h : change.delivery? (trackers.config? config.ns config.ref) config = some delivery) :
    ∃ event, (trackers.observe (config.observation change)).2 = [event] ∧
      event.config? = some delivery := by
  -- references name a config as its metadata do, and trackers as the API server does
  rw [Config.ref, Config.name_eq hconfig] at h
  cases config with
  | configMap object =>
    obtain ⟨told, hevents, rfl⟩ :=
      trackers.configMaps.exists_told change Config.configMap (fun _ => rfl) .configMaps h
    exact ⟨.configMaps told, hevents, rfl⟩
  | secret object =>
    obtain ⟨told, hevents, rfl⟩ :=
      trackers.secrets.exists_told change Config.secret (fun _ => rfl) .secrets h
    exact ⟨.secrets told, hevents, rfl⟩

/-- A change of a workload is told as one delivery of it, if it amounts to one. -/
theorem observe_workload_snd {workload : Workload}
    (hworkload : ClusterObject.IsNamespaced workload) {delivery : Delivery Workload}
    (h : change.delivery? (trackers.workload? workload.ns workload.key) workload = some delivery) :
    ∃ event, (trackers.observe (workload.observation change)).2 = [event] ∧
      event.workload? = some delivery := by
  rw [Workload.key, Workload.name_eq hworkload] at h
  obtain ⟨kind, object⟩ := workload
  -- each kind of workload has a tracker of its own
  cases kind with
  | deployment =>
    obtain ⟨told, hevents, rfl⟩ :=
      trackers.deployments.exists_told change (Workload.mk .deployment)
        (fun _ => rfl) .deployments h
    exact ⟨.deployments told, hevents, rfl⟩
  | daemonSet =>
    obtain ⟨told, hevents, rfl⟩ :=
      trackers.daemonSets.exists_told change (Workload.mk .daemonSet) (fun _ => rfl) .daemonSets h
    exact ⟨.daemonSets told, hevents, rfl⟩
  | statefulSet =>
    obtain ⟨told, hevents, rfl⟩ :=
      trackers.statefulSets.exists_told change (Workload.mk .statefulSet) (fun _ => rfl)
        .statefulSets h
    exact ⟨.statefulSets told, hevents, rfl⟩

end Trackers

/-! ### The relay -/

/-- An open bus passes everything on. -/
theorem Bus.publishAll_direct {ε : Type} (events : List ε) :
    (direct : Bus ε).publishAll events = (direct, events) := by
  induction events using List.reverseRecOn with
  | nil => rfl
  | append_singleton events event ih =>
    rw [publishAll] at ih ⊢
    rw [List.foldl_append, ih]
    rfl

/-- Through an open bus, a change reaches the stores and is delivered at once. -/
theorem Relay.observe_direct (relay : Relay) (hbus : relay.bus = .direct)
    (observation : Observation) :
    relay.observe observation =
      (⟨relay.stores.observe observation, (relay.trackers.observe observation).1, .direct⟩,
        (relay.trackers.observe observation).2) := by
  simp only [observe, hbus, Bus.publishAll_direct]

end ClusterWatch
