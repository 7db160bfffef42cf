import ClusterWatch.Proofs.Cluster.WellKept
import ClusterWatch.Proofs.Config.Deliveries

/-!
# Deliveries and the stores

A delivery comes from a change that a store has been shown, and what the stores hold of a config or
of a workload is what the last delivery of it has left.

* `ClusterEvent.observation` — the change that an event comes from.
* `config?_observe_event`, `workload?_observe_event` — what the change does to lookups.
* `config?_afterEvents`, `workload?_afterEvents` — the same for a list of events.
* `Reconciler.StoresCurrent` — a history in which the stores keep step with the deliveries;
  `storesCurrent_inStep` gives one for every list of events.
-/

namespace ClusterWatch

/-! ### The change that an event comes from -/

namespace Delivery

variable {α : Type}

/-- The change that a delivery tells of. -/
def change : Delivery α → Change
  | .created _ => .applied
  | .updated _ _ => .applied
  | .deleted _ => .deleted

/-- The change that a delivery reports leaves what the delivery leaves. -/
@[simp]
theorem state?_change (delivery : Delivery α) :
    delivery.change.state? delivery.object = delivery.current? := by
  cases delivery <;> rfl

/-- The watch event that shows a store the change that a delivery tells of. -/
def watchEvent (delivery : Delivery α) : WatchEvent α :=
  delivery.change.event delivery.object

end Delivery

namespace ClusterEvent

/-- The observation of the change that an event tells of. -/
def observation : ClusterEvent → Observation
  | .namespaces delivery => .namespaces delivery.watchEvent
  | .nodes delivery => .nodes delivery.watchEvent
  | .pods delivery => .pods delivery.watchEvent
  | .services delivery => .services delivery.watchEvent
  | .endpoints delivery => .endpoints delivery.watchEvent
  | .ingresses delivery => .ingresses delivery.watchEvent
  | .configMaps delivery => .configMaps delivery.watchEvent
  | .secrets delivery => .secrets delivery.watchEvent
  | .deployments delivery => .deployments delivery.watchEvent
  | .daemonSets delivery => .daemonSets delivery.watchEvent
  | .statefulSets delivery => .statefulSets delivery.watchEvent
  | .persistentVolumes delivery => .persistentVolumes delivery.watchEvent
  | .persistentVolumeClaims delivery => .persistentVolumeClaims delivery.watchEvent

variable {event : ClusterEvent}

theorem observation_of_workload? {delivery : Delivery Workload}
    (h : event.workload? = some delivery) :
    event.observation = delivery.object.observation delivery.change := by
  cases event <;> simp only [workload?, Option.some.injEq, reduceCtorEq] at h <;> subst h
  all_goals
    rename_i delivery
    cases delivery <;> rfl

theorem observation_of_config? {delivery : Delivery Config} (h : event.config? = some delivery) :
    event.observation = delivery.object.observation delivery.change := by
  cases event <;> simp only [config?, Option.some.injEq, reduceCtorEq] at h <;> subst h
  all_goals
    rename_i delivery
    cases delivery <;> rfl

/-- An event that is about a namespaced object, if it is about a workload or a config. -/
structure IsNamespaced (event : ClusterEvent) : Prop where
  /-- A workload. -/
  workload : ∀ delivery ∈ event.workload?, ClusterObject.IsNamespaced delivery.object
  /-- A config. -/
  config : ∀ delivery ∈ event.config?, ClusterObject.IsNamespaced delivery.object

instance : Decidable event.IsNamespaced :=
  decidable_of_iff
    ((∀ delivery ∈ event.workload?, ClusterObject.IsNamespaced delivery.object) ∧
      ∀ delivery ∈ event.config?, ClusterObject.IsNamespaced delivery.object)
    ⟨fun ⟨workload, config⟩ => ⟨workload, config⟩,
      fun ⟨workload, config⟩ => ⟨workload, config⟩⟩

end ClusterEvent

/-! ### Events shown to the stores -/

namespace Stores

variable {stores : Stores} {event : ClusterEvent}

/-- What is neither about a workload nor about a config changes nothing of these. -/
theorem observe_other (stores : Stores) (hworkload : event.workload? = none)
    (hconfig : event.config? = none) :
    (stores.observe event.observation).configMaps = stores.configMaps ∧
      (stores.observe event.observation).secrets = stores.secrets ∧
      (stores.observe event.observation).workloads = stores.workloads := by
  cases event <;> simp only [ClusterEvent.workload?, ClusterEvent.config?, reduceCtorEq] at * <;>
    exact ⟨rfl, rfl, rfl⟩

/-- A change of a namespaced object keeps the stores well kept. -/
theorem wellKept_observe_event (h : stores.WellKept) (hnamed : event.IsNamespaced) :
    (stores.observe event.observation).WellKept := by
  cases hworkload : event.workload? with
  | some delivery =>
    rw [ClusterEvent.observation_of_workload? hworkload]
    exact h.workload delivery.change (hnamed.workload delivery hworkload)
  | none =>
    cases hconfig : event.config? with
    | some delivery =>
      rw [ClusterEvent.observation_of_config? hconfig]
      exact h.config delivery.change (hnamed.config delivery hconfig)
    | none =>
      -- other objects are in other stores
      obtain ⟨hconfigMaps, hsecrets, hworkloads⟩ := observe_other stores hworkload hconfig
      refine ⟨?_, ?_, fun kind => ?_⟩
      · rw [hconfigMaps]
        exact h.configMaps
      · rw [hsecrets]
        exact h.secrets
      · rw [hworkloads]
        exact h.workloads kind

/-- A delivery of a config has left what the stores find of it. -/
theorem config?_observe_event (h : stores.WellKept) (hnamed : event.IsNamespaced) (ns : String)
    (ref : ConfigRef) :
    (stores.observe event.observation).config? ns ref =
      match event.configAt? ns ref with
      | some delivery => delivery.current?
      | none => stores.config? ns ref := by
  cases hconfig : event.config? with
  | some delivery =>
    rw [ClusterEvent.observation_of_config? hconfig,
      config?_observe_config h delivery.change (hnamed.config delivery hconfig)]
    -- only the config of this very place changes
    by_cases hat : delivery.object.ns = ns ∧ delivery.object.ref = ref
    · rw [if_pos hat, ClusterEvent.configAt?_eq_some_iff.mpr ⟨hconfig, hat⟩,
        Delivery.state?_change]
    · have hnone : event.configAt? ns ref = none := by
        simpa [ClusterEvent.configAt?, hconfig, Option.filter_some] using hat
      rw [if_neg hat, hnone]
  | none =>
    have hnone : event.configAt? ns ref = none := by
      simp [ClusterEvent.configAt?, hconfig]
    rw [hnone]
    cases hworkload : event.workload? with
    | some delivery =>
      rw [ClusterEvent.observation_of_workload? hworkload, config?_observe_workload]
    | none =>
      obtain ⟨hconfigMaps, hsecrets, -⟩ := observe_other stores hworkload hconfig
      simp only [config?, hconfigMaps, hsecrets]

/-- A delivery of a workload has left what the stores find of it. -/
theorem workload?_observe_event (h : stores.WellKept) (hnamed : event.IsNamespaced) (ns : String)
    (key : WorkloadKey) :
    (stores.observe event.observation).workload? ns key =
      match event.workloadAt? ns key with
      | some delivery => delivery.current?
      | none => stores.workload? ns key := by
  cases hworkload : event.workload? with
  | some delivery =>
    rw [ClusterEvent.observation_of_workload? hworkload,
      workload?_observe_workload h delivery.change (hnamed.workload delivery hworkload)]
    -- only the workload of this very place changes
    by_cases hat : delivery.object.ns = ns ∧ delivery.object.key = key
    · rw [if_pos hat, ClusterEvent.workloadAt?_eq_some_iff.mpr ⟨hworkload, hat⟩,
        Delivery.state?_change]
    · have hnone : event.workloadAt? ns key = none := by
        simpa [ClusterEvent.workloadAt?, hworkload, Option.filter_some] using hat
      rw [if_neg hat, hnone]
  | none =>
    have hnone : event.workloadAt? ns key = none := by
      simp [ClusterEvent.workloadAt?, hworkload]
    rw [hnone]
    cases hconfig : event.config? with
    | some delivery =>
      rw [ClusterEvent.observation_of_config? hconfig, workload?_observe_config]
    | none =>
      obtain ⟨-, -, hworkloads⟩ := observe_other stores hworkload hconfig
      simp only [workload?_eq, hworkloads]

/-- The stores after a list of events. -/
def afterEvents (stores : Stores) (events : List ClusterEvent) : Stores :=
  events.foldl (fun stores event => stores.observe event.observation) stores

theorem afterEvents_concat (stores : Stores) (events : List ClusterEvent) (event : ClusterEvent) :
    stores.afterEvents (events ++ [event]) =
      (stores.afterEvents events).observe event.observation := by
  simp [afterEvents]

/-- Changes of namespaced objects keep the stores well kept. -/
theorem wellKept_afterEvents (h : stores.WellKept) {events : List ClusterEvent}
    (hnamed : ∀ event ∈ events, event.IsNamespaced) : (stores.afterEvents events).WellKept := by
  induction events using List.reverseRecOn with
  | nil => exact h
  | append_singleton events event ih =>
    rw [afterEvents_concat]
    have hbefore (other : ClusterEvent) (hother : other ∈ events) : other.IsNamespaced :=
      hnamed other (by simp [hother])
    exact wellKept_observe_event (ih hbefore) (hnamed event (by simp))

/-- After a list of events the stores find of a config what its last delivery has left. -/
theorem config?_afterEvents (h : stores.WellKept) {events : List ClusterEvent}
    (hnamed : ∀ event ∈ events, event.IsNamespaced) (ns : String) (ref : ConfigRef) :
    (stores.afterEvents events).config? ns ref =
      match lastConfig? events ns ref with
      | some delivery => delivery.current?
      | none => stores.config? ns ref := by
  induction events using List.reverseRecOn with
  | nil => rfl
  | append_singleton events event ih =>
    have hbefore (other : ClusterEvent) (hother : other ∈ events) : other.IsNamespaced :=
      hnamed other (by simp [hother])
    -- the last event decides if it is a delivery of this config, and else the earlier ones do
    rw [afterEvents_concat,
      config?_observe_event (wellKept_afterEvents h hbefore) (hnamed event (by simp)),
      ih hbefore, lastConfig?_append, lastConfig?_singleton]
    cases event.configAt? ns ref <;> rfl

/-- After a list of events the stores find of a workload what its last delivery has left. -/
theorem workload?_afterEvents (h : stores.WellKept) {events : List ClusterEvent}
    (hnamed : ∀ event ∈ events, event.IsNamespaced) (ns : String) (key : WorkloadKey) :
    (stores.afterEvents events).workload? ns key =
      match lastWorkload? events ns key with
      | some delivery => delivery.current?
      | none => stores.workload? ns key := by
  induction events using List.reverseRecOn with
  | nil => rfl
  | append_singleton events event ih =>
    have hbefore (other : ClusterEvent) (hother : other ∈ events) : other.IsNamespaced :=
      hnamed other (by simp [hother])
    rw [afterEvents_concat,
      workload?_observe_event (wellKept_afterEvents h hbefore) (hnamed event (by simp)),
      ih hbefore, lastWorkload?_append, lastWorkload?_singleton]
    cases event.workloadAt? ns key <;> rfl

end Stores

namespace Reconciler

/-! ### Stores that keep step with the deliveries -/

/-- The stores of a history are current if they hold, whenever a delivery is handled, the last
delivered version of every config and workload. -/
structure StoresCurrent (history : List Handling) : Prop where
  /-- The configs. -/
  config : ∀ before next, before ++ [next] <+: history → ∀ ns ref,
    next.stores.config? ns ref = currentConfig? (events (before ++ [next])) ns ref
  /-- The workloads. -/
  workload : ∀ before next, before ++ [next] <+: history → ∀ ns key,
    next.stores.workload? ns key = currentWorkload? (events (before ++ [next])) ns key

/-- Events handled one after another, each as soon as the stores have been shown the change
that it tells of. -/
def inStep (stores : Stores) : List ClusterEvent → List Handling
  | [] => []
  | event :: rest =>
    ⟨stores.observe event.observation, event⟩ :: inStep (stores.observe event.observation) rest

/-- An event that is handled in step finds the stores as they are after it and all events before. -/
theorem stores_inStep {stores : Stores} {events : List ClusterEvent} {before : List Handling}
    {next : Handling} (h : before ++ [next] <+: inStep stores events) :
    next.stores = stores.afterEvents (Reconciler.events (before ++ [next])) ∧
      Reconciler.events (before ++ [next]) <+: events := by
  -- the rest is handled in step as well, from the stores that the first event leaves
  induction events generalizing stores before with
  | nil => simp [inStep] at h
  | cons event rest ih =>
    cases before with
    | nil =>
      obtain ⟨rfl, -⟩ := List.cons_prefix_cons.mp h
      exact ⟨rfl, List.cons_prefix_cons.mpr ⟨rfl, List.nil_prefix⟩⟩
    | cons first before =>
      obtain ⟨rfl, hrest⟩ := List.cons_prefix_cons.mp h
      obtain ⟨hstores, hprefix⟩ := ih hrest
      exact ⟨hstores, List.cons_prefix_cons.mpr ⟨rfl, hprefix⟩⟩

/-- Where events are handled in step, the stores are current. -/
theorem storesCurrent_inStep {events : List ClusterEvent}
    (hnamed : ∀ event ∈ events, event.IsNamespaced) :
    StoresCurrent (inStep .empty events) := by
  constructor
  -- in step, the stores hold what the events so far have left in empty ones
  · intro before next hprefix ns ref
    obtain ⟨hstores, hevents⟩ := stores_inStep hprefix
    rw [hstores, Stores.config?_afterEvents Stores.wellKept_empty
      fun event hevent => hnamed event (hevents.mem hevent), currentConfig?, Stores.config?_empty]
    cases lastConfig? (Reconciler.events (before ++ [next])) ns ref <;> rfl
  · intro before next hprefix ns key
    obtain ⟨hstores, hevents⟩ := stores_inStep hprefix
    rw [hstores, Stores.workload?_afterEvents Stores.wellKept_empty
      fun event hevent => hnamed event (hevents.mem hevent), currentWorkload?,
      Stores.workload?_empty]
    cases lastWorkload? (Reconciler.events (before ++ [next])) ns key <;> rfl

end Reconciler

end ClusterWatch
