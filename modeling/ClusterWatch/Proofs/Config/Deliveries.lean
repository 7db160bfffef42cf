import Mathlib.Data.List.Induction
import ClusterWatch.Config.Reconciler
import ClusterWatch.Proofs.Config.Ownership

/-!
# Deliveries to the reconciler

Cluster events read as deliveries of workloads and of configs, and what a history of them leaves in
the ownership index.

* `ClusterEvent.workload?`, `ClusterEvent.config?` — the delivery that an event is.
* `lastWorkload?`, `lastConfig?` — the last delivery of an object in a list of events;
  `currentWorkload?`, `currentConfig?` — the version of it that is there afterwards.
* `Reconciler.recorded` — the configs that a delivery of a workload leaves in the index;
  `onWorkload_fst` says that the index is changed in this way and by nothing else.
* `owners_indexAfter` — the index records what the last delivery of each workload asks for.
* `ConfigMap.basic`, `kept` and `leaving`, `WorkloadObject.userOf` — the objects that
  runs are made of.
-/

namespace ClusterWatch

/-! ### The delivery that an event is -/

/-- The object that a delivery leaves behind is the one it is about. -/
theorem Delivery.object_of_current? {α : Type} {delivery : Delivery α} {object : α}
    (h : delivery.current? = some object) : delivery.object = object := by
  cases delivery with
  | created => exact Option.some.inj h
  | updated => exact Option.some.inj h
  | deleted => simp [current?] at h

namespace ClusterEvent

/-- The delivery of a workload that an event is. -/
def workload? : ClusterEvent → Option (Delivery Workload)
  | .deployments delivery => some (delivery.map (⟨.deployment, ·⟩))
  | .daemonSets delivery => some (delivery.map (⟨.daemonSet, ·⟩))
  | .statefulSets delivery => some (delivery.map (⟨.statefulSet, ·⟩))
  | _ => none

/-- The delivery of a config that an event is. -/
def config? : ClusterEvent → Option (Delivery Config)
  | .configMaps delivery => some (delivery.map .configMap)
  | .secrets delivery => some (delivery.map .secret)
  | _ => none

/-- The namespace of the workload or config that an event is about. -/
def ns? (event : ClusterEvent) : Option String :=
  event.workload?.map (·.object.ns) <|> event.config?.map (·.object.ns)

/-- The delivery that an event is, if it is one of the workload of a key. -/
def workloadAt? (ns : String) (key : WorkloadKey) (event : ClusterEvent) :
    Option (Delivery Workload) :=
  event.workload?.filter fun delivery => delivery.object.ns = ns ∧ delivery.object.key = key

/-- The delivery that an event is, if it is one of the config that a reference leads to. -/
def configAt? (ns : String) (ref : ConfigRef) (event : ClusterEvent) : Option (Delivery Config) :=
  event.config?.filter fun delivery => delivery.object.ns = ns ∧ delivery.object.ref = ref

variable {event : ClusterEvent}

/-- An event is a delivery of a workload of that place exactly if it is one of a workload, and the
workload has that place. -/
theorem workloadAt?_eq_some_iff {ns : String} {key : WorkloadKey} {delivery : Delivery Workload} :
    event.workloadAt? ns key = some delivery ↔
      event.workload? = some delivery ∧ delivery.object.ns = ns ∧
        delivery.object.key = key := by
  simp [workloadAt?, Option.filter_eq_some_iff]

/-- An event is a delivery of a config of that place exactly if it is one of a config, and the
config has that place. -/
theorem configAt?_eq_some_iff {ns : String} {ref : ConfigRef} {delivery : Delivery Config} :
    event.configAt? ns ref = some delivery ↔
      event.config? = some delivery ∧ delivery.object.ns = ns ∧ delivery.object.ref = ref := by
  simp [configAt?, Option.filter_eq_some_iff]

/-- No event is a delivery both of a workload and of a config. -/
theorem config?_eq_none {delivery : Delivery Workload} (h : event.workload? = some delivery) :
    event.config? = none := by
  cases event <;> simp_all [workload?, config?]

/-- A delivery of a config is none of a workload. -/
theorem workload?_eq_none {delivery : Delivery Config} (h : event.config? = some delivery) :
    event.workload? = none := by
  cases event <;> simp_all [workload?, config?]

end ClusterEvent

/-- The last delivery of the workload of a key. -/
def lastWorkload? (events : List ClusterEvent) (ns : String) (key : WorkloadKey) :
    Option (Delivery Workload) :=
  events.findSomeRev? (·.workloadAt? ns key)

/-- The last delivery of the config that a reference leads to. -/
def lastConfig? (events : List ClusterEvent) (ns : String) (ref : ConfigRef) :
    Option (Delivery Config) :=
  events.findSomeRev? (·.configAt? ns ref)

/-- The last delivery of a workload is the last later one, or else the last earlier one. -/
theorem lastWorkload?_append (earlier later : List ClusterEvent) (ns : String)
    (key : WorkloadKey) :
    lastWorkload? (earlier ++ later) ns key =
      (lastWorkload? later ns key).or (lastWorkload? earlier ns key) := by
  simp [lastWorkload?]

/-- The last delivery of a config is the last later one, or else the last earlier one. -/
theorem lastConfig?_append (earlier later : List ClusterEvent) (ns : String) (ref : ConfigRef) :
    lastConfig? (earlier ++ later) ns ref =
      (lastConfig? later ns ref).or (lastConfig? earlier ns ref) := by
  simp [lastConfig?]

@[simp]
theorem lastWorkload?_singleton (event : ClusterEvent) (ns : String) (key : WorkloadKey) :
    lastWorkload? [event] ns key = event.workloadAt? ns key := by
  simp [lastWorkload?]

@[simp]
theorem lastConfig?_singleton (event : ClusterEvent) (ns : String) (ref : ConfigRef) :
    lastConfig? [event] ns ref = event.configAt? ns ref := by
  simp [lastConfig?]

/-- The last delivery of a workload is the last later one, or else the first event. -/
theorem lastWorkload?_cons (event : ClusterEvent) (later : List ClusterEvent) (ns : String)
    (key : WorkloadKey) :
    lastWorkload? (event :: later) ns key =
      (lastWorkload? later ns key).or (event.workloadAt? ns key) := by
  rw [← List.singleton_append, lastWorkload?_append, lastWorkload?_singleton]

/-- A workload has no last delivery exactly if no event is a delivery of it. -/
theorem lastWorkload?_eq_none_iff {events : List ClusterEvent} {ns : String} {key : WorkloadKey} :
    lastWorkload? events ns key = none ↔
      ∀ event ∈ events, event.workloadAt? ns key = none := by
  simp [lastWorkload?]

/-- A config has no last delivery exactly if no event is a delivery of it. -/
theorem lastConfig?_eq_none_iff {events : List ClusterEvent} {ns : String} {ref : ConfigRef} :
    lastConfig? events ns ref = none ↔ ∀ event ∈ events, event.configAt? ns ref = none := by
  simp [lastConfig?]

/-- The last delivery of a config is one that no other delivery of it follows. -/
theorem lastConfig?_eq_some_iff {events : List ClusterEvent} {ns : String} {ref : ConfigRef}
    {delivery : Delivery Config} :
    lastConfig? events ns ref = some delivery ↔
      ∃ before event after, events = before ++ event :: after ∧
        event.configAt? ns ref = some delivery ∧ lastConfig? after ns ref = none := by
  -- the search begins at the end, so the deliveries that it has passed by are the later ones
  rw [lastConfig?, List.findSomeRev?_eq_findSome?_reverse, List.findSome?_eq_some_iff]
  constructor
  · rintro ⟨later, event, earlier, hevents, hevent, hlater⟩
    refine ⟨earlier.reverse, event, later.reverse, ?_, hevent, ?_⟩
    · rw [← List.reverse_reverse events, hevents]
      simp
    · exact lastConfig?_eq_none_iff.mpr fun other hother =>
        hlater other (List.mem_reverse.mp hother)
  · rintro ⟨before, event, after, rfl, hevent, hafter⟩
    refine ⟨after.reverse, event, before.reverse, by simp, hevent, fun other hother => ?_⟩
    exact lastConfig?_eq_none_iff.mp hafter other (List.mem_reverse.mp hother)

/-- The version of a workload that is there after a list of events. -/
def currentWorkload? (events : List ClusterEvent) (ns : String) (key : WorkloadKey) :
    Option Workload :=
  (lastWorkload? events ns key).bind Delivery.current?

/-- The version of a config that is there after a list of events. -/
def currentConfig? (events : List ClusterEvent) (ns : String) (ref : ConfigRef) : Option Config :=
  (lastConfig? events ns ref).bind Delivery.current?

/-- The config that is there goes by its own name. -/
theorem name_of_currentConfig? {events : List ClusterEvent} {ns : String} {ref : ConfigRef}
    {config : Config} (h : currentConfig? events ns ref = some config) :
    config.ns = ns ∧ config.ref = ref := by
  obtain ⟨delivery, hlast, hcurrent⟩ := Option.bind_eq_some_iff.mp h
  obtain ⟨_, event, _, -, hevent, -⟩ := lastConfig?_eq_some_iff.mp hlast
  obtain ⟨-, hname⟩ := ClusterEvent.configAt?_eq_some_iff.mp hevent
  rw [Delivery.object_of_current? hcurrent] at hname
  exact hname

namespace Reconciler

/-! ### What an event does to the index -/

/-- The configs that a delivery of a workload leaves in the index: those that its newest version
refers to, if there is one and it has opted in. -/
def recorded (delivery : Delivery Workload) : Option ConfigRefs :=
  (delivery.current?.filter Workload.isOptedIn).map Workload.referencedConfigs

/-- A delivery leaves references recorded exactly if it leaves a version that has opted in
and has these. -/
theorem recorded_eq_some_iff {delivery : Delivery Workload} {refs : ConfigRefs} :
    recorded delivery = some refs ↔
      ∃ workload, delivery.current? = some workload ∧ workload.isOptedIn = true ∧
        workload.referencedConfigs = refs := by
  simp [recorded, Option.filter_eq_some_iff, and_assoc]

/-- A version that has not opted in leaves nothing in the index. -/
theorem recorded_of_not_isOptedIn {delivery : Delivery Workload} {workload : Workload}
    (hcurrent : delivery.current? = some workload) (hopted : ¬ workload.isOptedIn = true) :
    recorded delivery = none := by
  simp [recorded, hcurrent, Option.filter_some, hopted]

/-- A workload that is gone leaves nothing in the index. -/
theorem recorded_of_gone {delivery : Delivery Workload} (hgone : delivery.current? = none) :
    recorded delivery = none := by
  simp [recorded, hgone]

/-- Deliveries of workloads are handled as such, whatever their kind. -/
theorem handle_of_workload? (stores : Stores) (index : OwnershipIndex) {event : ClusterEvent}
    {delivery : Delivery Workload} (h : event.workload? = some delivery) :
    handle stores index event = onWorkload stores index delivery := by
  cases event <;> simp_all [ClusterEvent.workload?, handle]

/-- So are deliveries of configs, which leave the index. -/
theorem handle_of_config? (stores : Stores) (index : OwnershipIndex) {event : ClusterEvent}
    {delivery : Delivery Config} (h : event.config? = some delivery) :
    handle stores index event = (index, onConfig stores index delivery) := by
  cases event <;> simp_all [ClusterEvent.config?, handle]

/-- Other events change nothing and ask for nothing. -/
theorem handle_of_other (stores : Stores) (index : OwnershipIndex) {event : ClusterEvent}
    (hworkload : event.workload? = none) (hconfig : event.config? = none) :
    handle stores index event = (index, []) := by
  cases event <;> simp_all [ClusterEvent.workload?, ClusterEvent.config?, handle]

/-- What is written for an event is written for a delivery of a workload or for one of a config. -/
theorem mem_handle_iff {stores : Stores} {index : OwnershipIndex} {event : ClusterEvent}
    {write : ConfigWrite} :
    write ∈ (handle stores index event).2 ↔
      (∃ delivery, event.workload? = some delivery ∧
        write ∈ (onWorkload stores index delivery).2) ∨
      ∃ delivery, event.config? = some delivery ∧ write ∈ onConfig stores index delivery := by
  cases hworkload : event.workload? with
  | some delivery =>
    have hconfig := ClusterEvent.config?_eq_none hworkload
    simp [handle_of_workload? stores index hworkload, hconfig]
  | none =>
    cases hconfig : event.config? with
    | some delivery => simp [handle_of_config? stores index hconfig]
    | none => simp [handle_of_other stores index hworkload hconfig]

/-- The index of a namespace with what a delivery of a workload leaves in it. -/
def record (index : NamespaceIndex) (delivery : Delivery Workload) : NamespaceIndex :=
  match recorded delivery with
  | some refs => index.set delivery.object.key refs
  | none => index.remove delivery.object.key

/-- The index after a delivery of a workload does not depend on the stores. -/
theorem onWorkload_fst (stores : Stores) (index : OwnershipIndex) (delivery : Delivery Workload) :
    (onWorkload stores index delivery).1 =
      index.update delivery.object.ns (record (index.within delivery.object.ns) delivery) := by
  -- a workload that is gone or has not opted in is forgotten, any other one is recorded
  cases hcurrent : delivery.current? with
  | none => simp [onWorkload, hcurrent, forgetWorkload, record, recorded_of_gone hcurrent]
  | some workload =>
    have hobject := Delivery.object_of_current? hcurrent
    by_cases hopted : workload.isOptedIn = true
    · have hrecorded := recorded_eq_some_iff.mpr ⟨workload, hcurrent, hopted, rfl⟩
      simp [onWorkload, hcurrent, hobject, reconcileWorkload, hopted, record, hrecorded]
    · have hrecorded := recorded_of_not_isOptedIn hcurrent hopted
      simp [onWorkload, hcurrent, hobject, reconcileWorkload, hopted, record, hrecorded]

/-- To record a delivery changes the entry of its own workload. -/
theorem owners_record (index : NamespaceIndex) (delivery : Delivery Workload)
    (key : WorkloadKey) :
    (record index delivery).owners[key]? =
      if delivery.object.key = key then recorded delivery else index.owners[key]? := by
  rw [record]
  split
  · simp [*]
  · simp [*]

/-- A delivery of a workload replaces what the index records of it, and nothing else. -/
theorem owners_onWorkload (stores : Stores) (index : OwnershipIndex)
    (delivery : Delivery Workload) (ns : String) (key : WorkloadKey) :
    ((onWorkload stores index delivery).1.within ns).owners[key]? =
      if delivery.object.ns = ns ∧ delivery.object.key = key then recorded delivery
      else (index.within ns).owners[key]? := by
  rw [onWorkload_fst, OwnershipIndex.within_update]
  by_cases hns : delivery.object.ns = ns
  · subst hns
    simp [owners_record]
  · simp [hns]

/-- What the index records of a workload after an event is up to the event, if that is a
delivery of it. -/
theorem owners_handle (stores : Stores) (index : OwnershipIndex) (event : ClusterEvent)
    (ns : String) (key : WorkloadKey) :
    ((handle stores index event).1.within ns).owners[key]? =
      match event.workloadAt? ns key with
      | some delivery => recorded delivery
      -- events that are no delivery of a workload leave the index
      | none => (index.within ns).owners[key]? := by
  cases hworkload : event.workload? with
  | some delivery =>
    rw [handle_of_workload? stores index hworkload, owners_onWorkload]
    by_cases hat : delivery.object.ns = ns ∧ delivery.object.key = key
    · rw [if_pos hat, ClusterEvent.workloadAt?_eq_some_iff.mpr ⟨hworkload, hat⟩]
    · have hnone : event.workloadAt? ns key = none := by
        simpa [ClusterEvent.workloadAt?, hworkload, Option.filter_some] using hat
      rw [if_neg hat, hnone]
  | none =>
    have hindex : (handle stores index event).1 = index := by
      cases hconfig : event.config? with
      | some delivery => rw [handle_of_config? stores index hconfig]
      | none => rw [handle_of_other stores index hworkload hconfig]
    simp [hindex, ClusterEvent.workloadAt?, hworkload]

/-- If the index records what the last delivery of a workload asks for, it does so after
another event. -/
theorem owners_handle_concat {index : OwnershipIndex} {earlier : List ClusterEvent} {ns : String}
    {key : WorkloadKey}
    (h : (index.within ns).owners[key]? = (lastWorkload? earlier ns key).bind recorded)
    (stores : Stores) (event : ClusterEvent) :
    ((handle stores index event).1.within ns).owners[key]? =
      (lastWorkload? (earlier ++ [event]) ns key).bind recorded := by
  rw [owners_handle, h, lastWorkload?_append, lastWorkload?_singleton]
  cases event.workloadAt? ns key <;> rfl

/-! ### Histories -/

/-- An event as it is handled, with the stores as they are at that moment. -/
structure Handling where
  /-- The stores. -/
  stores : Stores
  /-- The event. -/
  event : ClusterEvent

/-- The index after a history that begins with nothing known. -/
def indexAfter (history : List Handling) : OwnershipIndex :=
  history.foldl (fun index handling => (handle handling.stores index handling.event).1) .empty

/-- The writes that are issued for an event after a history. -/
def writesAfter (history : List Handling) (next : Handling) : List ConfigWrite :=
  (handle next.stores (indexAfter history) next.event).2

/-- The events of a history. -/
def events (history : List Handling) : List ClusterEvent :=
  history.map Handling.event

theorem indexAfter_concat (history : List Handling) (next : Handling) :
    indexAfter (history ++ [next]) =
      (handle next.stores (indexAfter history) next.event).1 := by
  simp [indexAfter]

theorem events_concat (history : List Handling) (next : Handling) :
    events (history ++ [next]) = events history ++ [next.event] :=
  List.map_append

/-- After any history, the index records of each workload what its last delivery asks for. -/
theorem owners_indexAfter (history : List Handling) (ns : String) (key : WorkloadKey) :
    ((indexAfter history).within ns).owners[key]? =
      (lastWorkload? (events history) ns key).bind recorded := by
  induction history using List.reverseRecOn with
  | nil => simp [indexAfter, events, lastWorkload?, NamespaceIndex.empty]
  | append_singleton history next ih =>
    rw [indexAfter_concat, owners_handle_concat ih, events_concat]

end Reconciler

/-! ### Objects to make runs of -/

/-- The metadata of an object of the namespace `default` in some version. -/
def Metadata.basic (name version : String) : Metadata :=
  ⟨some name, none, some "default", ∅, none, some version, false, [], []⟩

/-- A config map in some version, with one text. -/
def ConfigMap.basic (name version text : String) : ConfigMap :=
  ⟨.basic name version, (∅ : TextMap).insert "text" text⟩

/-- A protected config map in some version. -/
def ConfigMap.kept (name version : String) : ConfigMap :=
  ⟨{ Metadata.basic name version with finalizers := [configFinalizer] }, ∅⟩

/-- A protected config map in some version that waits for its deletion. -/
def ConfigMap.leaving (name version : String) : ConfigMap :=
  ⟨{ (kept name version).metadata with deleting := true }, ∅⟩

/-- A workload in some version that has opted in and shows one config map as files. -/
def WorkloadObject.userOf (config name version : String) : WorkloadObject where
  metadata := { Metadata.basic name version with
    annotations := some ((∅ : TextMap).insert updateOnConfigChange updateOnConfigChangeEnabled) }
  template := some ⟨none, [], [], [⟨some config, none⟩]⟩

end ClusterWatch
