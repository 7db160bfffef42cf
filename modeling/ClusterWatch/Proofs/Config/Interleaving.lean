import Mathlib.Logic.Function.Basic
import ClusterWatch.Proofs.Config.Caching
import ClusterWatch.Proofs.Config.Protection

/-!
# Informers and the reconciler by turns

Every kind of objects has an informer of its own, which shows changes to its store first and
publishes the events afterwards, one by one. The informers take turns with the bus and the
reconciler in any order, so the stores can be ahead of the events that the reconciler has handled.

* `Pipeline`, `Pipeline.turn?` — the state between two turns, and what a turn does to it.
* `Pipeline.Consistent` — the invariant: the index lags behind the stores by what is
  still under way.
* `released_despite_user_iff` — a config is released in spite of a user in the stores exactly if
  the version of such a user is still under way to the reconciler.
-/

namespace ClusterWatch

/-! ### Turns -/

/-- The informers, the bus and the reconciler between two turns. -/
structure Pipeline where
  /-- The caches of all kinds. -/
  stores : Stores
  /-- What the informer of each kind has shown to its store and has still to publish. -/
  outbox : ResourceKind → List ClusterEvent
  /-- The bus. -/
  bus : Bus ClusterEvent
  /-- What the reconciler has still to handle, in order. -/
  queue : List ClusterEvent
  /-- The index of the reconciler. -/
  index : OwnershipIndex

/-- What can be done in one turn. -/
inductive Turn where
  /-- The informer of a kind shows changes to its store: a single one, or those of a
  whole listing. -/
  | observe (kind : ResourceKind) (events : List ClusterEvent)
  /-- The informer of a kind publishes the next event. -/
  | publish (kind : ResourceKind)
  /-- The bus is opened. -/
  | openBus
  /-- The reconciler handles the next event. -/
  | consume

namespace Pipeline

/-- The pipeline before the first turn. -/
def start (bus : Bus ClusterEvent) : Pipeline :=
  ⟨.empty, fun _ => [], bus, [], .empty⟩

/-- The pipeline with the bus as given, and with what it has passed on queued for the reconciler, as
far as this follows the kind. -/
def pass (pipeline : Pipeline) (bus : Bus ClusterEvent) (passed : List ClusterEvent) : Pipeline :=
  { pipeline with
    bus
    queue := pipeline.queue ++ passed.filter fun event => Reconciler.interestedIn event.kind }

/-- The pipeline after a turn, if the turn can be taken. An informer shows further changes only when
it has published what it has shown before. -/
def turn? (pipeline : Pipeline) : Turn → Option Pipeline
  | .observe kind events =>
    if (pipeline.outbox kind).isEmpty ∧ ∀ event ∈ events, event.kind = kind ∧
      event.IsNamespaced then
      some { pipeline with
        stores := pipeline.stores.afterEvents events
        outbox := Function.update pipeline.outbox kind events }
    else none
  | .publish kind =>
    match pipeline.outbox kind with
    | [] => none
    | event :: rest =>
      let (bus, passed) := pipeline.bus.publish event
      some ({ pipeline with outbox := Function.update pipeline.outbox kind rest }.pass bus passed)
  | .openBus =>
    let (bus, passed) := pipeline.bus.release
    some (pipeline.pass bus passed)
  | .consume =>
    match pipeline.queue with
    | [] => none
    | event :: rest =>
      some { pipeline with
        queue := rest
        index := (Reconciler.handle pipeline.stores pipeline.index event).1 }

/-- The pipeline after several turns, if they can be taken. -/
def turns? (pipeline : Pipeline) (turns : List Turn) : Option Pipeline :=
  turns.foldlM turn? pipeline

/-- A pipeline that some turns lead to, from nothing and with a bus that is gated or not. -/
def Reachable (pipeline : Pipeline) : Prop :=
  ∃ bus turns, (bus = .gated ∨ bus = .direct) ∧ (start bus).turns? turns = some pipeline

/-- What is on the way from the informer of a kind to the queue of the reconciler. -/
def underway (pipeline : Pipeline) (kind : ResourceKind) : List ClusterEvent :=
  pipeline.bus.held.getD [] ++ pipeline.outbox kind

end Pipeline

namespace Bus

variable {ε : Type}

/-- A bus passes events on and holds them in the order of publication. -/
theorem publish_snd_append (bus : Bus ε) (event : ε) :
    (bus.publish event).2 ++ (bus.publish event).1.held.getD [] = bus.held.getD [] ++ [event] := by
  obtain ⟨held⟩ := bus
  cases held <;> rfl

/-- An opened bus has passed on all that it has held. -/
theorem release_snd_append (bus : Bus ε) :
    bus.release.2 ++ bus.release.1.held.getD [] = bus.held.getD [] :=
  List.append_nil _

end Bus

/-! ### Events of workloads by their kinds -/

/-- The kind of objects that the workloads of a kind are. -/
def WorkloadKind.resourceKind : WorkloadKind → ResourceKind
  | .deployment => .deployments
  | .daemonSet => .daemonSets
  | .statefulSet => .statefulSets

/-- A delivery of a workload is an event of its kind. -/
theorem ClusterEvent.kind_of_workloadAt? {event : ClusterEvent} {ns : String} {key : WorkloadKey}
    {delivery : Delivery Workload} (h : event.workloadAt? ns key = some delivery) :
    event.kind = key.kind.resourceKind := by
  obtain ⟨hworkload, -, rfl⟩ := workloadAt?_eq_some_iff.mp h
  cases event <;> simp only [workload?, Option.some.injEq, reduceCtorEq] at hworkload <;>
    subst hworkload
  all_goals
    rename_i delivery
    cases delivery <;> rfl

/-- Events of another kind are no deliveries of a workload. -/
theorem lastWorkload?_of_kind_ne {events : List ClusterEvent} {ns : String} {key : WorkloadKey}
    (h : ∀ event ∈ events, event.kind ≠ key.kind.resourceKind) :
    lastWorkload? events ns key = none := by
  refine lastWorkload?_eq_none_iff.mpr fun event hevent => ?_
  refine Option.eq_none_iff_forall_ne_some.mpr fun delivery hdelivery => ?_
  exact h event hevent (ClusterEvent.kind_of_workloadAt? hdelivery)

/-- What the reconciler does not follow is no delivery of a workload. -/
@[simp]
theorem lastWorkload?_followed (events : List ClusterEvent) (ns : String) (key : WorkloadKey) :
    lastWorkload? (events.filter fun event => Reconciler.interestedIn event.kind) ns key =
      lastWorkload? events ns key := by
  induction events with
  | nil => rfl
  | cons event rest ih =>
    rw [List.filter_cons, lastWorkload?_cons event rest]
    split
    · rw [lastWorkload?_cons, ih]
    next hunfollowed =>
      -- the reconciler follows workloads of all kinds
      have hnone : event.workloadAt? ns key = none := by
        refine Option.eq_none_iff_forall_ne_some.mpr fun delivery hdelivery => hunfollowed ?_
        rw [ClusterEvent.kind_of_workloadAt? hdelivery]
        cases key.kind <;> rfl
      rw [ih, hnone, Option.or_none]

namespace Pipeline

/-! ### The invariant -/

/-- The invariant of a pipeline after the reconciler has consumed some events: the index records
what the last of them ask for, and the stores are ahead of that by what is still under way. -/
structure Consistent (pipeline : Pipeline) (consumed : List ClusterEvent) : Prop where
  /-- The stores are well kept. -/
  wellKept : pipeline.stores.WellKept
  /-- An informer publishes events of its own kind only. -/
  outbox : ∀ kind, ∀ event ∈ pipeline.outbox kind, event.kind = kind
  /-- The index records the consumed events. -/
  index : ∀ ns key, (pipeline.index.within ns).owners[key]? =
    (lastWorkload? consumed ns key).bind Reconciler.recorded
  /-- The stores show the events under way as well. -/
  stores : ∀ ns key, pipeline.stores.workload? ns key =
    currentWorkload? (consumed ++ pipeline.queue ++ pipeline.underway key.kind.resourceKind) ns key

/-- Putting events of its own kind into one outbox leaves events of their own kind in all. -/
theorem kind_of_mem_update {outbox : ResourceKind → List ClusterEvent}
    (h : ∀ kind, ∀ event ∈ outbox kind, event.kind = kind) {kind : ResourceKind}
    {events : List ClusterEvent} (hevents : ∀ event ∈ events, event.kind = kind)
    (other : ResourceKind) :
    ∀ event ∈ Function.update outbox kind events other, event.kind = other := by
  by_cases hother : other = kind
  · subst hother
    rw [Function.update_self]
    exact hevents
  · rw [Function.update_of_ne hother]
    exact h other

theorem consistent_start (bus : Bus ClusterEvent) (hbus : bus = .gated ∨ bus = .direct) :
    (start bus).Consistent [] where
  wellKept := Stores.wellKept_empty
  outbox := by simp [start]
  index := by simp [start, lastWorkload?, NamespaceIndex.empty]
  stores := by
    intro ns key
    rcases hbus with rfl | rfl <;>
      simp [start, underway, Bus.gated, Bus.direct, currentWorkload?, lastWorkload?]

variable {pipeline next : Pipeline} {consumed : List ClusterEvent}

/-- Showing changes to a store puts them under way at the same time. -/
theorem Consistent.observe (h : pipeline.Consistent consumed) {kind : ResourceKind}
    {events : List ClusterEvent} (hturn : pipeline.turn? (.observe kind events) = some next) :
    next.Consistent consumed := by
  simp only [turn?, Option.ite_none_right_eq_some, List.isEmpty_iff, Option.some.injEq] at hturn
  obtain ⟨⟨hidle, hevents⟩, rfl⟩ := hturn
  have hnamed (event : ClusterEvent) (hevent : event ∈ events) : event.IsNamespaced :=
    (hevents event hevent).2
  refine ⟨Stores.wellKept_afterEvents h.wellKept hnamed, ?_, h.index, ?_⟩
  · exact kind_of_mem_update h.outbox fun event hevent => (hevents event hevent).1
  · intro ns key
    rw [Stores.workload?_afterEvents h.wellKept hnamed, h.stores]
    simp only [currentWorkload?, underway, lastWorkload?_append]
    -- before the turn there was nothing left in the outbox that the events replace
    by_cases hkey : key.kind.resourceKind = kind
    · subst hkey
      rw [Function.update_self, hidle]
      cases lastWorkload? events ns key <;> simp [lastWorkload?]
    · rw [Function.update_of_ne hkey, lastWorkload?_of_kind_ne]
      intro event hevent heq
      exact hkey (heq.symm.trans (hevents event hevent).1)

/-- What the bus passes on is still ahead of what it holds then. -/
theorem currentWorkload?_pass (pipeline : Pipeline) (bus : Bus ClusterEvent)
    (passed : List ClusterEvent) (ns : String) (key : WorkloadKey) :
    currentWorkload? (consumed ++ (pipeline.pass bus passed).queue ++
        (pipeline.pass bus passed).underway key.kind.resourceKind) ns key =
      currentWorkload? (consumed ++ pipeline.queue ++ (passed ++ bus.held.getD [] ++
        pipeline.outbox key.kind.resourceKind)) ns key := by
  simp only [currentWorkload?, underway, pass, lastWorkload?_append, lastWorkload?_followed,
    Option.or_assoc]

/-- Publishing an event moves it on, behind everything that has been published before. -/
theorem Consistent.publish (h : pipeline.Consistent consumed) {kind : ResourceKind}
    (hturn : pipeline.turn? (.publish kind) = some next) : next.Consistent consumed := by
  cases houtbox : pipeline.outbox kind with
  | nil => simp [turn?, houtbox] at hturn
  | cons event rest =>
    obtain rfl := Option.some.inj (by simpa only [turn?, houtbox] using hturn)
    have hkinds : ∀ other ∈ event :: rest, other.kind = kind := houtbox ▸ h.outbox kind
    refine ⟨h.wellKept, ?_, h.index, ?_⟩
    · exact kind_of_mem_update h.outbox fun other hother =>
        hkinds other (List.mem_cons_of_mem event hother)
    · intro ns key
      refine (h.stores ns key).trans ?_
      rw [currentWorkload?_pass, Bus.publish_snd_append]
      simp only [underway, currentWorkload?, lastWorkload?_append, lastWorkload?_singleton]
      by_cases hkey : key.kind.resourceKind = kind
      · subst hkey
        rw [Function.update_self, houtbox, lastWorkload?_cons]
        simp only [Option.or_assoc]
      · -- an event of another kind can be anywhere
        have hother : event.workloadAt? ns key = none := by
          refine Option.eq_none_iff_forall_ne_some.mpr fun delivery hdelivery => hkey ?_
          rw [← ClusterEvent.kind_of_workloadAt? hdelivery]
          exact hkinds event List.mem_cons_self
        rw [Function.update_of_ne hkey, hother, Option.none_or]

/-- Opening the bus moves on what it holds, in the order in which it was published. -/
theorem Consistent.openBus (h : pipeline.Consistent consumed)
    (hturn : pipeline.turn? .openBus = some next) : next.Consistent consumed := by
  obtain rfl : pipeline.pass pipeline.bus.release.1 pipeline.bus.release.2 = next :=
    Option.some.inj hturn
  refine ⟨h.wellKept, h.outbox, h.index, fun ns key => ?_⟩
  rw [currentWorkload?_pass, Bus.release_snd_append]
  exact h.stores ns key

/-- Consuming an event records it in the index. -/
theorem Consistent.consume (h : pipeline.Consistent consumed) {event : ClusterEvent}
    {rest : List ClusterEvent} (hqueue : pipeline.queue = event :: rest)
    (hturn : pipeline.turn? .consume = some next) : next.Consistent (consumed ++ [event]) := by
  obtain rfl := Option.some.inj (by simpa only [turn?, hqueue] using hturn)
  refine ⟨h.wellKept, h.outbox, ?_, ?_⟩
  · -- the index is that of what has been consumed, with the event at its end
    intro ns key
    exact Reconciler.owners_handle_concat (h.index ns key) pipeline.stores event
  · intro ns key
    refine (h.stores ns key).trans ?_
    rw [hqueue, List.append_assoc consumed [event]]
    rfl

/-- Every turn keeps the invariant. -/
theorem Consistent.turn (h : pipeline.Consistent consumed) {turn : Turn}
    (hturn : pipeline.turn? turn = some next) : ∃ consumed, next.Consistent consumed := by
  cases turn with
  | observe kind events => exact ⟨consumed, h.observe hturn⟩
  | publish kind => exact ⟨consumed, h.publish hturn⟩
  | openBus => exact ⟨consumed, h.openBus hturn⟩
  -- only consuming adds to what has been consumed
  | consume =>
    cases hqueue : pipeline.queue with
    | nil => simp [turn?, hqueue] at hturn
    | cons event rest => exact ⟨consumed ++ [event], h.consume hqueue hturn⟩

theorem Consistent.turns (h : pipeline.Consistent consumed) {turns : List Turn}
    (hturns : pipeline.turns? turns = some next) : ∃ consumed, next.Consistent consumed := by
  refine of_foldlM_eq_some (fun between => ∃ consumed, between.Consistent consumed) ?_ hturns
    ⟨consumed, h⟩
  rintro turn before after ⟨consumed, hbefore⟩ hturn
  exact hbefore.turn hturn

/-- Every reachable pipeline satisfies the invariant. -/
theorem Reachable.consistent (h : pipeline.Reachable) :
    ∃ consumed, pipeline.Consistent consumed := by
  obtain ⟨bus, turns, hbus, hturns⟩ := h
  exact (consistent_start bus hbus).turns hturns

/-! ### Releases -/

end Pipeline

/-- A workload that has opted in and refers to a config. -/
def Workload.Uses (workload : Workload) (ref : ConfigRef) : Prop :=
  workload.isOptedIn = true ∧ ref ∈ workload.referencedConfigs

instance (workload : Workload) (ref : ConfigRef) : Decidable (workload.Uses ref) :=
  inferInstanceAs (Decidable (_ ∧ _))

namespace Pipeline

variable {pipeline next : Pipeline} {consumed : List ClusterEvent}

/-- When a config is released, none of the consumed events has left a user of it. -/
theorem Consistent.not_uses_of_release (h : pipeline.Consistent consumed) {event : ClusterEvent}
    {config : Config} {finalizer : String}
    (hwrite : .removeFinalizer config finalizer ∈
      (Reconciler.handle pipeline.stores pipeline.index event).2)
    {key : WorkloadKey} {workload : Workload}
    (hcurrent : currentWorkload? (consumed ++ [event]) config.ns key = some workload) :
    ¬ workload.Uses config.ref := by
  rintro ⟨hopted, href⟩
  obtain ⟨ns, -, hjustified⟩ := Reconciler.isJustifiedWithin_of_mem_handle hwrite
  obtain ⟨-, -, -, -, hunused⟩ := hjustified.own h.wellKept
  obtain ⟨delivery, hlast, hdelivery⟩ := Option.bind_eq_some_iff.mp hcurrent
  -- a user that has been consumed would be recorded in the index
  have hrecorded := Reconciler.recorded_eq_some_iff.mpr ⟨workload, hdelivery, hopted, rfl⟩
  refine hunused ⟨key, _, ?_, href⟩
  rw [Reconciler.owners_handle_concat (h.index config.ns key), hlast]
  exact hrecorded

/-- Whenever a config is released, the stores hold a workload that has opted in and refers to it
exactly if the version of such a workload is still under way: behind the handled event in the queue,
on the bus or with its informer. -/
theorem released_despite_user_iff (hreachable : pipeline.Reachable) {event : ClusterEvent}
    {rest : List ClusterEvent} (hqueue : pipeline.queue = event :: rest) {config : Config}
    {finalizer : String}
    (hwrite : .removeFinalizer config finalizer ∈
      (Reconciler.handle pipeline.stores pipeline.index event).2) :
    (∃ key workload, pipeline.stores.workload? config.ns key = some workload ∧
      workload.Uses config.ref) ↔
    ∃ key workload,
      currentWorkload? (rest ++ pipeline.underway key.kind.resourceKind) config.ns key =
        some workload ∧ workload.Uses config.ref := by
  obtain ⟨consumed, h⟩ := hreachable.consistent
  -- what the stores hold is what is under way, or else what has been consumed
  have hstores (key : WorkloadKey) : pipeline.stores.workload? config.ns key =
      ((lastWorkload? (rest ++ pipeline.underway key.kind.resourceKind) config.ns key).or
        (lastWorkload? (consumed ++ [event]) config.ns key)).bind Delivery.current? := by
    rw [h.stores, hqueue, currentWorkload?, ← lastWorkload?_append]
    simp
  constructor
  · rintro ⟨key, workload, hworkload, huses⟩
    refine ⟨key, workload, ?_, huses⟩
    rw [hstores] at hworkload
    cases hunderway :
        lastWorkload? (rest ++ pipeline.underway key.kind.resourceKind) config.ns key with
    | some delivery =>
      rw [hunderway, Option.some_or] at hworkload
      rw [currentWorkload?, hunderway]
      exact hworkload
    | none =>
      rw [hunderway, Option.none_or] at hworkload
      exact absurd huses (h.not_uses_of_release hwrite hworkload)
  · rintro ⟨key, workload, hunderway, huses⟩
    refine ⟨key, workload, ?_, huses⟩
    obtain ⟨delivery, hlast, hdelivery⟩ := Option.bind_eq_some_iff.mp hunderway
    rw [hstores, hlast, Option.some_or]
    exact hdelivery

/-- The bus passes events on at once, and every event is handled as soon as it is
published. A config map is updated to wait for its deletion and is released, and the stores
hold no user of it. -/
theorem released_without_stored_user :
    let old := ConfigMap.kept "x" "1"
    let config := ConfigMap.leaving "x" "2"
    ∃ pipeline : Pipeline, pipeline.Reachable ∧
      pipeline.queue = [.configMaps (.updated old config)] ∧
      .removeFinalizer (.configMap config) configFinalizer ∈
        (Reconciler.handle pipeline.stores pipeline.index (.configMaps (.updated old config))).2 ∧
      ¬ ∃ key workload, pipeline.stores.workload? "default" key = some workload ∧
        workload.Uses ⟨.configMap, "x"⟩ := by
  intro old config
  let turns : List Turn := [.observe .configMaps [.configMaps (.created old)], .publish .configMaps,
    .consume, .observe .configMaps [.configMaps (.updated old config)], .publish .configMaps]
  let pipeline := ((start .direct).turns? turns).get (by decide)
  have hreachable : pipeline.Reachable :=
    ⟨.direct, turns, Or.inr rfl, (Option.some_get _).symm⟩
  have hqueue : pipeline.queue = [.configMaps (.updated old config)] := rfl
  have hwrite : .removeFinalizer (.configMap config) configFinalizer ∈
      (Reconciler.handle pipeline.stores pipeline.index
        (.configMaps (.updated old config))).2 := by decide
  refine ⟨pipeline, hreachable, hqueue, hwrite, fun hstored => ?_⟩
  obtain ⟨key, workload, hunderway, -⟩ :=
    (released_despite_user_iff hreachable hqueue hwrite).mp hstored
  -- nothing is under way
  have hnone : pipeline.underway key.kind.resourceKind = [] := by
    cases key.kind <;> rfl
  rw [hnone] at hunderway
  cases hunderway

/-- A gated bus holds two deliveries of a config map, which comes to wait for its deletion, and then
one of a deployment that uses it. When the bus is opened, the update of the config map is handled
first, and the config map is released although the stores hold the deployment. -/
theorem released_despite_stored_user :
    let config := ConfigMap.leaving "x" "2"
    let user := Workload.mk .deployment (.userOf "x" "a" "1")
    ∃ pipeline : Pipeline, pipeline.Reachable ∧
      ∃ event rest, pipeline.queue = event :: rest ∧
      .removeFinalizer (.configMap config) configFinalizer ∈
        (Reconciler.handle pipeline.stores pipeline.index event).2 ∧
      pipeline.stores.workload? "default" user.key = some user ∧
        user.Uses ⟨.configMap, "x"⟩ := by
  intro config user
  let old := ConfigMap.kept "x" "1"
  -- the deployment is stored when its watcher shows it, but waits behind the gate
  let turns : List Turn := [
    .observe .configMaps [.configMaps (.created old)], .publish .configMaps,
    .observe .configMaps [.configMaps (.updated old config)], .publish .configMaps,
    .observe .deployments [.deployments (.created user.object)], .publish .deployments,
    .openBus, .consume]
  let pipeline := ((start .gated).turns? turns).get (by decide)
  refine ⟨pipeline, ⟨.gated, turns, Or.inl rfl, (Option.some_get _).symm⟩,
    .configMaps (.updated old config), [.deployments (.created user.object)], rfl, ?_, ?_, ?_⟩
  · decide
  · decide
  · decide

end Pipeline

end ClusterWatch
