import ClusterWatch.Proofs.Config.Settling
import ClusterWatch.Proofs.Watch.Tracking

/-!
# The steady state of the reconciler

Configs and workloads change one at a time. Each change passes through its store and its tracker
to the reconciler, and everything that the reconciler writes lands in the stores again before
the next change.

* `LiveEvent`, `ControlLoop` — the changes, and what goes round with them.
* `Admissible` — the runs in which versions do not repeat, no config is deleted that is used, and
  no config changes its data once it waits for its deletion.
* `ControlLoop.Sound` — the invariant: the index mirrors the stores, the stores are steady, and
  the trackers remember nothing that has not been applied.
* `steady_of_admissible` — after every step of an admissible run all workloads that have opted in
  carry the hash of their configs, and their configs are protected.
-/

namespace ClusterWatch

/-! ### Runs -/

/-- A change of a workload or of a config, outside of listings. -/
inductive LiveEvent where
  /-- Of a workload. -/
  | ofWorkload (change : Change) (workload : Workload)
  /-- Of a config. -/
  | ofConfig (change : Change) (config : Config)

/-- The watch event of a change. -/
def LiveEvent.observation : LiveEvent → Observation
  | .ofWorkload change workload => workload.observation change
  | .ofConfig change config => config.observation change

/-- What goes round with the changes: the relay, and the index of the reconciler. -/
structure ControlLoop where
  /-- The stores, the trackers and the bus. -/
  relay : Relay
  /-- The index. -/
  index : OwnershipIndex

namespace ControlLoop

/-- The loop before the first change, with an open bus. -/
def start : ControlLoop :=
  ⟨.start .direct, .empty⟩

/-- The stores of the loop. -/
def stores (loop : ControlLoop) : Stores :=
  loop.relay.stores

/-- An event handled by the reconciler, and all writes landed. -/
def handle (loop : ControlLoop) (event : ClusterEvent) : ControlLoop :=
  let (index, writes) := Reconciler.handle loop.stores loop.index event
  ⟨{ loop.relay with stores := loop.stores.landAll writes }, index⟩

/-- A change gone round. -/
def step (loop : ControlLoop) (live : LiveEvent) : ControlLoop :=
  let (relay, events) := loop.relay.observe live.observation
  events.foldl handle ⟨relay, loop.index⟩

/-- The loop after a run. -/
def run (lives : List LiveEvent) : ControlLoop :=
  lives.foldl step start

theorem run_concat (lives : List LiveEvent) (live : LiveEvent) :
    run (lives ++ [live]) = (run lives).step live := by
  simp [run]

end ControlLoop

/-- A run of changes of objects that have a namespace and a name. An applied object comes in a
version that its object has not had before; what is deleted is no config that a cached
workload which has opted in refers to; and a config that waits for its deletion has the data
that it is cached with. -/
inductive Admissible : List LiveEvent → Prop where
  | start : Admissible []
  | workloadApplied {lives : List LiveEvent} (h : Admissible lives) (workload : Workload)
      (haddressable : ClusterObject.IsAddressable workload)
      (hfresh : ∀ earlier, .ofWorkload .applied earlier ∈ lives → earlier.ns = workload.ns →
        earlier.key = workload.key →
          earlier.metadata.resourceVersion ≠ workload.metadata.resourceVersion) :
      Admissible (lives ++ [.ofWorkload .applied workload])
  | workloadDeleted {lives : List LiveEvent} (h : Admissible lives) (workload : Workload)
      (haddressable : ClusterObject.IsAddressable workload) :
      Admissible (lives ++ [.ofWorkload .deleted workload])
  | configApplied {lives : List LiveEvent} (h : Admissible lives) (config : Config)
      (haddressable : ClusterObject.IsAddressable config)
      (hfresh : ∀ earlier, .ofConfig .applied earlier ∈ lives → earlier.ns = config.ns →
        earlier.ref = config.ref →
          earlier.metadata.resourceVersion ≠ config.metadata.resourceVersion)
      (hpending : config.isPendingDeletion = true → ∀ cached,
        (ControlLoop.run lives).stores.config? config.ns config.ref = some cached →
          cached.data = config.data) :
      Admissible (lives ++ [.ofConfig .applied config])
  | configDeleted {lives : List LiveEvent} (h : Admissible lives) (config : Config)
      (haddressable : ClusterObject.IsAddressable config)
      (hunused : ∀ key workload,
        (ControlLoop.run lives).stores.workload? config.ns key = some workload →
          workload.isOptedIn = true → config.ref ∉ workload.referencedConfigs) :
      Admissible (lives ++ [.ofConfig .deleted config])

/-! ### Deliveries of changes -/

/-- A change that is not suppressed amounts to a delivery that leaves what the change leaves, and
that is about the object that has changed, if what is remembered of it has the same name. -/
theorem Change.exists_delivery {α : Type} [ClusterObject α] (change : Change) (known : Option α)
    (object : α) (hfresh : change = .applied → ∀ old, known = some old →
      (ClusterObject.metadata old).resourceVersion ≠
        (ClusterObject.metadata object).resourceVersion) :
    ∃ delivery, change.delivery? known object = some delivery ∧
      delivery.current? = change.state? object ∧
      (delivery.object = object ∨ known = some delivery.object) := by
  cases change with
  | applied =>
    cases known with
    | none => exact ⟨.created object, rfl, rfl, Or.inl rfl⟩
    | some old =>
      -- a fresh version is not suppressed
      have hversion : Tracker.sameVersion old object = false := by
        have hne := hfresh rfl old rfl
        simp [Tracker.sameVersion, hne]
      refine ⟨.updated old object, ?_, rfl, Or.inl rfl⟩
      rw [delivery?, Tracker.change?, hversion]
      rfl
  | deleted =>
    refine ⟨_, rfl, rfl, ?_⟩
    cases known with
    | none => exact Or.inl rfl
    | some old => exact Or.inr rfl

/-- An update follows on the version that is remembered. -/
theorem Change.known_of_updated {α : Type} [ClusterObject α] {change : Change} {known : Option α}
    {object old new : α} (h : change.delivery? known object = some (.updated old new)) :
    known = some old := by
  cases change with
  -- only an object that is remembered in another version is updated
  | applied =>
    cases known with
    | none => cases h
    | some known =>
      simp only [delivery?, Tracker.change?, Option.ite_none_left_eq_some, Option.some.injEq,
        Delivery.updated.injEq] at h
      rw [h.2.1]
  | deleted => cases h

namespace ControlLoop

/-- A change that is told as one event goes round with the handling of that event. -/
theorem step_eq {loop : ControlLoop} (hbus : loop.relay.bus = .direct) (live : LiveEvent)
    {event : ClusterEvent}
    (hevents : (loop.relay.trackers.observe live.observation).2 = [event]) :
    loop.step live =
      handle ⟨⟨loop.stores.observe live.observation,
        (loop.relay.trackers.observe live.observation).1, .direct⟩, loop.index⟩ event := by
  rw [step, Relay.observe_direct _ hbus, hevents]
  rfl

/-! ### The invariant -/

/-- What the trackers remember after a run: objects that have been applied, under their own names,
and configs that are cached with the same data. -/
structure Tracked (loop : ControlLoop) (lives : List LiveEvent) : Prop where
  /-- A remembered workload has been applied and goes by its own name. -/
  workload : ∀ ns, ClusterObject.hasSeparator ns = false → ∀ key known,
    loop.relay.trackers.workload? ns key = some known →
      (known.ns = ns ∧ known.key = key) ∧ .ofWorkload .applied known ∈ lives
  /-- A remembered config has been applied and goes by its own name. -/
  config : ∀ ns, ClusterObject.hasSeparator ns = false → ∀ ref known,
    loop.relay.trackers.config? ns ref = some known →
      (known.ns = ns ∧ known.ref = ref) ∧ .ofConfig .applied known ∈ lives
  /-- A remembered config is cached with the same data. -/
  cached : ∀ ns, ClusterObject.hasSeparator ns = false → ∀ ref known,
    loop.relay.trackers.config? ns ref = some known →
      (loop.stores.config? ns ref).map Config.data = some known.data

/-- The invariant of a loop after a run. -/
structure Sound (loop : ControlLoop) (lives : List LiveEvent) : Prop where
  /-- The bus is open. -/
  bus : loop.relay.bus = .direct
  /-- The stores are well kept. -/
  kept : loop.stores.WellKept
  /-- The index mirrors the stores. -/
  mirrors : Reconciler.Mirrors loop.index loop.stores
  /-- The stores are steady. -/
  steady : loop.stores.Steady
  /-- The trackers remember what has been applied. -/
  tracked : loop.Tracked lives

theorem sound_start : start.Sound [] where
  bus := rfl
  kept := Stores.wellKept_empty
  mirrors := by
    intro ns key
    simp [start, stores, Relay.start, NamespaceIndex.empty]
  steady := by
    intro ns key workload hworkload
    simp [start, stores, Relay.start] at hworkload
  -- no object of any kind is remembered yet
  tracked := by
    have hworkload (ns : String) (key : WorkloadKey) :
        start.relay.trackers.workload? ns key = none := by
      obtain ⟨kind, name⟩ := key
      cases kind <;> simp [start, Relay.start, Trackers.empty, Trackers.workload?, Workload.find?,
        Trackers.workloads, Tracker.known?, Tracker.empty]
    have hconfig (ns : String) (ref : ConfigRef) :
        start.relay.trackers.config? ns ref = none := by
      obtain ⟨kind, name⟩ := ref
      cases kind <;> simp [start, Relay.start, Trackers.empty, Trackers.config?, Config.find?,
        Tracker.known?, Tracker.empty]
    constructor
    · intro ns _ key known hknown
      rw [hworkload] at hknown
      cases hknown
    · intro ns _ ref known hknown
      rw [hconfig] at hknown
      cases hknown
    · intro ns _ ref known hknown
      rw [hconfig] at hknown
      cases hknown

variable {loop : ControlLoop} {lives : List LiveEvent}

/-- Landed writes leave the data of configs alone. -/
theorem Tracked.landAll (h : loop.Tracked lives) (writes : List ConfigWrite)
    (index : OwnershipIndex) :
    Tracked ⟨{ loop.relay with stores := loop.stores.landAll writes }, index⟩ lives where
  workload := h.workload
  config := h.config
  cached := by
    intro ns hns ref known hknown
    rw [← h.cached ns hns ref known hknown]
    refine (congrArg (Option.map Config.data) (Stores.config?_landAll _ _ ns ref)).trans ?_
    -- the writes set finalizers, and no data
    rw [Option.map_map]
    congr 1
    funext config
    exact config.data_afterAll writes

/-- A change of a workload is remembered as it has been applied. -/
theorem Tracked.observe_workload (h : loop.Tracked lives) (change : Change) {workload : Workload}
    (haddressable : ClusterObject.IsAddressable workload) :
    Tracked ⟨⟨loop.stores.observe (workload.observation change),
      (loop.relay.trackers.observe (workload.observation change)).1, .direct⟩, loop.index⟩
      (lives ++ [.ofWorkload change workload]) where
  workload := by
    intro ns hns key known hknown
    have hknown :=
      (Trackers.workload?_observe_workload _ change haddressable hns key).symm.trans hknown
    -- of the workload itself the change is remembered, of the others what was known before
    split at hknown
    next hat =>
      obtain ⟨rfl, rfl⟩ := Change.state?_eq_some_iff.mp hknown
      exact ⟨hat, by simp⟩
    next =>
      obtain ⟨hname, hmem⟩ := h.workload ns hns key known hknown
      exact ⟨hname, List.mem_append_left _ hmem⟩
  config := by
    intro ns hns ref known hknown
    have hknown := (Trackers.config?_observe_workload _ change workload ns ref).symm.trans hknown
    obtain ⟨hname, hmem⟩ := h.config ns hns ref known hknown
    exact ⟨hname, List.mem_append_left _ hmem⟩
  cached := by
    intro ns hns ref known hknown
    have hknown := (Trackers.config?_observe_workload _ change workload ns ref).symm.trans hknown
    rw [← h.cached ns hns ref known hknown]
    exact congrArg (Option.map Config.data) (Stores.config?_observe_workload change workload ns ref)

/-- A change of a config is remembered as it has been applied and as it is cached. -/
theorem Tracked.observe_config (h : loop.Tracked lives) (hkept : loop.stores.WellKept)
    (change : Change) {config : Config} (haddressable : ClusterObject.IsAddressable config) :
    Tracked ⟨⟨loop.stores.observe (config.observation change),
      (loop.relay.trackers.observe (config.observation change)).1, .direct⟩, loop.index⟩
      (lives ++ [.ofConfig change config]) where
  workload := by
    intro ns hns key known hknown
    have hknown := (Trackers.workload?_observe_config _ change config ns key).symm.trans hknown
    obtain ⟨hname, hmem⟩ := h.workload ns hns key known hknown
    exact ⟨hname, List.mem_append_left _ hmem⟩
  config := by
    intro ns hns ref known hknown
    have hknown := (Trackers.config?_observe_config _ change haddressable hns ref).symm.trans hknown
    split at hknown
    next hat =>
      obtain ⟨rfl, rfl⟩ := Change.state?_eq_some_iff.mp hknown
      exact ⟨hat, by simp⟩
    next =>
      obtain ⟨hname, hmem⟩ := h.config ns hns ref known hknown
      exact ⟨hname, List.mem_append_left _ hmem⟩
  cached := by
    intro ns hns ref known hknown
    have hknown := (Trackers.config?_observe_config _ change haddressable hns ref).symm.trans hknown
    -- the store and the tracker are changed in the same place
    have hfound := Stores.config?_observe_config hkept change haddressable.1 ns ref
    refine (congrArg (Option.map Config.data) hfound).trans ?_
    split at hknown
    next hat => rw [if_pos hat, hknown, Option.map_some]
    next hat =>
      rw [if_neg hat]
      exact h.cached ns hns ref known hknown

/-! ### Steps -/

/-- Handling an event keeps the invariant, if the index mirrors the stores afterwards and the writes
settle every workload. -/
theorem Tracked.sound_handle (h : loop.Tracked lives) (hbus : loop.relay.bus = .direct)
    (hkept : loop.stores.WellKept) {event : ClusterEvent}
    (hshown : ∀ delivery workload, event.workload? = some delivery →
      delivery.current? = some workload →
        loop.stores.workload? workload.ns workload.key = some workload)
    (hmirrors : Reconciler.Mirrors (Reconciler.handle loop.stores loop.index event).1 loop.stores)
    (hsettled : ∀ ns key workload, loop.stores.workload? ns key = some workload →
      workload.isOptedIn = true →
        loop.stores.SettledBy (Reconciler.handle loop.stores loop.index event).2 ns workload) :
    (loop.handle event).Sound lives where
  bus := hbus
  kept := hkept.landAll _
  mirrors := hmirrors.landAll _
  steady := Reconciler.steady_landAll hkept hshown hmirrors hsettled
  tracked := h.landAll _ _

/-- A change of a workload keeps the invariant, unless it repeats a version. -/
theorem Sound.step_workload (h : loop.Sound lives) (change : Change) {workload : Workload}
    (haddressable : ClusterObject.IsAddressable workload)
    (hfresh : change = .applied → ∀ earlier, .ofWorkload .applied earlier ∈ lives →
      earlier.ns = workload.ns → earlier.key = workload.key →
        earlier.metadata.resourceVersion ≠ workload.metadata.resourceVersion) :
    (loop.step (.ofWorkload change workload)).Sound (lives ++ [.ofWorkload change workload]) := by
  have hremembered := h.tracked.workload workload.ns haddressable.2 workload.key
  obtain ⟨delivery, hdelivery, hcurrent, hobject⟩ := change.exists_delivery
    (loop.relay.trackers.workload? workload.ns workload.key) workload fun happlied old hknown => by
      obtain ⟨⟨hns, hkey⟩, hmem⟩ := hremembered old hknown
      exact hfresh happlied old hmem hns hkey
  obtain ⟨event, hevents, hevent⟩ :=
    loop.relay.trackers.observe_workload_snd change haddressable.1 hdelivery
  -- a deletion is told with the object that is remembered, which has the same name
  have hname : delivery.object.ns = workload.ns ∧ delivery.object.key = workload.key := by
    rcases hobject with heq | hknown
    · rw [heq]
      exact ⟨rfl, rfl⟩
    · exact (hremembered delivery.object hknown).1
  have hshows (ns : String) (key : WorkloadKey) :
      (loop.stores.observe (workload.observation change)).workload? ns key =
        if delivery.object.ns = ns ∧ delivery.object.key = key then delivery.current?
        else loop.stores.workload? ns key := by
    rw [hname.1, hname.2, hcurrent]
    exact Stores.workload?_observe_workload h.kept change haddressable.1 ns key
  rw [step_eq h.bus (.ofWorkload change workload) hevents]
  refine (h.tracked.observe_workload change haddressable).sound_handle rfl
    (h.kept.workload change haddressable.1) ?_ ?_ ?_
  · intro told current htold htoldCurrent
    obtain rfl := Option.some.inj (hevent.symm.trans htold)
    obtain rfl := Delivery.object_of_current? htoldCurrent
    refine (hshows _ _).trans ?_
    rw [if_pos ⟨rfl, rfl⟩]
    exact htoldCurrent
  · rw [Reconciler.handle_of_workload? _ _ hevent]
    exact h.mirrors.onWorkload hshows
  · intro ns key cached hcached hopted
    rw [Reconciler.handle_of_workload? _ _ hevent]
    exact Reconciler.settledBy_onWorkload h.steady
      (Stores.config?_observe_workload change workload) hshows hcached hopted

/-- A change of a config keeps the invariant, unless it repeats a version, removes a config that is
in use, or changes the data of one that waits for its deletion. -/
theorem Sound.step_config (h : loop.Sound lives) (change : Change) {config : Config}
    (haddressable : ClusterObject.IsAddressable config)
    (hfresh : change = .applied → ∀ earlier, .ofConfig .applied earlier ∈ lives →
      earlier.ns = config.ns → earlier.ref = config.ref →
        earlier.metadata.resourceVersion ≠ config.metadata.resourceVersion)
    (hpending : change = .applied → config.isPendingDeletion = true → ∀ cached,
      loop.stores.config? config.ns config.ref = some cached → cached.data = config.data)
    (hunused : change = .deleted → ∀ key workload,
      loop.stores.workload? config.ns key = some workload → workload.isOptedIn = true →
        config.ref ∉ workload.referencedConfigs) :
    (loop.step (.ofConfig change config)).Sound (lives ++ [.ofConfig change config]) := by
  have hremembered := h.tracked.config config.ns haddressable.2 config.ref
  obtain ⟨delivery, hdelivery, hcurrent, hobject⟩ := change.exists_delivery
    (loop.relay.trackers.config? config.ns config.ref) config fun happlied old hknown => by
      obtain ⟨⟨hns, href⟩, hmem⟩ := hremembered old hknown
      exact hfresh happlied old hmem hns href
  obtain ⟨event, hevents, hevent⟩ :=
    loop.relay.trackers.observe_config_snd change haddressable.1 hdelivery
  have hother : event.workload? = none := ClusterEvent.workload?_eq_none hevent
  -- as with workloads, what is remembered has the same name
  have hname : delivery.object.ns = config.ns ∧ delivery.object.ref = config.ref := by
    rcases hobject with heq | hknown
    · rw [heq]
      exact ⟨rfl, rfl⟩
    · exact (hremembered delivery.object hknown).1
  have hshows (ns : String) (ref : ConfigRef) :
      (loop.stores.observe (config.observation change)).config? ns ref =
        if delivery.object.ns = ns ∧ delivery.object.ref = ref then delivery.current?
        else loop.stores.config? ns ref := by
    rw [hname.1, hname.2, hcurrent]
    exact Stores.config?_observe_config h.kept change haddressable.1 ns ref
  have hworkloads (ns : String) (key : WorkloadKey) :
      (loop.stores.observe (config.observation change)).workload? ns key =
        loop.stores.workload? ns key := Stores.workload?_observe_config change config ns key
  rw [step_eq h.bus (.ofConfig change config) hevents]
  refine (h.tracked.observe_config h.kept change haddressable).sound_handle rfl
    (h.kept.config change haddressable.1) ?_ ?_ ?_
  · intro told current htold
    rw [hother] at htold
    cases htold
  · rw [Reconciler.handle_of_config? _ _ hevent]
    intro ns key
    refine (h.mirrors ns key).trans ?_
    rw [← hworkloads ns key]
    rfl
  · intro ns key cached hcached hopted
    rw [Reconciler.handle_of_config? _ _ hevent]
    refine Reconciler.settledBy_onConfig (h.kept.config change haddressable.1) h.steady h.mirrors
      hworkloads hshows ?_ ?_ hcached hopted
    -- a config that is gone has been deleted, so it has no users
    · intro hgone
      rw [hname.1, hname.2]
      refine hunused ?_
      cases change with
      | applied =>
        rw [hcurrent] at hgone
        cases hgone
      | deleted => rfl
    -- where no users are rolled out, an update has left the data, or they are those of a
    -- pending config
    · intro current hnow hkeeps
      obtain ⟨happlied, rfl⟩ := Change.state?_eq_some_iff.mp (hcurrent.symm.trans hnow)
      cases delivery with
      | created object => exact absurd trivial hkeeps
      | deleted object => cases hnow
      | updated old new =>
        obtain rfl := Option.some.inj hnow
        have hknown := Change.known_of_updated hdelivery
        have hdata := h.tracked.cached new.ns haddressable.2 new.ref old hknown
        by_cases hstays : new.isPendingDeletion = false
        · have hsame : old.data = new.data := by
            by_contra hne
            exact hkeeps ⟨hstays, hne⟩
          rw [hdata, hsame]
        · obtain ⟨cached, hcached, -⟩ := Option.map_eq_some_iff.mp hdata
          rw [hcached, Option.map_some, hpending happlied (by simpa using hstays) cached hcached]

end ControlLoop

/-! ### Whole runs -/

/-- Every admissible run keeps the invariant. -/
theorem Admissible.sound {lives : List LiveEvent} (h : Admissible lives) :
    (ControlLoop.run lives).Sound lives := by
  induction h with
  | start => exact ControlLoop.sound_start
  | workloadApplied h workload haddressable hfresh ih =>
    rw [ControlLoop.run_concat]
    exact ih.step_workload .applied haddressable fun _ => hfresh
  | workloadDeleted h workload haddressable ih =>
    rw [ControlLoop.run_concat]
    -- what is deleted is not applied, and need not be fresh
    refine ih.step_workload .deleted haddressable fun happlied => ?_
    cases happlied
  | configApplied h config haddressable hfresh hpending ih =>
    rw [ControlLoop.run_concat]
    refine ih.step_config .applied haddressable (fun _ => hfresh)
      (fun _ => hpending) fun hdeleted => ?_
    cases hdeleted
  | configDeleted h config haddressable hunused ih =>
    rw [ControlLoop.run_concat]
    refine ih.step_config .deleted haddressable ?_ ?_ fun _ => hunused
    · intro happlied
      cases happlied
    · intro happlied
      cases happlied

/-- After every step of an admissible run, every cached workload that has opted in carries the
hash of its configs as they are cached, and those of them that do not wait for their deletion
carry the finalizer. -/
theorem steady_of_admissible {lives : List LiveEvent} (h : Admissible lives) :
    (ControlLoop.run lives).stores.Steady :=
  h.sound.steady

/-- A config map comes to exist, a deployment that uses it follows, and then the config map has its
text changed. In the end the deployment carries the hash of the new text, and the config map is
protected again. -/
theorem settled_after_change :
    let lives := [.ofConfig .applied (.configMap (.basic "x" "1" "one")),
      .ofWorkload .applied ⟨.deployment, .userOf "x" "a" "2"⟩,
      .ofConfig .applied (.configMap (.basic "x" "3" "two"))]
    ∃ workload, (ControlLoop.run lives).stores.workload? "default" ⟨.deployment, "a"⟩ =
      some workload ∧ (ControlLoop.run lives).stores.Settled "default" workload := by
  intro lives
  have hfirst : Admissible [.ofConfig .applied (.configMap (.basic "x" "1" "one"))] :=
    .configApplied .start (.configMap (.basic "x" "1" "one")) (by decide) (by simp) (by decide)
  have hsecond : Admissible [.ofConfig .applied (.configMap (.basic "x" "1" "one")),
      .ofWorkload .applied ⟨.deployment, .userOf "x" "a" "2"⟩] :=
    .workloadApplied hfirst ⟨.deployment, .userOf "x" "a" "2"⟩ (by decide) (by simp)
  -- the second version of the config map is a fresh one
  have hlives : Admissible lives := by
    refine .configApplied hsecond (.configMap (.basic "x" "3" "two")) (by decide) ?_ (by decide)
    intro earlier hearlier _ _
    obtain rfl : earlier = .configMap (.basic "x" "1" "one") := by simpa using hearlier
    decide
  have hcached : ((ControlLoop.run lives).stores.workload? "default" ⟨.deployment, "a"⟩).any
      Workload.isOptedIn = true := by decide +kernel
  obtain ⟨workload, hworkload, hopted⟩ := (Option.any_eq_true _ _).mp hcached
  exact ⟨workload, hworkload, steady_of_admissible hlives "default" _ workload hworkload hopted⟩

end ClusterWatch
