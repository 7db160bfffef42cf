import ClusterWatch.Proofs.Config.Interleaving

/-!
# Workloads that opt out

A change of a config rolls out the workloads that the index knows to use it, each in the version
that the stores hold at that moment. The index lags behind the stores, so the version in the stores
may have opted out already.

* `Pipeline.Consistent.workload?_eq` — the stores hold of a workload what is under way, or else
  what has been consumed.
* `rolled_out_despite_opt_out_iff` — a workload that has opted out is rolled out exactly if the
  version that has opted out is still under way to the reconciler.
-/

namespace ClusterWatch

namespace Pipeline

variable {pipeline : Pipeline} {consumed rest : List ClusterEvent} {event : ClusterEvent}

/-- While an event is handled, the stores hold of a workload what is under way behind the event, or
else what the event and those before it have left. -/
theorem Consistent.workload?_eq (h : pipeline.Consistent consumed)
    (hqueue : pipeline.queue = event :: rest) (ns : String) (key : WorkloadKey) :
    pipeline.stores.workload? ns key =
      ((lastWorkload? (rest ++ pipeline.underway key.kind.resourceKind) ns key).or
        (lastWorkload? (consumed ++ [event]) ns key)).bind Delivery.current? := by
  rw [h.stores, hqueue, currentWorkload?, ← lastWorkload?_append]
  simp

/-- A workload in the index has opted in with the version that was consumed last, and the delivery
of a config leaves that as it is. -/
theorem Consistent.exists_optedIn (h : pipeline.Consistent consumed) {delivery : Delivery Config}
    (hconfig : event.config? = some delivery) {ns : String} {key : WorkloadKey} {refs : ConfigRefs}
    (hrefs : (pipeline.index.within ns).owners[key]? = some refs) :
    ∃ version, (lastWorkload? (consumed ++ [event]) ns key).bind Delivery.current? =
      some version ∧ version.isOptedIn = true := by
  have hother : event.workloadAt? ns key = none := by
    simp [ClusterEvent.workloadAt?, ClusterEvent.workload?_eq_none hconfig]
  -- what is in the index was recorded for the last consumed version, which has opted in
  rw [h.index] at hrefs
  obtain ⟨last, hlast, hrecorded⟩ := Option.bind_eq_some_iff.mp hrefs
  obtain ⟨version, hversion, hopted, -⟩ := Reconciler.recorded_eq_some_iff.mp hrecorded
  refine ⟨version, ?_, hopted⟩
  rw [lastWorkload?_append, lastWorkload?_singleton, hother, Option.none_or, hlast]
  exact hversion

/-- Whenever a config is delivered and a workload is rolled out for it, it is the version in
the stores that is rolled out. That has opted out exactly if the version of the workload that
is under way to the reconciler has: behind the handled event in the queue, on the bus or with
its informer. -/
theorem rolled_out_despite_opt_out_iff (hreachable : pipeline.Reachable)
    (hqueue : pipeline.queue = event :: rest)
    {delivery : Delivery Config} (hconfig : event.config? = some delivery) {workload : Workload}
    {hash : String}
    (hwrite :
      .setConfigHash workload hash ∈ (Reconciler.handle pipeline.stores pipeline.index event).2) :
    pipeline.stores.workload? workload.ns workload.key = some workload ∧
      (workload.isOptedIn = false ↔
        ∃ version,
          currentWorkload? (rest ++ pipeline.underway workload.key.kind.resourceKind) workload.ns
            workload.key =
            some version ∧ version.isOptedIn = false) := by
  obtain ⟨consumed, h⟩ := hreachable.consistent
  rw [Reconciler.handle_of_config? _ _ hconfig] at hwrite
  obtain ⟨-, key, hkey, hstored, -, -⟩ := Reconciler.setConfigHash_mem_onConfig.mp hwrite
  -- the stores hold the workload under its own name
  obtain ⟨-, hns, rfl⟩ := h.wellKept.of_workload? hstored
  rw [← hns] at hkey hstored
  refine ⟨hstored, ?_⟩
  rw [h.workload?_eq hqueue] at hstored
  rw [currentWorkload?]
  cases hunderway :
      lastWorkload? (rest ++ pipeline.underway workload.key.kind.resourceKind) workload.ns
        workload.key with
  | some last =>
    rw [hunderway, Option.some_or, Option.bind_some] at hstored
    simp [hstored]
  | none =>
    -- nothing is under way, so this is the version by which the workload has come into the index
    obtain ⟨refs, hrefs, -⟩ := (NamespaceIndex.mem_usersOf _ _ _).mp hkey
    obtain ⟨version, hversion, hopted⟩ := h.exists_optedIn hconfig hrefs
    rw [hunderway, Option.none_or, hversion, Option.some.injEq] at hstored
    simp [← hstored, hopted]

/-- The bus passes events on at once, and every event is handled as soon as it is published. A
config map gets new data, and the deployment that uses it is rolled out and has opted in. -/
theorem rolled_out_opted_in :
    let old := ConfigMap.basic "x" "1" "one"
    let new := ConfigMap.basic "x" "3" "two"
    let user := Workload.mk .deployment (.userOf "x" "a" "2")
    ∃ pipeline : Pipeline, pipeline.Reachable ∧
      pipeline.queue = [.configMaps (.updated old new)] ∧ (∃ hash, .setConfigHash user hash ∈
        (Reconciler.handle pipeline.stores pipeline.index (.configMaps (.updated old new))).2) ∧
      user.isOptedIn ≠ false := by
  intro old new user
  let turns : List Turn := [
    .observe .configMaps [.configMaps (.created old)], .publish .configMaps, .consume,
    .observe .deployments [.deployments (.created user.object)], .publish .deployments, .consume,
    .observe .configMaps [.configMaps (.updated old new)], .publish .configMaps]
  let pipeline := ((start .direct).turns? turns).get (by decide)
  let hash := Reconciler.cachedHash pipeline.stores user.ns user.referencedConfigs
  have hreachable : pipeline.Reachable := ⟨.direct, turns, Or.inr rfl, (Option.some_get _).symm⟩
  have hqueue : pipeline.queue = [.configMaps (.updated old new)] := rfl
  have hwrite : .setConfigHash user hash ∈
      Reconciler.onConfig pipeline.stores pipeline.index
        (.updated (.configMap old) (.configMap new)) :=
    Reconciler.setConfigHash_mem_onConfig.mpr
      ⟨⟨rfl, by decide⟩, user.key, by decide, by decide, rfl, (Option.some_ne_none hash).symm⟩
  refine ⟨pipeline, hreachable, hqueue, ⟨hash, hwrite⟩, fun hopted => ?_⟩
  obtain ⟨version, hunderway, -⟩ :=
    (rolled_out_despite_opt_out_iff hreachable hqueue rfl hwrite).2.mp hopted
  -- nothing is under way
  cases hunderway

/-- A gated bus holds the deliveries of a deployment that uses a config map, of the config map, and
of the deployment again, which has opted out meanwhile. When the bus is opened, the deployment comes
into the index, and the config map rolls it out in the version that has opted out. -/
theorem rolled_out_after_opting_out :
    let config := ConfigMap.kept "x" "2"
    let before := WorkloadObject.userOf "x" "a" "1"
    let user := Workload.mk .deployment { before with metadata := .basic "a" "3" }
    ∃ pipeline : Pipeline, pipeline.Reachable ∧
      ∃ rest, pipeline.queue = .configMaps (.created config) :: rest ∧
      (∃ hash, .setConfigHash user hash ∈
        (Reconciler.handle pipeline.stores pipeline.index (.configMaps (.created config))).2) ∧
      pipeline.stores.workload? "default" user.key = some user ∧ user.isOptedIn = false := by
  intro config before user
  -- the second version of the deployment is stored, while the first one is consumed
  let turns : List Turn := [
    .observe .deployments [.deployments (.created before)], .publish .deployments,
    .observe .configMaps [.configMaps (.created config)], .publish .configMaps,
    .observe .deployments [.deployments (.updated before user.object)], .publish .deployments,
    .openBus, .consume]
  let pipeline := ((start .gated).turns? turns).get (by decide)
  let hash := Reconciler.cachedHash pipeline.stores user.ns user.referencedConfigs
  have hwrite : .setConfigHash user hash ∈
      Reconciler.onConfig pipeline.stores pipeline.index (.created (.configMap config)) :=
    Reconciler.setConfigHash_mem_onConfig.mpr
      ⟨trivial, user.key, by decide, by decide, rfl, (Option.some_ne_none hash).symm⟩
  exact ⟨pipeline, ⟨.gated, turns, Or.inl rfl, (Option.some_get _).symm⟩,
    [.deployments (.updated before user.object)], rfl, ⟨hash, hwrite⟩, by decide, rfl⟩

end Pipeline

end ClusterWatch
