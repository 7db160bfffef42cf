import ClusterWatch.Proofs.Monitor.Isolation

/-!
# Limits that quotas set

A quota that names a key sets the limit of its namespace there, whatever stands under the key:
a value that cannot be read counts as zero, which is the least of all limits. Against a limit
of zero nothing is compared, so that a quota with such a value switches off the alerts on what
it was to limit.

* `Allowance` — what quotas limit; `ClusterState.limitOn` — the limit on it in a namespace,
  which is zero where some value cannot be read (`limitOn_of_isGarbled`) and else the smallest one
  (`limitOn_of_not_isGarbled`).
* `ClusterState.limitOn_withQuota` — the limits when a quota has been added whose
  values cannot be read.
* `ClusterState.malformed_quota_silences_iff` — the alerts stay the same if none of them was
  about such a limit.
-/

namespace ClusterWatch

/-! ### What quotas limit -/

/-- What quotas limit in a namespace. -/
inductive Allowance where
  /-- Processor time. -/
  | cpu
  /-- Memory. -/
  | memory
  /-- Storage. -/
  | storage
  deriving DecidableEq, Repr

namespace Allowance

/-- All allowances, in the order in which they are checked. -/
def all : List Allowance := [.cpu, .memory, .storage]

theorem mem_all (allowance : Allowance) : allowance ∈ all := by
  cases allowance <;> decide

/-- The key under which quotas name a limit. -/
def key : Allowance → String
  | .cpu => "limits.cpu"
  | .memory => "limits.memory"
  | .storage => "requests.storage"

/-- The dimension that a limit belongs to. -/
def dimension : Allowance → Dimension
  | .cpu => .cpu
  | .memory => .memory
  | .storage => .storage

/-- How the value of a limit is read. -/
def parse : Allowance → String → Except QuantityError UInt64
  | .cpu => Quantity.parseCpuMillis
  | .memory | .storage => Quantity.parseBytes

/-- The value that a resource list gives under a key; zero if it cannot be read. -/
def valueIn : Allowance → Resources → String → UInt64
  | .cpu => Quantity.cpuMillisOf
  | .memory | .storage => Quantity.bytesOf

/-- The value of a resource is what its text is read as, and zero if it cannot be read. -/
theorem valueIn_of_getElem? {allowance : Allowance} {resources : Resources} {key raw : String}
    (h : resources[key]? = some raw) :
    allowance.valueIn resources key = Quantity.valueOrZero (allowance.parse raw) := by
  cases allowance <;> simp only [valueIn, parse, Quantity.cpuMillisOf, Quantity.bytesOf, h]

/-- A value is refused for what it is read as a quantity. -/
theorem parse_eq_error_iff {allowance : Allowance} {raw : String} {error : QuantityError} :
    allowance.parse raw = .error error ↔ Quantity.parse raw = .error error := by
  cases allowance
  all_goals
    simp only [parse, Quantity.parseCpuMillis, Quantity.parseBytes]
    cases Quantity.parse raw <;> simp [Except.map]

end Allowance

namespace ResourceQuota

/-- A quota names a limit with a value that is no quantity. -/
def Garbles (quota : ResourceQuota) (allowance : Allowance) : Prop :=
  ∃ raw error, quota.hard[allowance.key]? = some raw ∧ Quantity.parse raw = .error error

/-- None of the limits that a quota names has a value that is a quantity. -/
def IsMalformed (quota : ResourceQuota) : Prop :=
  ∀ allowance : Allowance, allowance.key ∈ quota.hard → quota.Garbles allowance

/-- The limit that a quota names, if it can be read. -/
def limit? (quota : ResourceQuota) (allowance : Allowance) : Option UInt64 :=
  quota.hard[allowance.key]?.bind fun raw => (allowance.parse raw).toOption

end ResourceQuota

namespace ClusterState

variable {state : ClusterState} {ns : String} {allowance : Allowance}

/-! ### The limits of a namespace -/

/-- How much of an allowance a namespace uses. -/
def usedOf (state : ClusterState) (ns : String) : Allowance → UInt64
  | .cpu => (state.namespaceUsage ns).cpuMillis
  | .memory => (state.namespaceUsage ns).memoryBytes
  | .storage => state.storage.namespaceUsed state.sample ns

/-- How much of an allowance there is in the cluster. -/
def clusterTotal (state : ClusterState) : Allowance → UInt64
  | .cpu => state.clusterSample.cpu
  | .memory => state.clusterSample.memory
  | .storage => state.clusterStorage

/-- The limit that the namespace check compares the usage of an allowance with. -/
def limitOn (state : ClusterState) (ns : String) (allowance : Allowance) : UInt64 :=
  (state.quotaLimit? ns allowance.key allowance.valueIn).getD (state.clusterTotal allowance)

/-- The gauge of an allowance of a namespace. -/
def allowanceGauge (state : ClusterState) (ns : String) (allowance : Allowance) : Gauge :=
  ⟨"Namespace", "", ns, .whole, allowance.dimension, state.usedOf ns allowance,
    state.limitOn ns allowance⟩

/-- What is measured of a namespace itself are its allowances. -/
theorem ownGauges_eq (state : ClusterState) (ns : String) :
    state.ownGauges ns = Allowance.all.map (state.allowanceGauge ns) :=
  rfl

/-- Some quota of the namespace names the limit with a value that cannot be read. -/
def IsGarbled (state : ClusterState) (ns : String) (allowance : Allowance) : Prop :=
  ∃ quota ∈ state.stores.resourceQuotas.within ns, quota.Garbles allowance

/-- The smallest limit that a quota of the namespace names with a value that can be read. -/
def readLimit? (state : ClusterState) (ns : String) (allowance : Allowance) : Option UInt64 :=
  ((state.stores.resourceQuotas.within ns).filterMap (·.limit? allowance)).min?

/-- The limits that the quotas of a namespace name, where values that cannot be read
count as zero. -/
theorem mem_limits_iff {quotas : List ResourceQuota} {limit : UInt64} :
    limit ∈ (quotas.filterMap fun quota =>
        if quota.hard.contains allowance.key then some (allowance.valueIn quota.hard allowance.key)
          else none) ↔
      ∃ quota ∈ quotas, ∃ raw, quota.hard[allowance.key]? = some raw ∧
        Quantity.valueOrZero (allowance.parse raw) = limit := by
  simp only [List.mem_filterMap, Option.ite_none_right_eq_some, Option.some.injEq,
    Std.ExtTreeMap.contains_eq_isSome_getElem?, Option.isSome_iff_exists]
  constructor
  · rintro ⟨quota, hquota, ⟨raw, hraw⟩, rfl⟩
    exact ⟨quota, hquota, raw, hraw, (Allowance.valueIn_of_getElem? hraw).symm⟩
  · rintro ⟨quota, hquota, raw, hraw, rfl⟩
    exact ⟨quota, hquota, ⟨raw, hraw⟩, Allowance.valueIn_of_getElem? hraw⟩

/-- A quota with a value that cannot be read sets the least of all limits. -/
theorem quotaLimit?_of_isGarbled (h : state.IsGarbled ns allowance) :
    state.quotaLimit? ns allowance.key allowance.valueIn = some 0 := by
  obtain ⟨quota, hquota, raw, error, hraw, herror⟩ := h
  rw [quotaLimit?_eq_min?, List.min?_eq_some_iff]
  refine ⟨mem_limits_iff.mpr ⟨quota, hquota, raw, hraw, ?_⟩, fun _ _ => UInt64.zero_le⟩
  rw [Allowance.parse_eq_error_iff.mpr herror]
  rfl

/-- Where all values can be read, the limit is the smallest of them. -/
theorem quotaLimit?_of_not_isGarbled (h : ¬ state.IsGarbled ns allowance) :
    state.quotaLimit? ns allowance.key allowance.valueIn = state.readLimit? ns allowance := by
  rw [quotaLimit?_eq_min?, readLimit?]
  refine congrArg List.min? (List.filterMap_congr fun quota hquota => ?_)
  rw [ResourceQuota.limit?, Std.ExtTreeMap.contains_eq_isSome_getElem?]
  cases hraw : quota.hard[allowance.key]? with
  | none => rfl
  | some raw =>
    cases hparse : allowance.parse raw with
    -- a text that cannot be read would garble the allowance
    | error error =>
      exact absurd ⟨quota, hquota, raw, error, hraw, Allowance.parse_eq_error_iff.mp hparse⟩ h
    | ok limit =>
      rw [Allowance.valueIn_of_getElem? hraw, hparse]
      simp [Except.toOption, Quantity.valueOrZero, hparse]

/-- The limit on an allowance is zero if some quota of the namespace names it with a value that
cannot be read. -/
theorem limitOn_of_isGarbled (h : state.IsGarbled ns allowance) :
    state.limitOn ns allowance = 0 := by
  rw [limitOn, quotaLimit?_of_isGarbled h, Option.getD_some]

/-- Else it is the smallest that the quotas name, or what there is in the cluster where
they name none. -/
theorem limitOn_of_not_isGarbled (h : ¬ state.IsGarbled ns allowance) :
    state.limitOn ns allowance =
      (state.readLimit? ns allowance).getD (state.clusterTotal allowance) := by
  rw [limitOn, quotaLimit?_of_not_isGarbled h]

/-! ### One more quota -/

/-- The state when the store has been shown a quota. -/
def withQuota (state : ClusterState) (quota : ResourceQuota) : ClusterState :=
  { state with stores := state.stores.observe (.resourceQuotas (.apply quota)) }

variable {quota : ResourceQuota}

/-- The quotas of a namespace are those from before, and the new one if it is of the namespace. -/
theorem mem_within_withQuota
    (hnew : state.stores.resourceQuotas.objects[ClusterObject.id quota]? = none) {own : String}
    {other : ResourceQuota} :
    other ∈ (state.withQuota quota).stores.resourceQuotas.within own ↔
      other ∈ state.stores.resourceQuotas.within own ∨
        (other = quota ∧ quota.metadata.ns = some own) := by
  have hstore : (state.withQuota quota).stores.resourceQuotas.objects =
      state.stores.resourceQuotas.objects.insert (ClusterObject.id quota) quota := rfl
  simp only [Store.within, Store.toList, List.mem_filter, List.mem_map, Prod.exists,
    exists_eq_right, Std.ExtTreeMap.mem_toList_iff_getElem?_eq_some, decide_eq_true_eq, hstore,
    Std.ExtTreeMap.getElem?_insert, Std.LawfulEqCmp.compare_eq_iff_eq]
  constructor
  · rintro ⟨⟨id, hid⟩, hns⟩
    split at hid
    · obtain rfl := Option.some.inj hid
      exact .inr ⟨rfl, hns⟩
    · exact .inl ⟨⟨id, hid⟩, hns⟩
  · rintro (⟨⟨id, hid⟩, hns⟩ | ⟨rfl, hns⟩)
    · -- the identity of the new quota has been free
      have hother : ClusterObject.id quota ≠ id := by
        rintro rfl
        rw [hnew] at hid
        cases hid
      exact ⟨⟨id, by rw [if_neg hother, hid]⟩, hns⟩
    · exact ⟨⟨ClusterObject.id other, if_pos rfl⟩, hns⟩

/-- The limits of a namespace when a quota of some namespace has been added whose values cannot be
read: it sets those that it names to zero, in its own namespace, and no others. -/
theorem limitOn_withQuota
    (hnew : state.stores.resourceQuotas.objects[ClusterObject.id quota]? = none)
    (hns : quota.metadata.ns = some ns) (hmalformed : quota.IsMalformed) (own : String)
    (allowance : Allowance) :
    (state.withQuota quota).limitOn own allowance =
      if own = ns ∧ allowance.key ∈ quota.hard then 0 else state.limitOn own allowance := by
  have htotal : (state.withQuota quota).clusterTotal allowance = state.clusterTotal allowance := by
    cases allowance <;> rfl
  split
  next hnamed =>
    obtain ⟨rfl, hkey⟩ := hnamed
    have hgarbled : (state.withQuota quota).IsGarbled own allowance :=
      ⟨quota, (mem_within_withQuota hnew).mpr (.inr ⟨rfl, hns⟩), hmalformed allowance hkey⟩
    exact limitOn_of_isGarbled hgarbled
  next hnamed =>
    rw [limitOn, limitOn, htotal, quotaLimit?_eq_min?, quotaLimit?_eq_min?]
    -- the new quota adds nothing to the limits that are named
    refine congrArg (Option.getD · _) (Option.ext fun limit => ?_)
    simp only [List.min?_eq_some_iff, mem_limits_iff, mem_within_withQuota hnew]
    have hsame (limit : UInt64) : (∃ other, (other ∈ state.stores.resourceQuotas.within own ∨
          other = quota ∧ quota.metadata.ns = some own) ∧
            ∃ raw, other.hard[allowance.key]? = some raw ∧
            Quantity.valueOrZero (allowance.parse raw) = limit) ↔
        ∃ other ∈ state.stores.resourceQuotas.within own, ∃ raw,
          other.hard[allowance.key]? = some raw ∧
          Quantity.valueOrZero (allowance.parse raw) = limit := by
      refine exists_congr fun other => and_congr_left fun ⟨raw, hraw, _⟩ => or_iff_left ?_
      rintro ⟨rfl, hown⟩
      rw [hns, Option.some.injEq] at hown
      exact hnamed ⟨hown.symm,
        Std.ExtTreeMap.mem_iff_isSome_getElem?.mpr (Option.isSome_of_eq_some hraw)⟩
    simp only [hsame]

/-! ### Alerts with one more quota -/

/-- The alerts about a namespace are those on its allowances, and those on the volumes that
its pods mount. -/
theorem alertsWithin_eq_append (state : ClusterState) (thresholds : Thresholds) (own : String) :
    state.alertsWithin thresholds own =
      (Allowance.all.flatMap fun allowance =>
        ((state.allowanceGauge own allowance).alert? thresholds).toList) ++
        (state.storage.volumeChains state.sample own).filterMap (chainAlert? thresholds own) := by
  rw [alertsWithin, map_namespaceBreaches, ownGauges_eq, List.filterMap_map,
    List.filterMap_eq_flatMap_toList]
  rfl

section Malformed

variable (hnew : state.stores.resourceQuotas.objects[ClusterObject.id quota]? = none)
  (hns : quota.metadata.ns = some ns) (hmalformed : quota.IsMalformed) (thresholds : Thresholds)
    (own : String)

include hnew hns hmalformed

/-- A limit of zero is not alerted on. -/
theorem alert?_withQuota (allowance : Allowance) :
    ((state.withQuota quota).allowanceGauge own allowance).alert? thresholds =
      if own = ns ∧ allowance.key ∈ quota.hard then none
      else (state.allowanceGauge own allowance).alert? thresholds := by
  have hused : (state.withQuota quota).usedOf own allowance = state.usedOf own allowance := by
    cases allowance <;> rfl
  rw [allowanceGauge, limitOn_withQuota hnew hns hmalformed, hused]
  split
  next => rw [Gauge.alert?, Gauge.breach?, Thresholds.check?_of_no_total rfl, Option.map_none]
  next => rfl

/-- What is alerted on of an allowance with the quota is part of what is alerted on without it. -/
theorem sublist_alert?_withQuota (allowance : Allowance) :
    (((state.withQuota quota).allowanceGauge own allowance).alert? thresholds).toList.Sublist
      ((state.allowanceGauge own allowance).alert? thresholds).toList := by
  rw [alert?_withQuota hnew hns hmalformed]
  split
  · exact List.nil_sublist _
  · exact List.Sublist.refl _

/-- What is alerted on within a namespace with the quota is part of what is alerted
on without it. -/
theorem sublist_alertsWithin_withQuota :
    ((state.withQuota quota).alertsWithin thresholds own).Sublist
      (state.alertsWithin thresholds own) := by
  rw [alertsWithin_eq_append, alertsWithin_eq_append]
  exact (List.Sublist.flatMap_right _ fun allowance _ =>
    sublist_alert?_withQuota hnew hns hmalformed thresholds own allowance).append_right _

/-- The alerts within a namespace are the same with the quota if none was about a limit
that it names. -/
theorem alertsWithin_withQuota_eq_iff :
    (state.withQuota quota).alertsWithin thresholds own = state.alertsWithin thresholds own ↔
      ∀ allowance : Allowance, own = ns ∧ allowance.key ∈ quota.hard →
        (state.allowanceGauge own allowance).breach? thresholds = none := by
  rw [alertsWithin_eq_append, alertsWithin_eq_append]
  refine (List.append_left_inj _).trans ?_
  rw [flatMap_eq_iff_of_sublist fun allowance _ =>
    sublist_alert?_withQuota hnew hns hmalformed thresholds own allowance]
  simp only [Allowance.mem_all, true_imp_iff, alert?_withQuota hnew hns hmalformed]
  refine forall_congr' fun allowance => ?_
  split
  next hnamed =>
    -- the alert is lost exactly if there was one
    cases hbreach : (state.allowanceGauge own allowance).breach? thresholds with
    | none => simp [Gauge.alert?, hbreach]
    | some breach =>
      exact iff_of_false (by simp [Gauge.alert?, hbreach]) fun h =>
        Option.some_ne_none breach (h hnamed)
  next hnamed => exact iff_of_true rfl fun h => absurd h hnamed

end Malformed

/-- How the namespace check takes quotas, of which one is added none of whose values can be read. -/
structure TakesMalformed (state : ClusterState) (quota : ResourceQuota) (ns : String)
    (thresholds : Thresholds) : Prop where
  /-- The usage of a namespace is compared with the limits on its allowances. -/
  compared : ∀ own, state.namespaceBreaches thresholds own =
    Allowance.all.filterMap fun allowance =>
      thresholds.check? allowance.dimension (state.usedOf own allowance)
        (state.limitOn own allowance)
  /-- Where the values of all quotas can be read, the smallest is the limit, and else what there is
  in the cluster. -/
  read : ∀ own allowance, ¬ state.IsGarbled own allowance →
    state.limitOn own allowance =
      (state.readLimit? own allowance).getD (state.clusterTotal allowance)
  /-- A value that cannot be read makes the limit zero. -/
  garbled : ∀ own allowance, state.IsGarbled own allowance → state.limitOn own allowance = 0
  /-- With the quota, the alerts are the same if and only if none of them is about a limit
  that it names. -/
  alerts : (state.withQuota quota).alerts thresholds .perNamespace =
    state.alerts thresholds .perNamespace ↔
    (ns ∈ state.stores.namespaces.toList.map ClusterObject.name → ∀ allowance : Allowance,
      allowance.key ∈ quota.hard →
        (state.allowanceGauge ns allowance).breach? thresholds = none)

/-- A new quota whose values cannot be read leaves the alerts of the namespace check as they are if
and only if there is no alert on what it names. -/
theorem malformed_quota_silences_iff
    (hnew : state.stores.resourceQuotas.objects[ClusterObject.id quota]? = none)
    (hns : quota.metadata.ns = some ns) (hmalformed : quota.IsMalformed) (thresholds : Thresholds) :
    state.TakesMalformed quota ns thresholds where
  compared _ := rfl
  read _ _ := limitOn_of_not_isGarbled
  garbled _ _ := limitOn_of_isGarbled
  alerts := by
    -- no alert is added anywhere, so that the lists agree exactly if they do so
    -- namespace by namespace
    refine (flatMap_eq_iff_of_sublist fun own _ =>
      sublist_alertsWithin_withQuota hnew hns hmalformed thresholds own).trans ?_
    simp only [alertsWithin_withQuota_eq_iff hnew hns hmalformed]
    constructor
    · intro h hcached allowance hkey
      exact h ns hcached allowance ⟨rfl, hkey⟩
    · rintro h own hcached allowance ⟨rfl, hkey⟩
      exact h hcached allowance hkey

/-- A cluster with one node and one namespace, of which a pod uses nine tenths of the
processor time. -/
def crowdedCluster : ClusterState where
  stores := [.namespaces (.apply ⟨.basic "default" "1"⟩),
    .nodes (.apply ⟨.basic "n1" "2", none, [], .ofList [("cpu", "1")]⟩),
    .pods (.apply ⟨.basic "db" "3", some "n1", [], some "Running"⟩)].foldl Stores.observe .empty
  metrics := ⟨none, some [⟨"default", "db", ⟨900, 0⟩⟩]⟩
  storage := .empty
  sample := ∅

/-- A quota of this namespace that limits the processor time to a value that is no quantity. -/
def garbledQuota : ResourceQuota :=
  ⟨.basic "team" "4", .ofList [("limits.cpu", "lots")]⟩

theorem isMalformed_garbledQuota : garbledQuota.IsMalformed := by
  intro allowance hkey
  cases allowance with
  | cpu => exact ⟨"lots", .invalid "lots", by decide, by decide +kernel⟩
  | memory => exact absurd hkey (by decide)
  | storage => exact absurd hkey (by decide)

/-- Where less is used than the threshold asks for, the alerts stay as they are. -/
theorem unsilenced_below_threshold :
    crowdedCluster.stores.resourceQuotas.objects[ClusterObject.id garbledQuota]? = none ∧
      garbledQuota.metadata.ns = some "default" ∧ garbledQuota.IsMalformed ∧
      (crowdedCluster.withQuota garbledQuota).alerts ⟨95, 0, 0, 0⟩ .perNamespace =
        crowdedCluster.alerts ⟨95, 0, 0, 0⟩ .perNamespace := by
  have hnew : crowdedCluster.stores.resourceQuotas.objects[ClusterObject.id garbledQuota]? =
      none := by decide
  have hns : garbledQuota.metadata.ns = some "default" := rfl
  refine ⟨hnew, hns, isMalformed_garbledQuota, ?_⟩
  refine (malformed_quota_silences_iff hnew hns isMalformed_garbledQuota _).alerts.mpr
    fun _ allowance _ => ?_
  cases allowance <;> decide +kernel

/-- The alert that more is used goes away with the quota. -/
theorem silenced_by_malformed_quota :
    crowdedCluster.stores.resourceQuotas.objects[ClusterObject.id garbledQuota]? = none ∧
      garbledQuota.metadata.ns = some "default" ∧ garbledQuota.IsMalformed ∧
      (crowdedCluster.withQuota garbledQuota).alerts ⟨50, 0, 0, 0⟩ .perNamespace ≠
        crowdedCluster.alerts ⟨50, 0, 0, 0⟩ .perNamespace := by
  refine ⟨by decide, rfl, isMalformed_garbledQuota, ?_⟩
  -- the usage is well above the threshold, until the limit is taken to be zero
  have hbefore : crowdedCluster.alerts ⟨50, 0, 0, 0⟩ .perNamespace =
      [⟨"Namespace", "", "default", "cpu usage 90% exceeds threshold 50%",
        .thresholdExceeded⟩] := by
    decide +kernel
  have hafter :
      (crowdedCluster.withQuota garbledQuota).alerts ⟨50, 0, 0, 0⟩ .perNamespace = [] := by
    decide +kernel
  rw [hbefore, hafter]
  exact fun h => nomatch h

end ClusterState

end ClusterWatch
