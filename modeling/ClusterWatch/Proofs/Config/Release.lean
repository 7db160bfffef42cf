import Mathlib.Data.Nat.Find
import ClusterWatch.Proofs.Config.Caching
import ClusterWatch.Proofs.Config.Writes

/-!
# Release for deletion

When a config waits for its deletion and nobody uses it, its finalizer has to go, whichever of the
two came first. Moments of a history are counted by the deliveries that have been handled.

* `release_of_loss` — the delivery that takes the last user of a config away releases it.
* `updated_or_used_of_release` — only an update of the config and a loss of users
  release anything.
* `releasedInTime_iff` — a config that waits for its deletion out of use has been released in
  time, unless it was new to the reconciler in its last version and has not been used from there on.
  A config that is created as pending is looked at only if somebody uses it.
-/

namespace ClusterWatch

namespace Reconciler

/-! ### One step -/

/-- If a delivery leaves a config without users that has had some, the config is released as the
stores have it: the finalizer is taken off if it waits for its deletion. -/
theorem release_of_loss {before : List Handling} {next : Handling} {ns : String}
    {ref : ConfigRef} {config : Config}
    (hused : ((indexAfter before).within ns).References ref)
    (hunused : ¬ ((indexAfter (before ++ [next])).within ns).References ref)
    (hconfig : next.stores.config? ns ref = some config)
    (hpending : config.isPendingDeletion = true)
    (hcarries : config.hasFinalizer configFinalizer = true) :
    .removeFinalizer config configFinalizer ∈ writesAfter before next := by
  obtain ⟨key, refs, hrefs, href⟩ := hused
  rw [indexAfter_concat] at hunused
  -- the user that is lost is the workload that has been delivered
  have hlost : next.event.workloadAt? ns key ≠ none := by
    intro hnone
    refine hunused ⟨key, refs, ?_, href⟩
    rw [owners_handle, hnone]
    exact hrefs
  obtain ⟨delivery, hat⟩ := Option.ne_none_iff_exists'.mp hlost
  obtain ⟨hworkload, rfl, rfl⟩ := ClusterEvent.workloadAt?_eq_some_iff.mp hat
  rw [handle_of_workload? _ _ hworkload, onWorkload_fst, OwnershipIndex.within_update,
    if_pos rfl] at hunused
  rw [writesAfter, handle_of_workload? _ _ hworkload]
  refine removeFinalizer_mem_onWorkload.mpr
    ⟨⟨rfl, hpending, hcarries⟩, ref, ?_, hunused, hconfig⟩
  exact (NamespaceIndex.mem_refsOf _ _ _).mpr ⟨refs, hrefs, href⟩

/-- A config is only released as it is updated, or for a delivery of a workload, as the stores find
it for a reference that has been in use so far. -/
theorem updated_or_used_of_release {before : List Handling} {next : Handling} {config : Config}
    {finalizer : String} (hwrite : .removeFinalizer config finalizer ∈ writesAfter before next) :
    (∃ old, next.event.config? = some (.updated old config)) ∨
      next.event.config? = none ∧ ∃ ns ref, ((indexAfter before).within ns).References ref ∧
        next.stores.config? ns ref = some config := by
  rw [writesAfter] at hwrite
  rcases mem_handle_iff.mp hwrite with
    ⟨delivery, hworkload, hwrite⟩ | ⟨delivery, hconfig, hwrite⟩
  · obtain ⟨-, ref, href, -, hconfig⟩ := removeFinalizer_mem_onWorkload.mp hwrite
    -- what is released for a workload was recorded for it before
    obtain ⟨refs, hrefs, href⟩ := (NamespaceIndex.mem_refsOf _ _ _).mp href
    exact Or.inr ⟨ClusterEvent.config?_eq_none hworkload, _, ref,
      ⟨_, refs, hrefs, href⟩, hconfig⟩
  · obtain ⟨-, -, old, rfl⟩ := removeFinalizer_mem_onConfig.mp hwrite
    exact Or.inl ⟨old, hconfig⟩

/-! ### Moments of a history -/

section Moments

variable (history : List Handling) (ns : String) (ref : ConfigRef)

/-- The version of a config that is there at a moment. -/
def versionAt (moment : Nat) : Option Config :=
  currentConfig? (events (history.take moment)) ns ref

/-- Some workload of the index uses a config at a moment. -/
def UsedAt (moment : Nat) : Prop :=
  ((indexAfter (history.take moment)).within ns).References ref

/-- A config waits for its deletion at a moment. -/
def PendingAt (moment : Nat) : Prop :=
  ∃ config, versionAt history ns ref moment = some config ∧ config.isPendingDeletion = true

/-- The last delivery that is handled by a moment is one of the config as a new one. -/
def CreatedAt (moment : Nat) : Prop :=
  ∃ before next config, history.take moment = before ++ [next] ∧
    next.event.configAt? ns ref = some (.created config)

/-- The finalizer is taken off a config for the last delivery that is handled by a moment. -/
def ReleasedAt (moment : Nat) : Prop :=
  ∃ before next config, history.take moment = before ++ [next] ∧
    (config.ns = ns ∧ config.ref = ref) ∧
    .removeFinalizer config configFinalizer ∈ writesAfter before next

/-- A config is first delivered as pending: it is new, or it has not been pending so far. -/
def BeginsPending (moment : Nat) : Prop :=
  PendingAt history ns ref moment ∧
    (CreatedAt history ns ref moment ∨ ¬ PendingAt history ns ref (moment - 1))

/-- A config loses its last user. -/
def LosesLastUser (moment : Nat) : Prop :=
  UsedAt history ns ref (moment - 1) ∧ ¬ UsedAt history ns ref moment

/-- A config has been released at or after the moment at which it was first delivered as pending and
the one at which it lost its last user. -/
def ReleasedInTime : Prop :=
  ∃ moment ≤ history.length, ReleasedAt history ns ref moment ∧
    (∀ pending ≤ history.length,
      BeginsPending history ns ref pending → pending ≤ moment) ∧
    ∀ lost ≤ history.length, LosesLastUser history ns ref lost → lost ≤ moment

/-- The last delivery of a config was one of a new config, and nobody has used it from then on. -/
def NewAndNeverUsed : Prop :=
  ∃ moment ≤ history.length, CreatedAt history ns ref moment ∧
    lastConfig? (events (history.drop moment)) ns ref = none ∧
    ∀ later, moment ≤ later → later ≤ history.length → ¬ UsedAt history ns ref later

end Moments

section

variable {history : List Handling} {ns : String} {ref : ConfigRef} {moment : Nat}

/-- What comes before the last delivery that is handled by a moment is handled by the
moment before. -/
theorem eq_take_of_take_eq {before : List Handling} {next : Handling}
    (hmoment : moment ≤ history.length) (htake : history.take moment = before ++ [next]) :
    0 < moment ∧ before = history.take (moment - 1) := by
  -- the lengths tell the moment
  have hlength : moment = before.length + 1 := by
    have h := congrArg List.length htake
    simp only [List.length_take, List.length_append, List.length_singleton] at h
    omega
  refine ⟨by omega, ?_⟩
  have hbefore : (history.take moment).take before.length = before := by
    rw [htake, List.take_left]
  rw [← hbefore, List.take_take, hlength]
  congr 1
  omega

/-- What is handled after the last delivery of a config is no delivery of it. -/
theorem configAt?_of_undelivered {since : Nat}
    (hafter : lastConfig? (events (history.drop since)) ns ref = none)
    (hsince : since < moment) (hmoment : moment ≤ history.length)
    {before : List Handling} {next : Handling} (htake : history.take moment = before ++ [next]) :
    next.event.configAt? ns ref = none := by
  obtain ⟨-, hbefore⟩ := eq_take_of_take_eq hmoment htake
  -- the event is among those that are handled since
  have hlast : next ∈ (history.take moment).drop since := by
    rw [htake, List.drop_append_of_le_length]
    · simp
    · rw [hbefore, List.length_take]
      omega
  rw [List.drop_take] at hlast
  exact lastConfig?_eq_none_iff.mp hafter next.event
    (List.mem_map_of_mem (List.mem_of_mem_take hlast))

/-- While a config is not delivered, its version stays. -/
theorem versionAt_of_undelivered (hafter : lastConfig? (events (history.drop moment)) ns ref = none)
    {later : Nat} (hlater : moment ≤ later) :
    versionAt history ns ref later = versionAt history ns ref moment := by
  obtain ⟨further, rfl⟩ := Nat.exists_eq_add_of_le hlater
  -- what is handled between the two moments is among what is handled after the first
  have hnone : lastConfig? (events ((history.drop moment).take further)) ns ref = none := by
    refine lastConfig?_eq_none_iff.mpr fun event hevent => ?_
    refine lastConfig?_eq_none_iff.mp hafter event ?_
    exact ((List.take_prefix further _).map Handling.event).mem hevent
  rw [versionAt, List.take_add, events, List.map_append, currentConfig?, lastConfig?_append]
  rw [events] at hnone
  rw [hnone, Option.none_or]
  rfl

/-- The version of a config that is there at the end is that of a delivery at some moment, the last
one of the config. -/
theorem exists_last_delivery {config : Config}
    (hversion : versionAt history ns ref history.length = some config) :
    ∃ moment ≤ history.length, ∃ before next delivery,
      history.take moment = before ++ [next] ∧
        next.event.configAt? ns ref = some delivery ∧ delivery.current? = some config ∧
        lastConfig? (events (history.drop moment)) ns ref = none := by
  rw [versionAt, List.take_length] at hversion
  obtain ⟨delivery, hlast, hdelivery⟩ := Option.bind_eq_some_iff.mp hversion
  obtain ⟨_, event, _, hevents, hevent, hafter⟩ := lastConfig?_eq_some_iff.mp hlast
  obtain ⟨before, rest, rfl, rfl, hrest⟩ := List.map_eq_append_iff.mp hevents
  obtain ⟨next, after, rfl, rfl, rfl⟩ := List.map_eq_cons_iff.mp hrest
  -- the moment is the one right behind the handling of that delivery
  refine ⟨before.length + 1, by simp, before, next, delivery, ?_, hevent, hdelivery, ?_⟩
  · rw [List.append_cons, List.take_left' (by simp)]
  · rw [List.append_cons, List.drop_left' (by simp)]
    exact hafter

/-- Where the last user of a pending config is lost, the config is released. -/
theorem releasedAt_of_loss (hcurrent : StoresCurrent history) {config : Config}
    (hmoment : moment ≤ history.length) (hlost : LosesLastUser history ns ref moment)
    (hversion : versionAt history ns ref moment = some config)
    (hpending : config.isPendingDeletion = true)
    (hcarries : config.hasFinalizer configFinalizer = true) :
    ReleasedAt history ns ref moment := by
  obtain ⟨hused, hunused⟩ := hlost
  -- a loss takes a delivery, since before the first one there is nothing to lose
  have hpos : 0 < moment := by
    by_contra hzero
    obtain rfl : moment = 0 := by omega
    exact hunused hused
  have htake : history.take moment = history.take (moment - 1) ++ [history[moment - 1]] := by
    rw [List.take_append_getElem]
    congr 1
    omega
  have hprefix := List.take_prefix moment history
  rw [htake] at hprefix
  refine ⟨_, _, config, htake, name_of_currentConfig? hversion, ?_⟩
  rw [UsedAt, htake] at hunused
  refine release_of_loss hused hunused ?_ hpending hcarries
  rw [hcurrent.config _ _ hprefix, ← htake]
  exact hversion

/-- A config that is used at some moment and is not used in the end has lost its last user in
between, for good in the last instance. -/
theorem exists_last_loss (hmoment : moment ≤ history.length)
    (hused : UsedAt history ns ref moment) (hunused : ¬ UsedAt history ns ref history.length) :
    ∃ lost, moment < lost ∧ lost ≤ history.length ∧ LosesLastUser history ns ref lost ∧
      ∀ other ≤ history.length, LosesLastUser history ns ref other → other ≤ lost := by
  classical
  -- the last user is lost for good right after the last moment of use
  set last := Nat.findGreatest (UsedAt history ns ref) history.length with hlast
  have husedLast : UsedAt history ns ref last := Nat.findGreatest_spec hmoment hused
  have hge : moment ≤ last := Nat.le_findGreatest hmoment hused
  have hle : last ≤ history.length := Nat.findGreatest_le _
  have hne : last ≠ history.length := fun heq => hunused (heq ▸ husedLast)
  have hafter (later : Nat) (hlater : last < later) (hend : later ≤ history.length) :
      ¬ UsedAt history ns ref later := Nat.findGreatest_is_greatest hlater hend
  refine ⟨last + 1, by omega, by omega, ⟨husedLast, hafter _ (by omega) (by omega)⟩, ?_⟩
  intro other hother hloss
  by_contra hgt
  exact hafter (other - 1) (by omega) (by omega) hloss.1

/-- Where a pending config is updated that nobody uses, it is released. -/
theorem releasedAt_of_update {old new : Config} {before : List Handling} {next : Handling}
    (htake : history.take moment = before ++ [next])
    (hat : next.event.configAt? ns ref = some (.updated old new))
    (hpending : new.isPendingDeletion = true)
    (hcarries : new.hasFinalizer configFinalizer = true)
    (hunused : ¬ UsedAt history ns ref moment) :
    ReleasedAt history ns ref moment := by
  obtain ⟨hevent, hns, href⟩ := ClusterEvent.configAt?_eq_some_iff.mp hat
  obtain rfl : new.ns = ns := hns
  obtain rfl : new.ref = ref := href
  refine ⟨before, next, new, htake, ⟨rfl, rfl⟩, ?_⟩
  -- the index that decides is the one before the update, which leaves it as it is
  rw [UsedAt, htake, indexAfter_concat, handle_of_config? _ _ hevent] at hunused
  rw [writesAfter, handle_of_config? _ _ hevent]
  exact removeFinalizer_mem_onConfig.mpr ⟨⟨rfl, hpending, hcarries⟩, hunused, old, rfl⟩

/-- A config is not released as it is delivered as a new one. -/
theorem not_releasedAt_of_createdAt (hcreated : CreatedAt history ns ref moment) :
    ¬ ReleasedAt history ns ref moment := by
  rintro ⟨before, next, config, htake, -, hwrite⟩
  obtain ⟨before', next', config', htake', hcreated⟩ := hcreated
  -- both speak of one delivery
  obtain ⟨-, hnext⟩ := List.append_inj' (htake.symm.trans htake') rfl
  obtain rfl := List.singleton_inj.mp hnext
  obtain ⟨hevent, -⟩ := ClusterEvent.configAt?_eq_some_iff.mp hcreated
  rcases updated_or_used_of_release hwrite with ⟨old, hupdated⟩ | ⟨hnone, -⟩
  · rw [hevent] at hupdated
    cases hupdated
  · rw [hevent] at hnone
    cases hnone

/-- A config that is not delivered after some moment is released after it only if it
has been in use. -/
theorem usedAt_of_releasedAt (hcurrent : StoresCurrent history) {since : Nat}
    (hafter : lastConfig? (events (history.drop since)) ns ref = none)
    (hsince : since < moment) (hmoment : moment ≤ history.length)
    (hreleased : ReleasedAt history ns ref moment) :
    UsedAt history ns ref (moment - 1) := by
  obtain ⟨before, next, config, htake, ⟨rfl, rfl⟩, hwrite⟩ := hreleased
  obtain ⟨hpos, hbefore⟩ := eq_take_of_take_eq hmoment htake
  -- an update would be one more delivery of the config
  rcases updated_or_used_of_release hwrite with
    ⟨old, hupdated⟩ | ⟨-, ns, ref, hused, hconfig⟩
  · exfalso
    have hnone := configAt?_of_undelivered hafter hsince hmoment htake
    have hat : next.event.configAt? config.ns config.ref = some (.updated old config) :=
      ClusterEvent.configAt?_eq_some_iff.mpr ⟨hupdated, rfl, rfl⟩
    rw [hat] at hnone
    cases hnone
  · have hprefix : before ++ [next] <+: history := htake ▸ List.take_prefix moment history
    rw [hcurrent.config _ _ hprefix] at hconfig
    obtain ⟨rfl, rfl⟩ := name_of_currentConfig? hconfig
    rw [UsedAt, ← hbefore]
    exact hused

/-! ### Whole histories -/

/-- A config that was new in its last version, and has not been used from there on, has not been
released since it was first delivered as pending. -/
theorem not_releasedInTime_of_newAndNeverUsed (hcurrent : StoresCurrent history)
    {config : Config} (hversion : versionAt history ns ref history.length = some config)
    (hpending : config.isPendingDeletion = true) (hnew : NewAndNeverUsed history ns ref) :
    ¬ ReleasedInTime history ns ref := by
  rintro ⟨moment, hmoment, hreleased, hbegins, -⟩
  obtain ⟨created, hle, hcreated, hafter, hnever⟩ := hnew
  -- it has begun to be pending with its creation, so no release before that one counts
  have hpendingAt : PendingAt history ns ref created :=
    ⟨config, (versionAt_of_undelivered hafter hle).symm.trans hversion, hpending⟩
  rcases Nat.eq_or_lt_of_le (hbegins created hle ⟨hpendingAt, Or.inl hcreated⟩) with rfl | hlt
  · exact not_releasedAt_of_createdAt hcreated hreleased
  · refine hnever (moment - 1) (by omega) (by omega) ?_
    exact usedAt_of_releasedAt hcurrent hafter hlt hmoment hreleased

/-- A config that waits for its deletion and that nobody uses has been released since both came to
be so, if it was not new in its last version or has been used from there on. -/
theorem releasedInTime_of_not_newAndNeverUsed (hcurrent : StoresCurrent history)
    {config : Config} (hversion : versionAt history ns ref history.length = some config)
    (hpending : config.isPendingDeletion = true)
    (hcarries : config.hasFinalizer configFinalizer = true)
    (hunused : ¬ UsedAt history ns ref history.length)
    (hnot : ¬ NewAndNeverUsed history ns ref) :
    ReleasedInTime history ns ref := by
  obtain ⟨last, hle, before, next, delivery, htake, hat, hdelivery, hafter⟩ :=
    exists_last_delivery hversion
  have hstays {later : Nat} (hlater : last ≤ later) :
      versionAt history ns ref later = some config := by
    rw [versionAt_of_undelivered hafter hlater, ← versionAt_of_undelivered hafter hle, hversion]
  -- from its last delivery on the config waits for its deletion, and does not begin to
  have hbegins (pending : Nat) (hend : pending ≤ history.length)
      (h : BeginsPending history ns ref pending) : pending ≤ last := by
    by_contra hgt
    rcases h.2 with ⟨before', next', config', htake', hat'⟩ | hnotPending
    · rw [configAt?_of_undelivered hafter (by omega) hend htake'] at hat'
      cases hat'
    · exact hnotPending ⟨config, hstays (by omega), hpending⟩
  by_cases hused : ∃ later ≤ history.length, last ≤ later ∧ UsedAt history ns ref later
  · -- it has been used since, and is released with the last of these users
    obtain ⟨later, hend, hlater, hused⟩ := hused
    obtain ⟨lost, hlt, hlost, hloss, hlatest⟩ := exists_last_loss hend hused hunused
    refine ⟨lost, hlost, ?_, ?_, hlatest⟩
    · exact releasedAt_of_loss hcurrent hlost hloss (hstays (by omega)) hpending hcarries
    · intro pending hend h
      have hle := hbegins pending hend h
      omega
  · -- it has not been used since, so its last delivery was an update, which releases it
    have hunusedAt (later : Nat) (hlater : last ≤ later) (hend : later ≤ history.length) :
        ¬ UsedAt history ns ref later := fun h => hused ⟨later, hend, hlater, h⟩
    refine ⟨last, hle, ?_, hbegins, ?_⟩
    · cases delivery with
      | created object =>
        exact absurd ⟨last, hle, ⟨before, next, object, htake, hat⟩, hafter, hunusedAt⟩ hnot
      | deleted object => cases hdelivery
      | updated old new =>
        obtain rfl := Option.some.inj hdelivery
        exact releasedAt_of_update htake hat hpending hcarries (hunusedAt last le_rfl hle)
    · intro lost hend hloss
      by_contra hgt
      exact hunusedAt (lost - 1) (by omega) (by omega) hloss.1

/-- A config that waits for its deletion and that nobody uses has been released since both came to
be so, with one exception: if it was new to the reconciler in its last version, and has not been
used from there on, then its finalizer stays. -/
theorem releasedInTime_iff (hcurrent : StoresCurrent history) {config : Config}
    (hversion : versionAt history ns ref history.length = some config)
    (hpending : config.isPendingDeletion = true)
    (hcarries : config.hasFinalizer configFinalizer = true)
    (hunused : ¬ UsedAt history ns ref history.length) :
    ReleasedInTime history ns ref ↔ ¬ NewAndNeverUsed history ns ref := by
  constructor
  · intro hreleased hnew
    exact not_releasedInTime_of_newAndNeverUsed hcurrent hversion hpending hnew hreleased
  · exact releasedInTime_of_not_newAndNeverUsed hcurrent hversion hpending hcarries hunused

end

/-- A deployment uses a config map that waits for its deletion; then the deployment is deleted, and
that releases the config map. -/
theorem releasedInTime_of_deleted_user :
    ReleasedInTime
      (inStep .empty [.deployments (.created (.userOf "x" "a" "1")),
        .configMaps (.created (.leaving "x" "2")), .deployments (.deleted (.userOf "x" "a" "1"))])
      "default" ⟨.configMap, "x"⟩ := by
  set history := inStep .empty [.deployments (.created (.userOf "x" "a" "1")),
    .configMaps (.created (.leaving "x" "2")), .deployments (.deleted (.userOf "x" "a" "1"))]
  have hcurrent : StoresCurrent history := storesCurrent_inStep (by decide)
  have hversion : versionAt history "default" ⟨.configMap, "x"⟩ history.length =
      some (.configMap (.leaving "x" "2")) := by decide
  have hused : UsedAt history "default" ⟨.configMap, "x"⟩ 2 :=
    (NamespaceIndex.isUsed_iff _ _).mp (by decide)
  have hunused : ¬ UsedAt history "default" ⟨.configMap, "x"⟩ history.length :=
    mt (NamespaceIndex.isUsed_iff _ _).mpr (by decide)
  refine (releasedInTime_iff hcurrent hversion (by decide) (by decide) hunused).mpr ?_
  rintro ⟨moment, hle, ⟨before, next, config, htake, hat⟩, -, hnever⟩
  -- the config map is in use after its own delivery, and the delivery after that is none of it
  obtain rfl : moment = 3 := by
    by_contra hne
    have hlength : history.length = 3 := rfl
    exact hnever 2 (by omega) (by omega) hused
  have hnext := congrArg List.getLast? htake
  rw [List.getLast?_concat] at hnext
  obtain rfl := Option.some.inj hnext
  cases hat

/-- A config map that the reconciler comes to know as one that waits for its deletion, and that
nobody uses, keeps its finalizer. -/
theorem created_leaving_not_released :
    let history := inStep .empty [.configMaps (.created (.leaving "x" "1"))]
    let config := Config.configMap (.leaving "x" "1")
    StoresCurrent history ∧
      versionAt history "default" ⟨.configMap, "x"⟩ history.length = some config ∧
      config.isPendingDeletion = true ∧ config.hasFinalizer configFinalizer = true ∧
      ¬ UsedAt history "default" ⟨.configMap, "x"⟩ history.length ∧
      ¬ ReleasedInTime history "default" ⟨.configMap, "x"⟩ := by
  intro history config
  have hcurrent : StoresCurrent history := storesCurrent_inStep (by decide)
  have hversion : versionAt history "default" ⟨.configMap, "x"⟩ history.length =
      some config := by
    decide
  have hunused : ¬ UsedAt history "default" ⟨.configMap, "x"⟩ history.length :=
    mt (NamespaceIndex.isUsed_iff _ _).mpr (by decide)
  refine ⟨hcurrent, hversion, by decide, by decide, hunused, ?_⟩
  refine not_releasedInTime_of_newAndNeverUsed hcurrent hversion (by decide) ?_
  -- it is new at the only moment, and unused then
  refine ⟨1, by decide, ⟨[], _, _, rfl, by rfl⟩, by decide, ?_⟩
  intro later hlater hend
  obtain rfl : later = history.length := Nat.le_antisymm hend hlater
  exact hunused

end Reconciler

end ClusterWatch
