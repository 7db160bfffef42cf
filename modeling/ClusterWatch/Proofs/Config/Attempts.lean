import ClusterWatch.Config.Attempts
import ClusterWatch.Proofs.Collections
import ClusterWatch.Proofs.Config.Deliveries

/-!
# Failed writes are absorbed

However many calls to the cluster fail, and whichever these are, the reconciler makes the same calls
in the same order and comes to the same index; what failed is counted, and that is all that the
failures come to.

* `run_forM_attempt` — what calls one after the other come to, by induction on the calls.
* `ReconcilerM.Asks` — a part of the work that makes given calls one after the other, whatever
  they come to, and does nothing else; `Asks.append`, `Asks.forM` put such parts together.
* `asks_release`, `asks_onConfig` and others — what each part asks for, by the index
  that it starts with.
* `ofEvent_eq` — an event is handled by asking for the writes of
  `Reconciler.handle`, with its index.
* `ReconcilerRun.failures_absorbed` — the result.
-/

namespace ClusterWatch

/-! ### Calls one after the other -/

namespace Attempt

/-- The calls for writes one after the other, the first of them in a given place. -/
def inTurn (accepts : Nat → Bool) (place : Nat) (writes : List ConfigWrite) : List Attempt :=
  (writes.zipIdx place).map fun (write, place) => ⟨write, accepts place⟩

/-- What is counted after a call. -/
def count (metrics : Metrics) (attempt : Attempt) : Metrics :=
  if attempt.accepted then metrics else metrics.reconcileError Reconciler.component

variable (accepts : Nat → Bool)

@[simp]
theorem inTurn_nil (place : Nat) : inTurn accepts place [] = [] :=
  rfl

@[simp]
theorem inTurn_cons (place : Nat) (write : ConfigWrite) (rest : List ConfigWrite) :
    inTurn accepts place (write :: rest) =
      ⟨write, accepts place⟩ :: inTurn accepts (place + 1) rest :=
  rfl

/-- Calls one after the other are those for the given writes, in their order. -/
@[simp]
theorem map_write_inTurn (place : Nat) (writes : List ConfigWrite) :
    (inTurn accepts place writes).map Attempt.write = writes := by
  induction writes generalizing place with
  | nil => rfl
  | cons write rest ih => rw [inTurn_cons, List.map_cons, ih]

/-- What a call comes to is decided by its place among all calls. -/
theorem accepted_of_getElem? {place i : Nat} {writes : List ConfigWrite} {attempt : Attempt}
    (h : (inTurn accepts place writes)[i]? = some attempt) :
    attempt.accepted = accepts (place + i) := by
  rw [inTurn, List.getElem?_map, List.getElem?_zipIdx, Option.map_map] at h
  obtain ⟨write, -, rfl⟩ := Option.map_eq_some_iff.mp h
  rfl

/-- One call counts for the reconciler if it has failed. -/
theorem reconcileErrors_count (metrics : Metrics) (attempt : Attempt) (labels : List String) :
    (count metrics attempt).reconcileErrors[labels]?.getD 0 =
      metrics.reconcileErrors[labels]?.getD 0 +
        if labels = [Reconciler.component] ∧ attempt.accepted = false then 1 else 0 := by
  rw [count]
  cases attempt.accepted with
  | true => simp
  | false =>
    simp only [Bool.false_eq_true, if_false, Metrics.reconcileError, Metrics.increment,
      getD_insert_succ, and_true, eq_comm (a := labels)]

/-- Calls count for the reconciler as far as they have failed. -/
theorem reconcileErrors_foldl_count (metrics : Metrics) (attempts : List Attempt)
    (labels : List String) :
    (attempts.foldl count metrics).reconcileErrors[labels]?.getD 0 =
      metrics.reconcileErrors[labels]?.getD 0 +
        if labels = [Reconciler.component] then attempts.countP fun attempt => !attempt.accepted
        else 0 := by
  induction attempts generalizing metrics with
  | nil => simp
  | cons attempt rest ih =>
    rw [List.foldl_cons, ih, reconcileErrors_count, List.countP_cons]
    -- only the counter of the reconciler is touched, and only by a failure
    by_cases hlabels : labels = [Reconciler.component]
    · cases attempt.accepted with
      | true => simp [hlabels]
      | false =>
        simp [hlabels]
        omega
    · simp [hlabels]

/-- Calls count for nothing else. -/
theorem foldl_count_with (metrics : Metrics) (attempts : List Attempt) (errors : Counts) :
    { attempts.foldl count metrics with reconcileErrors := errors } =
      { metrics with reconcileErrors := errors } := by
  induction attempts generalizing metrics with
  | nil => rfl
  | cons attempt rest ih =>
    rw [List.foldl_cons, ih, count]
    cases attempt.accepted <;> rfl

end Attempt

namespace ReconcilerM

variable {accepts : Nat → Bool} {stores : Stores} {index : OwnershipIndex}

/-- A call leaves the index, stands behind the calls before it, and is counted if it fails. -/
theorem run_attempt (accepts : Nat → Bool) (write : ConfigWrite) (run : ReconcilerRun) :
    (attempt accepts write).run run =
      ((), ⟨run.index, run.attempts ++ [⟨write, accepts run.attempts.length⟩],
        Attempt.count run.metrics ⟨write, accepts run.attempts.length⟩⟩) := by
  cases haccepts : accepts run.attempts.length <;>
    simp [attempt, call, countFailure, haccepts, StateT.run_bind, Attempt.count] <;> rfl

/-- Calls one after the other are all made, each of them is counted if it fails, and
the index stays. -/
theorem run_forM_attempt (accepts : Nat → Bool) (writes : List ConfigWrite)
    (run : ReconcilerRun) :
    (forM writes (attempt accepts)).run run =
      let attempts := Attempt.inTurn accepts run.attempts.length writes
      ((),
        ⟨run.index, run.attempts ++ attempts, attempts.foldl Attempt.count run.metrics⟩) := by
  induction writes generalizing run with
  | nil => simp [StateT.run_pure]; rfl
  | cons write rest ih =>
    rw [List.forM_cons, StateT.run_bind, run_attempt]
    -- the place of the next call is the number of calls before it
    refine (ih _).trans ?_
    simp

/-! ### Parts of the work -/

/-- A part of the work that, where it starts with a given index, makes the calls for given writes
one after the other and does nothing else. -/
def Asks (accepts : Nat → Bool) (index : OwnershipIndex) (work : ReconcilerM Unit)
    (writes : List ConfigWrite) : Prop :=
  ∀ run : ReconcilerRun, run.index = index →
    work.run run = (forM writes (attempt accepts)).run run

/-- Doing nothing asks for no write. -/
theorem asks_nothing : Asks accepts index (pure ()) [] :=
  fun _ _ => rfl

/-- A call asks for its write. -/
theorem asks_attempt (write : ConfigWrite) :
    Asks accepts index (attempt accepts write) [write] := by
  intro run _
  simp

/-- A part after the other asks for the writes of both. -/
theorem Asks.append {first second : ReconcilerM Unit} {earlier later : List ConfigWrite}
    (hfirst : Asks accepts index first earlier) (hsecond : Asks accepts index second later) :
    Asks accepts index (first >>= fun _ => second) (earlier ++ later) := by
  intro run hindex
  rw [StateT.run_bind, hfirst run hindex, List.forM_append, StateT.run_bind, run_forM_attempt]
  -- calls leave the index as it is, whatever they come to, so the second part starts
  -- with the same one
  exact hsecond _ hindex

/-- A part for each of several things asks for the writes of all of them. -/
theorem Asks.forM {α : Type} {work : α → ReconcilerM Unit} {writes : α → List ConfigWrite}
    (h : ∀ element, Asks accepts index (work element) (writes element)) (elements : List α) :
    Asks accepts index (elements.forM work) (elements.flatMap writes) := by
  induction elements with
  | nil => exact asks_nothing
  | cons element rest ih =>
    rw [List.forM_eq_forM, List.forM_cons, List.flatMap_cons]
    exact (h element).append ih

/-- A part that looks up the index asks for what it asks for by that index. -/
theorem Asks.get {work : ReconcilerRun → ReconcilerM Unit} {writes : List ConfigWrite}
    (h : ∀ run, run.index = index → Asks accepts index (work run) writes) :
    Asks accepts index (get >>= work) writes := by
  intro run hindex
  rw [StateT.run_bind, StateT.run_get]
  exact h run hindex run hindex

/-- A choice between two parts asks for what the chosen one asks for. -/
theorem Asks.ite {condition : Prop} [Decidable condition] {work other : ReconcilerM Unit}
    {writes otherWrites : List ConfigWrite} (hwork : Asks accepts index work writes)
    (hother : Asks accepts index other otherWrites) :
    Asks accepts index (if condition then work else other)
      (if condition then writes else otherWrites) := by
  split
  · exact hwork
  · exact hother

/-- To protect a config asks for the finalizer, unless it is there. -/
theorem asks_protect (config : Config) :
    Asks accepts index (protect accepts config) (Reconciler.protect config) :=
  asks_nothing.ite (asks_attempt _)

/-- To let go of a config asks for the finalizer to be removed, if it is there. -/
theorem asks_unprotect (config : Config) :
    Asks accepts index (unprotect accepts config) (Reconciler.unprotect config) :=
  (asks_attempt _).ite asks_nothing

/-- To roll out a workload asks for its hash to be set, unless it is the right one. -/
theorem asks_rollOut (workload : Workload) (refs : ConfigRefs) :
    Asks accepts index (rollOut accepts stores workload refs)
      (Reconciler.rollOut stores workload refs) :=
  asks_nothing.ite (asks_attempt _)

/-- Of several configs, those that are cached are protected. -/
theorem asks_protectAll (ns : String) (refs : ConfigRefs) :
    Asks accepts index (protectAll accepts stores ns refs)
      (refs.toList.flatMap (Reconciler.protectRef stores ns)) := by
  refine Asks.forM (fun ref => ?_) refs.toList
  rw [Reconciler.protectRef]
  cases stores.config? ns ref with
  | none => exact asks_nothing
  | some config => exact asks_protect config

/-- Of several configs, those are let go of that the index has no users of and that wait for
their deletion. -/
theorem asks_release (ns : String) (refs : ConfigRefs) :
    Asks accepts index (release accepts stores ns refs)
      (Reconciler.release stores (index.within ns) ns refs) := by
  refine Asks.forM (fun ref => Asks.get fun run hindex => ?_) refs.toList
  rw [hindex]
  -- a config that is in use is left alone, and so is one that is not cached
  refine asks_nothing.ite ?_
  cases stores.config? ns ref with
  | none => exact asks_nothing
  | some config => exact (asks_unprotect config).ite asks_nothing

/-- Of several workloads, those that are cached are rolled out. -/
theorem asks_rollOutUsers (ns : String) (users : List WorkloadKey) :
    Asks accepts index (rollOutUsers accepts stores ns users)
      (users.flatMap (Reconciler.rollOutUser stores ns)) := by
  refine Asks.forM (fun key => ?_) users
  rw [Reconciler.rollOutUser]
  cases stores.workload? ns key with
  | none => exact asks_nothing
  | some workload => exact asks_rollOut workload _

/-! ### Deliveries -/

/-- A new config is protected and its users are rolled out, if the index has any. -/
theorem asks_configCreated (config : Config) :
    Asks accepts index (configCreated accepts stores config)
      (Reconciler.configCreated stores (index.within config.ns) config) := by
  refine Asks.get fun run hindex => ?_
  rw [hindex]
  exact asks_nothing.ite ((asks_protect config).append (asks_rollOutUsers _ _))

/-- A changed config is let go of or protected by the users that the index has of it. -/
theorem asks_configUpdated (old new : Config) :
    Asks accepts index (configUpdated accepts stores old new)
      (Reconciler.configUpdated stores (index.within new.ns) old new) := by
  refine Asks.get fun run hindex => ?_
  rw [hindex]
  -- the branches are those of the program: out of use, waiting for deletion, and in use
  refine ((asks_unprotect new).ite asks_nothing).ite (asks_nothing.ite ?_)
  exact (asks_protect new).append ((asks_rollOutUsers _ _).ite asks_nothing)

/-- A delivery of a config asks for writes, and for nothing where the config is gone. -/
theorem asks_onConfig (delivery : Delivery Config) :
    Asks accepts index (onConfig accepts stores delivery)
      (Reconciler.onConfig stores index delivery) := by
  cases delivery with
  | created config => exact asks_configCreated config
  | updated old new => exact asks_configUpdated old new
  | deleted config => exact asks_nothing

/-- A part of the work that, where it starts with a given index, replaces it and then asks for
given writes. -/
def Does (accepts : Nat → Bool) (index : OwnershipIndex) (work : ReconcilerM Unit)
    (outcome : OwnershipIndex × List ConfigWrite) : Prop :=
  ∀ run : ReconcilerRun, run.index = index →
    work.run run = (forM outcome.2 (attempt accepts)).run { run with index := outcome.1 }

/-- What only asks for writes leaves the index as it is. -/
theorem Asks.does {work : ReconcilerM Unit} {writes : List ConfigWrite}
    (h : Asks accepts index work writes) : Does accepts index work (index, writes) := by
  rintro run rfl
  exact h run rfl

/-- What comes after a workload is recorded starts with the index in which it is recorded, and with
what was recorded of it before. -/
theorem Asks.after_setRefs {ns : String} {key : WorkloadKey} {refs : ConfigRefs}
    {work : ConfigRefs → ReconcilerM Unit} {writes : List ConfigWrite}
    (h : Asks accepts (index.set ns key refs) (work (index.refsOf ns key)) writes) :
    Does accepts index (setRefs ns key refs >>= work) (index.set ns key refs, writes) := by
  rintro run rfl
  exact h _ rfl

/-- What comes after a workload is forgotten starts with the index without it, and with what was
recorded of it before. -/
theorem Asks.after_removeRefs {ns : String} {key : WorkloadKey}
    {work : ConfigRefs → ReconcilerM Unit} {writes : List ConfigWrite}
    (h : Asks accepts (index.remove ns key) (work (index.refsOf ns key)) writes) :
    Does accepts index (removeRefs ns key >>= work) (index.remove ns key, writes) := by
  rintro run rfl
  exact h _ rfl

/-- A workload that is forgotten leaves the index, and what only it used is let go of. -/
theorem does_forgetWorkload (workload : Workload) :
    Does accepts index (forgetWorkload accepts stores workload)
      (index.remove workload.ns workload.key,
        (Reconciler.forgetWorkload stores (index.within workload.ns) workload).2) := by
  refine Asks.after_removeRefs ?_
  rw [Reconciler.forgetWorkload, ← OwnershipIndex.within_remove]
  split
  next hempty =>
    -- where nothing was recorded, there is nothing to release
    have hnone : (index.within workload.ns).refsOf workload.key = ∅ :=
      Std.ExtTreeSet.isEmpty_iff.mp hempty
    dsimp only
    rw [hnone]
    exact asks_nothing
  next => exact asks_release _ _

/-- A workload is recorded or forgotten, and what follows from that is asked for. -/
theorem does_reconcileWorkload (workload : Workload) :
    let outcome := Reconciler.reconcileWorkload stores (index.within workload.ns) workload
    Does accepts index (reconcileWorkload accepts stores workload)
      (index.update workload.ns outcome.1, outcome.2) := by
  rw [reconcileWorkload, Reconciler.reconcileWorkload]
  split
  · -- opted in: what it used before comes from the index before it is recorded anew
    refine Asks.after_setRefs ?_
    dsimp only
    rw [← OwnershipIndex.within_set, List.append_assoc]
    exact (asks_protectAll _ _).append ((asks_release _ _).append (asks_rollOut _ _))
  · exact does_forgetWorkload workload

/-- A delivery of a workload is handled by its current version, or by its last one
where it is gone. -/
theorem does_onWorkload (delivery : Delivery Workload) :
    Does accepts index (onWorkload accepts stores delivery)
      (Reconciler.onWorkload stores index delivery) := by
  cases delivery with
  | created workload => exact does_reconcileWorkload workload
  | updated old workload => exact does_reconcileWorkload workload
  | deleted workload => exact does_forgetWorkload workload

/-- An event is handled by asking for the writes that are due, and leaves the index that
it is to leave. -/
theorem does_handle (event : ClusterEvent) :
    Does accepts index (handle accepts stores event) (Reconciler.handle stores index event) := by
  cases event with
  | deployments delivery => exact does_onWorkload _
  | daemonSets delivery => exact does_onWorkload _
  | statefulSets delivery => exact does_onWorkload _
  | configMaps delivery => exact (asks_onConfig _).does
  | secrets delivery => exact (asks_onConfig _).does
  | _ => exact asks_nothing.does

end ReconcilerM

namespace ReconcilerRun

variable (accepts : Nat → Bool) (stores : Stores) (index : OwnershipIndex) (metrics : Metrics)
  (event : ClusterEvent)

/-- Whatever the calls for an event come to, they are those for the writes that are due, and the
index is that which is due as well. -/
theorem ofEvent_eq :
    ofEvent accepts stores index metrics event =
      let outcome := Reconciler.handle stores index event
      let attempts := Attempt.inTurn accepts 0 outcome.2
      ⟨outcome.1, attempts, attempts.foldl Attempt.count metrics⟩ := by
  rw [ofEvent, ReconcilerM.does_handle event _ rfl, ReconcilerM.run_forM_attempt]
  rfl

/-- Failed writes are absorbed. Whichever calls fail, the reconciler asks for the same writes in the
same order as where none fails, and ends with the same index: these are the writes and the index
that are due for the event. The errors counted for it are as many more as calls have failed, and
nothing else that is counted changes. -/
theorem failures_absorbed :
    let run := ofEvent accepts stores index metrics event
    let untroubled := ofEvent (fun _ => true) stores index metrics event
    run.writes = untroubled.writes ∧
      run.index = untroubled.index ∧
      (run.index, run.writes) = Reconciler.handle stores index event ∧
      (∀ place attempt, run.attempts[place]? = some attempt →
        attempt.accepted = accepts place) ∧
      (∀ labels, run.metrics.reconcileErrors[labels]?.getD 0 =
        metrics.reconcileErrors[labels]?.getD 0 +
          if labels = [Reconciler.component] then run.failures else 0) ∧
      { run.metrics with reconcileErrors := metrics.reconcileErrors } = metrics := by
  -- both runs are those of the same writes; they differ in what the calls come to
  simp only [ofEvent_eq, writes, failures, Attempt.map_write_inTurn, Prod.mk.eta, true_and]
  refine ⟨?_, Attempt.reconcileErrors_foldl_count metrics _,
    Attempt.foldl_count_with metrics _ _⟩
  intro place attempt hattempt
  rw [Attempt.accepted_of_getElem? accepts hattempt, Nat.zero_add]

end ReconcilerRun

end ClusterWatch
