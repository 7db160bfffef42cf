import ClusterWatch.Config.Reconciler
import ClusterWatch.Metrics

/-!
# Attempted writes

How the reconciler works through an event, one call to the cluster after the other. Every call comes
to something; one that fails is counted, and the reconciler goes on.
-/

namespace ClusterWatch

/-- A call to the cluster, and what it has come to. -/
structure Attempt where
  /-- The write that was asked for. -/
  write : ConfigWrite
  /-- Whether it was accepted. -/
  accepted : Bool
  deriving DecidableEq, Repr

/-- How far a reconciler has come with an event. -/
structure ReconcilerRun where
  /-- The ownership index. -/
  index : OwnershipIndex
  /-- The calls so far, in order. -/
  attempts : List Attempt
  /-- What the agent counts. -/
  metrics : Metrics

/-- A part of the work of a reconciler. -/
abbrev ReconcilerM := StateM ReconcilerRun

namespace ReconcilerM

/-! ### Calls to the cluster, and the index -/

/-- Call the cluster for a write. Whether it is accepted is given by the place of the call among
those for the event. -/
def call (accepts : Nat → Bool) (write : ConfigWrite) : ReconcilerM Bool :=
  modifyGet fun run =>
    let accepted := accepts run.attempts.length
    (accepted, { run with attempts := run.attempts ++ [⟨write, accepted⟩] })

/-- Count a call that has failed. -/
def countFailure : ReconcilerM Unit :=
  modify fun run => { run with metrics := run.metrics.reconcileError Reconciler.component }

/-- Call the cluster for a write, and count the call if it fails. -/
def attempt (accepts : Nat → Bool) (write : ConfigWrite) : ReconcilerM Unit := do
  unless ← call accepts write do countFailure

/-- Record the configs of a workload, for those that were recorded before. -/
def setRefs (ns : String) (key : WorkloadKey) (refs : ConfigRefs) : ReconcilerM ConfigRefs :=
  modifyGet fun run => (run.index.refsOf ns key, { run with index := run.index.set ns key refs })

/-- Forget a workload, for the configs that were recorded for it. -/
def removeRefs (ns : String) (key : WorkloadKey) : ReconcilerM ConfigRefs :=
  modifyGet fun run => (run.index.refsOf ns key, { run with index := run.index.remove ns key })

/-! ### The parts of the work -/

variable (accepts : Nat → Bool) (stores : Stores)

/-- Protect a config that is in use: the finalizer is added unless it is there. -/
def protect (config : Config) : ReconcilerM Unit := do
  unless config.hasFinalizer configFinalizer do
    attempt accepts (.addFinalizer config configFinalizer)

/-- Let go of a config that is out of use: the finalizer is removed if it is there. -/
def unprotect (config : Config) : ReconcilerM Unit := do
  if config.hasFinalizer configFinalizer then
    attempt accepts (.removeFinalizer config configFinalizer)

/-- Protect the given configs, as far as they are cached. -/
def protectAll (ns : String) (refs : ConfigRefs) : ReconcilerM Unit :=
  refs.toList.forM fun ref => do
    if let some config := stores.config? ns ref then
      protect accepts config

/-- Let go of those of the given configs that nobody uses and that wait for their deletion. -/
def release (ns : String) (refs : ConfigRefs) : ReconcilerM Unit :=
  refs.toList.forM fun ref => do
    unless (← get).index.isUsed ns ref do
      if let some config := stores.config? ns ref then
        if config.isPendingDeletion then
          unprotect accepts config

/-- Roll out a workload if the hash that its template carries is not that of its configs. -/
def rollOut (workload : Workload) (refs : ConfigRefs) : ReconcilerM Unit := do
  let hash := Reconciler.cachedHash stores workload.ns refs
  unless workload.configHash? = some hash do
    attempt accepts (.setConfigHash workload hash)

/-- Roll out the cached workloads of several keys, by the configs that they refer to now. -/
def rollOutUsers (ns : String) (users : List WorkloadKey) : ReconcilerM Unit :=
  users.forM fun key => do
    if let some workload := stores.workload? ns key then
      rollOut accepts stores workload workload.referencedConfigs

/-- Forget a workload that is gone and release what it used. -/
def forgetWorkload (workload : Workload) : ReconcilerM Unit := do
  let previous ← removeRefs workload.ns workload.key
  unless previous.isEmpty do
    release accepts stores workload.ns previous

/-- Record what a workload uses, protect that, release what it no longer uses, and roll it out. A
workload that has not opted in is forgotten instead. -/
def reconcileWorkload (workload : Workload) : ReconcilerM Unit := do
  if workload.isOptedIn then
    let refs := workload.referencedConfigs
    let previous ← setRefs workload.ns workload.key refs
    protectAll accepts stores workload.ns refs
    release accepts stores workload.ns (previous \ refs)
    rollOut accepts stores workload refs
  else
    forgetWorkload accepts stores workload

/-- Protect a new config that is in use and roll out its users. -/
def configCreated (config : Config) : ReconcilerM Unit := do
  let users := (← get).index.usersOf config.ns config.ref
  unless users.isEmpty do
    protect accepts config
    rollOutUsers accepts stores config.ns users

/-- Let go of a changed config that waits for its deletion and is out of use; protect one that is in
use and stays, and roll out its users if its data have changed. -/
def configUpdated (old new : Config) : ReconcilerM Unit := do
  let users := (← get).index.usersOf new.ns new.ref
  if new.isPendingDeletion then
    if users.isEmpty then
      unprotect accepts new
  else
    unless users.isEmpty do
      protect accepts new
      if old.data ≠ new.data then
        rollOutUsers accepts stores new.ns users

/-! ### Deliveries and events -/

/-- Handle a delivery of a workload. -/
def onWorkload : Delivery Workload → ReconcilerM Unit
  | .created workload => reconcileWorkload accepts stores workload
  | .updated _ workload => reconcileWorkload accepts stores workload
  | .deleted workload => forgetWorkload accepts stores workload

/-- Handle a delivery of a config. A config that is gone needs nothing. -/
def onConfig : Delivery Config → ReconcilerM Unit
  | .created config => configCreated accepts stores config
  | .updated old new => configUpdated accepts stores old new
  | .deleted _ => pure ()

/-- Handle a cluster event. -/
def handle : ClusterEvent → ReconcilerM Unit
  | .deployments delivery => onWorkload accepts stores (delivery.map (⟨.deployment, ·⟩))
  | .daemonSets delivery => onWorkload accepts stores (delivery.map (⟨.daemonSet, ·⟩))
  | .statefulSets delivery => onWorkload accepts stores (delivery.map (⟨.statefulSet, ·⟩))
  | .configMaps delivery => onConfig accepts stores (delivery.map .configMap)
  | .secrets delivery => onConfig accepts stores (delivery.map .secret)
  | _ => pure ()

end ReconcilerM

namespace ReconcilerRun

/-- The writes that were asked for, in order. -/
def writes (run : ReconcilerRun) : List ConfigWrite :=
  run.attempts.map Attempt.write

/-- The number of calls that have failed. -/
def failures (run : ReconcilerRun) : Nat :=
  run.attempts.countP fun attempt => !attempt.accepted

/-- A cluster event worked through. -/
def ofEvent (accepts : Nat → Bool) (stores : Stores) (index : OwnershipIndex) (metrics : Metrics)
    (event : ClusterEvent) : ReconcilerRun :=
  ((ReconcilerM.handle accepts stores event).run ⟨index, [], metrics⟩).2

end ReconcilerRun

end ClusterWatch
