import ClusterWatch.Agent.Step
import ClusterWatch.Proofs.Watch.KindDeliveries

/-!
# The tasks of the monitor

A monitor that runs has a task for each of its checks. The tasks take turns with each other and
with the monitor, which handles one delivery of a config map after another. A task finds out
about new thresholds only at its next tick, and about the request to stop only where it waits for
one. So the monitor asks one task after another to stop, and waits until it has ended before it
goes on to the next.

* `Monitor.after`, `Monitor.thresholds?_after` — the monitor after deliveries of config maps, and
  the thresholds that are in force then.
* `CheckTask.move?` — the loop of a task, move by move.
* `Monitoring`, `Monitoring.turn?` — the monitor and its tasks between two turns, and what a
  turn does to them.
* `Monitoring.Step`, `Monitoring.step_of_turn?` — all that a turn can come to.
* `Monitoring.Reaches`, `Monitoring.Reaches.induct` — some turns lead from here to there, and
  preserve what each of them preserves.
* `Monitoring.reaches_checked` — a task among the others runs its check.
* `Monitoring.exists_reaches_idle` — whatever is being handled, some turns bring it to an end.
-/

namespace ClusterWatch

/-! ### The monitor after deliveries -/

namespace Monitor

/-- The monitor after deliveries of config maps. -/
def after (deliveries : List (Delivery ConfigMap)) : Monitor :=
  deliveries.foldl onConfigMap stopped

/-- The config map that sets the thresholds, if the last delivery of it has left it there. -/
def config? (deliveries : List (Delivery ConfigMap)) : Option ConfigMap :=
  PublishedKind.configMaps.current?
    (deliveries.map PublishedKind.configMaps.wrap) reservedNamespace thresholdConfig

/-- The monitor after a further delivery is what the delivery makes of it. -/
theorem after_concat (deliveries : List (Delivery ConfigMap)) (delivery : Delivery ConfigMap) :
    after (deliveries ++ [delivery]) = (after deliveries).onConfigMap delivery :=
  List.foldl_append

/-- A monitor runs exactly while it has thresholds. -/
theorem isRunning_eq_isSome (monitor : Monitor) :
    monitor.isRunning = monitor.thresholds?.isSome := by
  rw [isRunning, thresholds?, Option.isSome_map]

/-- A monitor that is started has the thresholds that it is started with. -/
theorem thresholds?_start (monitor : Monitor) (thresholds : Thresholds) :
    (monitor.start thresholds).thresholds? = some thresholds := by
  unfold start
  cases monitor.run <;> rfl

/-- The config map with the thresholds is the one of that name in the reserved namespace. -/
theorem isThresholdConfig_iff (config : ConfigMap) :
    isThresholdConfig config = true ↔
      ClusterObject.ns config = reservedNamespace ∧
        ClusterObject.name config = thresholdConfig := by
  have hns : config.metadata.ns = some reservedNamespace ↔
      ClusterObject.ns config = reservedNamespace := by
    show _ ↔ config.metadata.ns.getD "" = reservedNamespace
    cases config.metadata.ns with
    | none => decide
    | some ns => exact Option.some_inj
  rw [isThresholdConfig, Bool.and_eq_true, decide_eq_true_eq, decide_eq_true_eq, hns]

/-- A delivery of the config map that sets the thresholds puts them in force, or stops the monitor.
Any other leaves the thresholds as they are. -/
theorem thresholds?_onConfigMap (monitor : Monitor) (delivery : Delivery ConfigMap) :
    (monitor.onConfigMap delivery).thresholds? =
      if ClusterObject.ns delivery.object = reservedNamespace ∧
          ClusterObject.name delivery.object = thresholdConfig then
        delivery.current?.map fun config => .ofData config.data
      else monitor.thresholds? := by
  simp only [onConfigMap, isThresholdConfig_iff]
  split
  · cases delivery with
    | created config => exact monitor.thresholds?_start _
    | updated old config => exact monitor.thresholds?_start _
    | deleted config => rfl
  · rfl

/-- The thresholds in force are those of the config map that the deliveries have left. -/
theorem thresholds?_after (deliveries : List (Delivery ConfigMap)) :
    (after deliveries).thresholds? =
      (config? deliveries).map fun config => .ofData config.data := by
  induction deliveries using List.reverseRecOn with
  | nil => rfl
  | append_singleton deliveries delivery ih =>
    rw [after_concat, thresholds?_onConfigMap, ih, config?, config?, List.map_append,
      List.map_singleton, PublishedKind.current?_concat_wrap]
    split <;> rfl

end Monitor

/-! ### Tasks -/

/-- What a task is at. -/
inductive TaskPhase where
  /-- It waits for its next tick or for the request to stop. -/
  | waiting
  /-- Its check runs, with the thresholds that it found at the tick. -/
  | checking (thresholds : Thresholds)
  /-- Its check is over, and these alerts are still to be emitted. -/
  | emitting (alerts : List Alert)
  /-- It has acknowledged the request to stop, and its loop is over. -/
  | ended
  deriving DecidableEq, Repr

/-- The task of a check. -/
structure CheckTask where
  /-- The check that it runs. -/
  check : Check
  /-- The start of the monitor that has spawned it, counted from one. -/
  start : Nat
  /-- Whether it has been asked to stop. -/
  asked : Bool
  /-- What it is at. -/
  phase : TaskPhase
  deriving DecidableEq, Repr

/-- What others notice of a task. -/
inductive TaskAct where
  /-- It starts its check, with these thresholds. -/
  | ticked (thresholds : Thresholds)
  /-- It emits an alert. -/
  | emitted (alert : Alert)
  deriving DecidableEq, Repr

/-- An act of the task that some start has spawned for a check. -/
structure Deed where
  /-- The start, counted from one. -/
  start : Nat
  /-- The check. -/
  check : Check
  /-- What the task did. -/
  act : TaskAct
  deriving DecidableEq, Repr

/-- A move of a task. -/
inductive TaskMove where
  /-- Its interval has passed, and its check starts. -/
  | tick
  /-- The check could not reach an agent on a node, and says so while it goes on. -/
  | report (alert : Alert)
  /-- The check is over and has come to what it makes of the thresholds. -/
  | finish (alerts : Thresholds → List Alert)
  /-- The first of the alerts that are left is emitted. -/
  | emit
  /-- All alerts are emitted, and the task waits again. -/
  | rest
  /-- The request to stop is acknowledged, and the loop is left. -/
  | acknowledge

namespace CheckTask

/-- What a move brings a task to, and what is noticed of it, if the task can make it. Nothing
interrupts a check or the alerts after it. -/
def move? (task : CheckTask) (config : Thresholds) (move : TaskMove) :
    Option (TaskPhase × List TaskAct) :=
  match move, task.phase with
  -- the thresholds are read once, so a check in progress does not see new ones
  | .tick, .waiting => if task.asked then none else some (.checking config, [.ticked config])
  | .report alert, .checking thresholds => some (.checking thresholds, [.emitted alert])
  | .finish alerts, .checking thresholds => some (.emitting (alerts thresholds), [])
  | .emit, .emitting (alert :: rest) => some (.emitting rest, [.emitted alert])
  | .rest, .emitting [] => some (.waiting, [])
  -- where the task waits, a request to stop goes before the tick
  | .acknowledge, .waiting => if task.asked then some (.ended, []) else none
  | _, _ => none

/-- Acts as those of this task. -/
def deeds (task : CheckTask) (acts : List TaskAct) : List Deed :=
  acts.map (⟨task.start, task.check, ·⟩)

/-- A task that goes on with its checks. -/
def IsAtWork (task : CheckTask) : Prop :=
  task.asked = false ∧ task.phase ≠ .ended

variable {task : CheckTask} {config : Thresholds} {phase : TaskPhase} {acts : List TaskAct}

/-- Only a task that has been asked to stop ends. -/
theorem asked_of_move?_ended {move : TaskMove} (h : task.move? config move = some (.ended, acts)) :
    task.asked = true := by
  unfold move? at h
  split at h
  -- where the task waits, a tick leads to a check and the acknowledgement to the end
  case h_1 => simp at h
  case h_6 => simpa using (Option.ite_none_right_eq_some.mp h).1
  all_goals simp at h

/-- A task that is not asked to stop goes on, whatever move it makes. -/
theorem IsAtWork.move (h : task.IsAtWork) {move : TaskMove}
    (hmove : task.move? config move = some (phase, acts)) :
    { task with phase }.IsAtWork := by
  refine ⟨h.1, fun hended => ?_⟩
  rw [show phase = .ended from hended] at hmove
  exact Bool.false_ne_true (h.1.symm.trans (asked_of_move?_ended hmove))

/-- A tick starts the check with the thresholds that are set at that moment. -/
theorem move?_tick_eq_some_iff :
    task.move? config .tick = some (phase, acts) ↔
      task.phase = .waiting ∧ task.asked = false ∧ phase = .checking config ∧
        acts = [.ticked config] := by
  unfold move?
  cases task.phase <;> cases task.asked <;> simp [eq_comm]

end CheckTask

/-! ### Turns -/

/-- A delivery whose handling takes more than one turn. -/
inductive Errand where
  /-- It starts the monitor, and tasks for some checks are still to be spawned. -/
  | starting (delivery : Delivery ConfigMap) (rest : List Check)
  /-- It stops the monitor, task by task. -/
  | stopping (delivery : Delivery ConfigMap)

/-- The delivery that is handled. -/
def Errand.delivery : Errand → Delivery ConfigMap
  | .starting delivery _ => delivery
  | .stopping delivery => delivery

/-- The monitor and its tasks between two turns. -/
structure Monitoring where
  /-- The monitor. -/
  monitor : Monitor
  /-- The thresholds that the tasks find when they tick. -/
  config : Thresholds
  /-- What the monitor is handling, none between two deliveries. -/
  errand : Option Errand
  /-- The tasks that have been spawned and not been waited for. -/
  tasks : List CheckTask
  /-- How often tasks have been spawned. -/
  starts : Nat
  /-- The deliveries that have been handled. -/
  handled : List (Delivery ConfigMap)
  /-- What the tasks have done. -/
  log : List Deed

namespace Monitoring

/-- Nothing has been delivered yet. -/
def initial : Monitoring :=
  ⟨.stopped, ⟨0, 0, 0, 0⟩, none, [], 0, [], []⟩

/-- The handling of a delivery begins. A monitor that comes to run has its tasks to spawn, and one
that ceases to run has them to stop. In all other cases the delivery is handled at once: the tasks
go on, and find the thresholds set. -/
def begin (system : Monitoring) (delivery : Delivery ConfigMap) : Monitoring :=
  let monitor := system.monitor.onConfigMap delivery
  match system.monitor.thresholds?, monitor.thresholds? with
  | none, none => { system with monitor, handled := system.handled ++ [delivery] }
  | none, some config =>
    -- the monitor counts as running when all tasks are spawned
    { system with config, errand := some (.starting delivery Check.all), starts :=
        system.starts + 1 }
  | some _, none =>
    -- the monitor counts as stopped from the first, while its tasks can still be at work
    { system with monitor, errand := some (.stopping delivery) }
  | some _, some config => { system with monitor, config, handled := system.handled ++ [delivery] }

/-- What can be done in one turn. -/
inductive Turn where
  /-- The monitor takes up a delivery. -/
  | handle (delivery : Delivery ConfigMap)
  /-- The next task is spawned. -/
  | spawn
  /-- The first of the tasks is asked to stop. -/
  | ask
  /-- The first of the tasks has ended, and is waited for no longer. -/
  | join
  /-- The delivery at hand is done with. -/
  | done
  /-- A task makes a move. -/
  | move (index : Nat) (move : TaskMove)

/-- The monitor and its tasks after a turn, if the turn can be taken. -/
def turn? (system : Monitoring) : Turn → Option Monitoring
  | .handle delivery =>
    match system.errand with
    | none => some (system.begin delivery)
    | some _ => none
  | .spawn =>
    match system.errand with
    | some (.starting delivery (check :: rest)) =>
      some { system with
        errand := some (.starting delivery rest)
        tasks := system.tasks ++ [⟨check, system.starts, false, .waiting⟩] }
    | _ => none
  | .ask =>
    -- only the first task is asked: the next one goes on until this one has ended
    match system.errand, system.tasks with
    | some (.stopping _), task :: rest =>
      some { system with tasks := { task with asked := true } :: rest }
    | _, _ => none
  | .join =>
    match system.errand, system.tasks with
    | some (.stopping _), ⟨_, _, _, .ended⟩ :: rest => some { system with tasks := rest }
    | _, _ => none
  | .done =>
    match system.errand, system.tasks with
    | some (.starting delivery []), _ =>
      some { system with
        monitor := system.monitor.onConfigMap delivery
        errand := none
        handled := system.handled ++ [delivery] }
    | some (.stopping delivery), [] =>
      some { system with errand := none, handled := system.handled ++ [delivery] }
    | _, _ => none
  | .move index move => do
    let task ← system.tasks[index]?
    let (phase, acts) ← task.move? system.config move
    some { system with
      tasks := system.tasks.set index { task with phase }
      log := system.log ++ task.deeds acts }

/-- All that a turn can come to, and what is known where it can be taken. -/
inductive Step (system : Monitoring) : Monitoring → Prop
  | begin (delivery : Delivery ConfigMap) (hidle : system.errand = none) :
    Step system (system.begin delivery)
  | spawn (delivery : Delivery ConfigMap) (check : Check) (rest : List Check)
      (herrand : system.errand = some (.starting delivery (check :: rest))) :
      Step system { system with
        errand := some (.starting delivery rest)
        tasks := system.tasks ++ [⟨check, system.starts, false, .waiting⟩] }
  | ask (delivery : Delivery ConfigMap) (task : CheckTask) (rest : List CheckTask)
      (herrand : system.errand = some (.stopping delivery)) (htasks : system.tasks = task :: rest) :
      Step system { system with tasks := { task with asked := true } :: rest }
  | join (delivery : Delivery ConfigMap) (task : CheckTask) (rest : List CheckTask)
      (herrand : system.errand = some (.stopping delivery)) (htasks : system.tasks = task :: rest) :
      Step system { system with tasks := rest }
  -- a delivery is done with when all tasks are spawned, or when all of them have ended
  | started (delivery : Delivery ConfigMap)
    (herrand : system.errand = some (.starting delivery [])) :
      Step system { system with
        monitor := system.monitor.onConfigMap delivery
        errand := none
        handled := system.handled ++ [delivery] }
  | stopped (delivery : Delivery ConfigMap) (herrand : system.errand = some (.stopping delivery))
      (htasks : system.tasks = []) :
      Step system { system with errand := none, handled := system.handled ++ [delivery] }
  | move (index : Nat) (task : CheckTask) (move : TaskMove) (phase : TaskPhase)
    (acts : List TaskAct)
      (htask : system.tasks[index]? = some task)
        (hmove : task.move? system.config move = some (phase, acts)) :
      Step system { system with
        tasks := system.tasks.set index { task with phase }
        log := system.log ++ task.deeds acts }

variable {system next later : Monitoring}

/-- What a move of a task comes to. -/
theorem turn?_move_eq_some {index : Nat} {move : TaskMove}
    (h : system.turn? (.move index move) = some next) :
    ∃ task phase acts, system.tasks[index]? = some task ∧
      task.move? system.config move = some (phase, acts) ∧ next = { system with
        tasks := system.tasks.set index { task with phase }
        log := system.log ++ task.deeds acts } := by
  obtain ⟨task, htask, hrest⟩ := Option.bind_eq_some_iff.mp h
  obtain ⟨⟨phase, acts⟩, hmove, hnext⟩ := Option.bind_eq_some_iff.mp hrest
  exact ⟨task, phase, acts, htask, hmove, (Option.some.inj hnext).symm⟩

/-- A turn that is possible is a step. -/
theorem step_of_turn? {turn : Turn} (h : system.turn? turn = some next) : system.Step next := by
  cases turn with
  | handle delivery =>
    simp only [turn?] at h
    split at h
    next hidle => exact Option.some.inj h ▸ .begin delivery hidle
    next => cases h
  | spawn =>
    simp only [turn?] at h
    split at h
    next delivery check rest herrand =>
      exact Option.some.inj h ▸ .spawn delivery check rest herrand
    next => cases h
  | ask =>
    simp only [turn?] at h
    split at h
    next delivery task rest herrand htasks =>
      exact Option.some.inj h ▸ .ask delivery task rest herrand htasks
    next => cases h
  | join =>
    simp only [turn?] at h
    split at h
    next delivery _ _ _ rest herrand htasks =>
      exact Option.some.inj h ▸ .join delivery _ rest herrand htasks
    next => cases h
  -- there are two ways to be done: all tasks have been spawned, or none is left to be stopped
  | done =>
    simp only [turn?] at h
    split at h
    next delivery herrand => exact Option.some.inj h ▸ .started delivery herrand
    next delivery herrand htasks => exact Option.some.inj h ▸ .stopped delivery herrand htasks
    next => cases h
  | move index move =>
    obtain ⟨task, phase, acts, htask, hmove, rfl⟩ := turn?_move_eq_some h
    exact .move index task move phase acts htask hmove

/-! ### Runs -/

/-- The monitor and its tasks after several turns, if they can be taken. -/
def turns? (system : Monitoring) (turns : List Turn) : Option Monitoring :=
  turns.foldlM turn? system

/-- Some turns lead from here to there. -/
def Reaches (system later : Monitoring) : Prop :=
  ∃ turns, system.turns? turns = some later

/-- A system reaches itself. -/
theorem Reaches.refl (system : Monitoring) : system.Reaches system :=
  ⟨[], rfl⟩

/-- It reaches what a turn leads to. -/
theorem Reaches.of_turn (turn : Turn) (h : system.turn? turn = some next) : system.Reaches next :=
  ⟨[turn], by rw [turns?, List.foldlM_cons, h]; rfl⟩

/-- It reaches what can be reached from there. -/
theorem Reaches.trans (hearlier : system.Reaches next) (hrest : next.Reaches later) :
    system.Reaches later := by
  obtain ⟨earlier, hnext⟩ := hearlier
  obtain ⟨rest, hlater⟩ := hrest
  refine ⟨earlier ++ rest, ?_⟩
  rw [turns?, List.foldlM_append]
  exact Option.bind_eq_some_iff.mpr ⟨next, hnext, hlater⟩

/-- What every turn preserves, a run preserves. -/
theorem Reaches.induct (holds : Monitoring → Prop)
    (hstep : ∀ {system next : Monitoring}, holds system → system.Step next → holds next)
    (h : system.Reaches later) (hsystem : holds system) : holds later := by
  obtain ⟨turns, hturns⟩ := h
  refine of_foldlM_eq_some holds (fun turn before after hbefore hturn => ?_) hturns hsystem
  exact hstep hbefore (step_of_turn? hturn)

/-! ### Runs of one task -/

section Task

variable (system : Monitoring) (before after : List CheckTask) (task : CheckTask) (log : List Deed)

/-- The same system with these tasks and this log. One task among the others is looked at, and it is
at this phase. -/
def withTask (phase : TaskPhase) : Monitoring :=
  { system with tasks := before ++ { task with phase } :: after, log }

/-- What a task can do by itself, it can do among the others. -/
theorem reaches_move (phase : TaskPhase) {reached : TaskPhase} {acts : List TaskAct}
    (move : TaskMove)
    (hmove : { task with phase }.move? system.config move = some (reached, acts)) :
    (system.withTask before after task log phase).Reaches
      (system.withTask before after task (log ++ task.deeds acts) reached) := by
  refine .of_turn (.move before.length move) ?_
  -- the task stands behind those before it
  have htask : (before ++ { task with phase } :: after)[before.length]? =
      some { task with phase } := by simp
  have hset :
      (before ++ { task with phase } :: after).set before.length { task with phase := reached } =
      before ++ { task with phase := reached } :: after := by simp
  simp only [turn?, withTask, htask, hmove, hset, Option.bind_eq_bind, Option.bind_some]
  rfl

/-- A check reports on its way what it cannot reach. -/
theorem reaches_reported (thresholds : Thresholds) (alerts : List Alert) :
    (system.withTask before after task log (.checking thresholds)).Reaches
      (system.withTask before after task (log ++ task.deeds (alerts.map .emitted))
        (.checking thresholds)) := by
  induction alerts generalizing log with
  | nil =>
    rw [List.map_nil, CheckTask.deeds, List.map_nil, List.append_nil]
    exact .refl _
  | cons alert rest ih =>
    have hrest := ih (log ++ task.deeds [.emitted alert])
    rw [List.append_assoc] at hrest
    exact (reaches_move system before after task log _ (.report alert) rfl).trans hrest

/-- A task emits the alerts of its check one by one, and then waits again. -/
theorem reaches_emitted (alerts : List Alert) :
    (system.withTask before after task log (.emitting alerts)).Reaches
      (system.withTask before after task (log ++ task.deeds (alerts.map .emitted)) .waiting) := by
  induction alerts generalizing log with
  | nil => exact reaches_move system before after task log _ .rest rfl
  | cons alert rest ih =>
    have hrest := ih (log ++ task.deeds [.emitted alert])
    rw [List.append_assoc] at hrest
    exact (reaches_move system before after task log _ .emit rfl).trans hrest

/-- A task that waits can run its check, from the tick to the last alert. -/
theorem reaches_checked (hasked : task.asked = false) (reported alerts : List Alert) :
    (system.withTask before after task log .waiting).Reaches
      (system.withTask before after task
        (log ++ task.deeds (.ticked system.config :: (reported ++ alerts).map .emitted))
          .waiting) := by
  have htick := reaches_move system before after task log .waiting .tick
    (CheckTask.move?_tick_eq_some_iff.mpr ⟨rfl, hasked, rfl, rfl⟩)
  have hreported := reaches_reported system before after task
    (log ++ task.deeds [.ticked system.config]) system.config reported
  have hfinish := reaches_move system before after task
    (log ++ task.deeds [.ticked system.config] ++ task.deeds (reported.map .emitted))
    (.checking system.config) (.finish fun _ => alerts) rfl
  have hemitted := reaches_emitted system before after task
    (log ++ task.deeds [.ticked system.config] ++ task.deeds (reported.map .emitted) ++
      task.deeds []) alerts
  -- the four logs put together
  have hlog : log ++ task.deeds [.ticked system.config] ++ task.deeds (reported.map .emitted) ++
      task.deeds [] ++ task.deeds (alerts.map .emitted) =
        log ++ task.deeds (.ticked system.config :: (reported ++ alerts).map .emitted) := by
    simp [CheckTask.deeds]
  rw [hlog] at hemitted
  exact ((htick.trans hreported).trans hfinish).trans hemitted

/-- A task that has not ended comes to wait, whatever it is at. -/
theorem exists_reaches_waiting {phase : TaskPhase} (hphase : phase ≠ .ended) :
    ∃ log', (system.withTask before after task log phase).Reaches
      (system.withTask before after task log' .waiting) := by
  cases phase with
  | waiting => exact ⟨log, .refl _⟩
  -- a check may be left without an alert
  | checking thresholds =>
    have hfinish :=
      reaches_move system before after task log (.checking thresholds) (.finish fun _ => []) rfl
    exact ⟨_, hfinish.trans (reaches_emitted system before after task _ [])⟩
  | emitting alerts => exact ⟨_, reaches_emitted system before after task log alerts⟩
  | ended => exact absurd rfl hphase

end Task

/-! ### The end of a handling -/

/-- The first of the tasks, wherever it is, comes to its end when it is asked to stop. -/
theorem exists_reaches_joined {delivery : Delivery ConfigMap}
    (herrand : system.errand = some (.stopping delivery)) {task : CheckTask} {rest : List CheckTask}
    (htasks : system.tasks = task :: rest) :
    ∃ log, system.Reaches { system with tasks := rest, log } := by
  have hjoin (log : List Deed) (asked : Bool) :
      (system.withTask [] rest { task with asked } log .ended).Reaches
        { system with tasks := rest, log } :=
    .of_turn .join (by simp only [turn?, withTask, herrand, List.nil_append])
  have hsystem : system = system.withTask [] rest task system.log task.phase := by
    rw [withTask, List.nil_append, ← htasks]
  by_cases hended : task.phase = .ended
  · rw [hended] at hsystem
    exact ⟨system.log, hsystem ▸ hjoin system.log task.asked⟩
  · -- a check that runs is over first, with its alerts: only then does the task look for a request
    obtain ⟨log, hwaiting⟩ := exists_reaches_waiting system [] rest task system.log hended
    rw [← hsystem] at hwaiting
    have hask : (system.withTask [] rest task log .waiting).Reaches
        (system.withTask [] rest { task with asked := true } log .waiting) :=
      .of_turn .ask (by simp only [turn?, withTask, herrand, List.nil_append])
    have hacknowledge :=
      reaches_move system [] rest { task with asked := true } log .waiting .acknowledge rfl
    exact ⟨_, ((hwaiting.trans hask).trans hacknowledge).trans (hjoin _ true)⟩

/-- Stopping comes to an end, whatever the tasks are at. -/
theorem exists_reaches_stopped (system : Monitoring) (tasks : List CheckTask)
    {delivery : Delivery ConfigMap} (herrand : system.errand = some (.stopping delivery))
    (htasks : system.tasks = tasks) :
    ∃ later, system.Reaches later ∧ later.errand = none ∧
      later.handled = system.handled ++ [delivery] := by
  induction tasks generalizing system with
  -- no task is left to be stopped
  | nil =>
    obtain ⟨later, hdone, hlater⟩ : ∃ later, system.turn? .done = some later ∧
        later.errand = none ∧ later.handled = system.handled ++ [delivery] := by
      simp [turn?, herrand, htasks]
    exact ⟨later, .of_turn .done hdone, hlater⟩
  | cons task rest ih =>
    obtain ⟨log, hjoined⟩ := exists_reaches_joined herrand htasks
    obtain ⟨later, hstopped, hlater⟩ := ih { system with tasks := rest, log } herrand rfl
    exact ⟨later, hjoined.trans hstopped, hlater⟩

/-- Starting comes to an end. -/
theorem exists_reaches_started (system : Monitoring) (rest : List Check)
    {delivery : Delivery ConfigMap} (herrand : system.errand = some (.starting delivery rest)) :
    ∃ later, system.Reaches later ∧ later.errand = none ∧
      later.handled = system.handled ++ [delivery] := by
  induction rest generalizing system with
  -- all checks have been spawned
  | nil =>
    obtain ⟨later, hdone, hlater⟩ : ∃ later, system.turn? .done = some later ∧
        later.errand = none ∧ later.handled = system.handled ++ [delivery] := by
      simp [turn?, herrand]
    exact ⟨later, .of_turn .done hdone, hlater⟩
  | cons check rest ih =>
    obtain ⟨next, hspawn, hnext, hhandled⟩ : ∃ next, system.turn? .spawn = some next ∧
        next.errand = some (.starting delivery rest) ∧ next.handled = system.handled := by
      simp [turn?, herrand]
    obtain ⟨later, hstarted, hlater⟩ := ih next hnext
    exact ⟨later, (Reaches.of_turn .spawn hspawn).trans hstarted, hhandled ▸ hlater⟩

/-- Whatever is handled at the moment, some turns bring it to an end. -/
theorem exists_reaches_idle (system : Monitoring) :
    ∃ later, system.Reaches later ∧ later.errand = none ∧
      later.handled = system.handled ++ system.errand.toList.map Errand.delivery := by
  cases herrand : system.errand with
  | none => exact ⟨system, .refl system, herrand, (List.append_nil _).symm⟩
  | some errand =>
    cases errand with
    | starting delivery rest => exact exists_reaches_started system rest herrand
    | stopping delivery => exact exists_reaches_stopped system system.tasks herrand rfl

end Monitoring

end ClusterWatch
